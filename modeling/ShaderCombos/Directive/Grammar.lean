import ShaderCombos.Directive.Bracket
import ShaderCombos.Directive.Kind
import ShaderCombos.Width

/-!
# The grammar of directives

    // STATIC: "NAME" "min..max" [PC] [=init]
    // DYNAMIC: "NAME" "min..max" [ps30]
    // CENTROID: TEXCOORD2
    // SKIP: $A && !$B [vs20]

Blanks may stand between the parts of a line. A line is a directive as soon as its keyword is followed
by a colon; what comes then has to fit the keyword.

* `head?`: the kind of a directive and its body.
* `combo?`, `centroidSlot?`, `skipRule`: what a directive of each kind declares.
-/

namespace ShaderCombos.Directive

open Text

/-! ## The head of a directive -/

/-- What follows the colon of a directive of the given kind, from the first character that is not
blank. -/
def afterColon? (kind : Kind) (line : List Char) : Option (List Char) := do
  let s ← dropLiteral? "//" (dropBlanks line)
  let s ← dropLiteral? kind.keyword (dropBlanks s)
  let s ← dropLiteral? ":" (dropBlanks s)
  some (dropBlanks s)

/-- The kind of a directive and its body, which reaches to the end of the line. -/
def head? (line : List Char) : Option (Kind × List Char) := do
  let (kind, body) ← Kind.all.findSome? fun kind => (afterColon? kind line).map (kind, ·)
  if body.contains '\n' then none else some (kind, body)

/-! ## Bodies -/

/-- A numeral in ASCII digits at the front of a text, and the text behind it. -/
def numeral? (s : List Char) : Option (Nat × List Char) :=
  (readDecimal? (s.takeWhile Char.isDigit)).map (·, s.dropWhile Char.isDigit)

/-- A text in double quotes at the front of a text, and what follows; the quotes hold something. -/
def quotedName? : List Char → Option (List Char × List Char)
  | '"' :: rest =>
    let name := rest.takeWhile (· ≠ '"')
    match rest.dropWhile (· ≠ '"') with
    | '"' :: more => if name.isEmpty then none else some (name, more)
    | _ => none
  | _ => none

/-- A range in double quotes at the front of a text: two numerals with two dots between them. -/
def quotedRange? (s : List Char) : Option (Nat × Nat) := do
  let s ← dropLiteral? "\"" s
  let (min, s) ← numeral? s
  let s ← dropLiteral? ".." s
  let (max, s) ← numeral? s
  let _ ← dropLiteral? "\"" s
  some (min, max)

/-- A bound of a range, which has to fit a signed 32-bit number. -/
def bound? (n : Nat) : Option Int32 :=
  if fitsSigned32 n then some (Int32.ofNat n) else none

/-- An initial expression without the blanks around it, the last semicolon in it and all that follows
that semicolon. -/
def cleanInit (text : List Char) : List Char :=
  let text := trim text
  match text.reverse.dropWhile (· ≠ ';') with
  | [] => text
  | _ :: before => trim before.reverse

/-- The initial value that a line gives a combo: that of the first mark with an expression. -/
def init (line : List Char) : Combo.Init :=
  match (marks initMark line).head? with
  | some text => .expression (String.ofList (cleanInit text))
  | none => .mustBeSet

/-- The combo that a line declares. Desktop marks count as one blank; what follows the range is open. -/
def combo? (kind : ComboKind) (line : List Char) : Option Combo := do
  let body ← afterColon? (.combo kind) (replaceMarks desktopMark [' '] line)
  let (name, rest) ← quotedName? body
  -- Name and range must not touch.
  let spaced := dropBlanks rest
  if spaced.length = rest.length then none
  else do
    let (min, max) ← quotedRange? spaced
    some ⟨String.ofList name, ← bound? min, ← bound? max, init line⟩

/-- The number of the texture coordinate that a line declares, once desktop marks and the version
marks of the stage are taken away. -/
def centroidSlot? (stage : Stage) (line : List Char) : Option Nat := do
  let plain := replaceMarks (versionMark stage) [] (replaceMarks desktopMark [' '] line)
  let body ← afterColon? .centroid plain
  let (slot, rest) ← numeral? (← dropLiteral? "TEXCOORD" body)
  if (dropBlanks rest).isEmpty && fits32 slot then some slot else none

/-- The predicate of a skip directive: the body up to the first version mark of the stage, without
desktop marks. -/
def skipRule (stage : Stage) (body : List Char) : List Char :=
  trim (replaceMarks desktopMark [] (beforeMark (versionMark stage) body))

end ShaderCombos.Directive
