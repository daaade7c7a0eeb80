import ShaderCombos.ShaderModel
import ShaderCombos.Text.Blank
import ShaderCombos.Text.Case
import ShaderCombos.Text.Digit
import ShaderCombos.Text.Pieces
import ShaderCombos.Text.Word

/-!
# Brackets in directives

A directive can be confined to a platform or to versions of one stage by marks in square brackets, and
a combo can be given an initial expression in the same way.

* `versionMark`: a stage with a version, such as `[ps20b]`, in any letter case.
* `consoleMark`, `desktopMark`: the platforms. The desktop mark takes the blanks around it along.
* `initMark`: an initial expression, such as `[=1]`.
-/

namespace ShaderCombos.Directive

open Text

/-- A version at the front of a text: decimal digits and then at most one word character, as long as
`closes` accepts what follows. -/
def version? (closes : List Char → Bool) (s : List Char) : Option (List Char) :=
  let digits := s.takeWhile isDigit
  let rest := s.dropWhile isDigit
  if digits.isEmpty then none
  else if closes rest then some digits
  else match rest with
    | c :: more => if isWord c && closes more then some (digits ++ [c]) else none
    | [] => none

/-- Whether two characters are the letters of a stage, in either case. -/
def isStage (stage : Stage) (first second : Char) : Bool :=
  match stage with
  | .vertex => isLetter 'v' first && isLetter 's' second
  | .pixel => isLetter 'p' first && isLetter 's' second

/-- A version of a stage in brackets. The mark says the version as it is spelled. -/
def versionMark (stage : Stage) : Mark (List Char)
  | '[' :: first :: second :: rest =>
    if isStage stage first second then
      (version? (·.head? = some ']') rest).map fun version => (version, version.length + 4)
    else none
  | _ => none

/-- The mark of directives for the console only. -/
def consoleMark : Mark Unit :=
  literalMark "[XBOX]"

/-- The mark of directives for the desktop, with the blanks around it. -/
def desktopMark : Mark Unit := fun s =>
  let lead := s.takeWhile isBlank
  (dropLiteral? "[PC]" (s.dropWhile isBlank)).map fun rest =>
    ((), lead.length + 4 + (rest.takeWhile isBlank).length)

/-- An initial expression in brackets. The mark says all that stands between the equals sign and the
next closing bracket, which has to be something. -/
def initMark : Mark (List Char)
  | '[' :: rest =>
    let lead := rest.takeWhile isBlank
    match rest.dropWhile isBlank with
    | '=' :: inner =>
      let text := inner.takeWhile (· ≠ ']')
      match inner.dropWhile (· ≠ ']') with
      | ']' :: _ => if text.isEmpty then none else some (text, lead.length + text.length + 3)
      | _ => none
    | _ => none
  | _ => none

end ShaderCombos.Directive
