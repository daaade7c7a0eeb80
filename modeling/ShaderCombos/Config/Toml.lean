import ShaderCombos.Text.Digit
import ShaderCombos.Text.Lines

/-!
# Settings files

A settings file is a TOML document. All settings are texts or integers at the top level, so that is
all that is read here: a document with a table, an array, a date or any other value has a setting that
nobody knows or a value that no setting takes, and counts as no settings file.

* `Toml.Scalar`: a value.
* `Toml.basicRest?`, `Toml.literalRest?`: strings with and without escapes, on one line or several.
* `Toml.integer?`: integers in base ten, sixteen, eight and two.
* `Toml.settings?`: the settings of a document in order.
-/

namespace ShaderCombos.Toml

/-- The value of a setting. -/
inductive Scalar where
  | text (s : String)
  | integer (n : Int)
  deriving DecidableEq, Repr

/-! ## Characters -/

/-- Whether a character may stand in comments and strings as it is. -/
def isShown (c : Char) : Bool :=
  c == '\t' || (' ' ≤ c && c != '\x7f')

/-- The text behind blanks on the same line. -/
def skipBlanks (s : List Char) : List Char :=
  s.dropWhile fun c => c == ' ' || c == '\t'

/-- The text behind a line end, if one comes first. -/
def lineFeed? : List Char → Option (List Char)
  | '\n' :: rest => some rest
  | '\r' :: '\n' :: rest => some rest
  | _ => none

/-- Whether a character may stand in a key without quotes. -/
def isBare (c : Char) : Bool :=
  c.isAlphanum || c == '_' || c == '-'

/-! ## Strings -/

/-- The character whose code point is spelled by the first so many characters of a text. -/
def escapedCode? (count : Nat) (s : List Char) : Option (Char × List Char) := do
  if s.length < count then none
  else
    let n ← Text.readHex? (s.take count)
    if n.isValidChar then some (Char.ofNat n, s.drop count) else none

/-- The character that an escape stands for, and the text behind it. -/
def escape? : List Char → Option (Char × List Char)
  | 'b' :: rest => some ('\x08', rest)
  | 't' :: rest => some ('\t', rest)
  | 'n' :: rest => some ('\n', rest)
  | 'f' :: rest => some ('\x0c', rest)
  | 'r' :: rest => some ('\r', rest)
  | 'e' :: rest => some ('\x1b', rest)
  | '"' :: rest => some ('"', rest)
  | '\\' :: rest => some ('\\', rest)
  | 'x' :: rest => escapedCode? 2 rest
  | 'u' :: rest => escapedCode? 4 rest
  | 'U' :: rest => escapedCode? 8 rest
  | _ => none

/-- The text behind blanks and line ends. A carriage return that ends no line is neither. -/
def skipBlankLines : List Char → List Char
  | ' ' :: rest => skipBlankLines rest
  | '\t' :: rest => skipBlankLines rest
  | '\n' :: rest => skipBlankLines rest
  | '\r' :: '\n' :: rest => skipBlankLines rest
  | s => s

/-- The text behind an escaped line end: blanks, a line end, and then all blanks and line ends. -/
def escapedLineEnd? (s : List Char) : Option (List Char) :=
  (lineFeed? (skipBlanks s)).map skipBlankLines

/-- The end of a string over several lines, where three or more quotes come first: up to two quotes
belong to the string. Answers with these and the text behind the closing quotes. -/
def closing? (quote : Char) (s : List Char) : Option (List Char × List Char) :=
  let count := (s.takeWhile (· == quote)).length
  if count < 3 then none
  else
    -- Up to five quotes belong to the string, and the last three of them close it.
    let extra := min (count - 3) 2
    some (List.replicate extra quote, s.drop (extra + 3))

/-- The rest of a string with escapes up to its closing quote, and the text behind it. The first
argument bounds the number of characters. -/
def basicRest? : Nat → List Char → Option (List Char × List Char)
  | 0, _ => none
  | limit + 1, s =>
    match s with
    | [] => none
    | '"' :: rest => some ([], rest)
    | '\\' :: rest => do
      let (c, rest) ← escape? rest
      let (text, rest) ← basicRest? limit rest
      some (c :: text, rest)
    | c :: rest =>
      if isShown c then do
        let (text, rest) ← basicRest? limit rest
        some (c :: text, rest)
      else none

/-- The rest of a string with escapes over several lines up to its closing quotes, and the text behind
it. The first argument bounds the number of characters. -/
def longBasicRest? : Nat → List Char → Option (List Char × List Char)
  | 0, _ => none
  | limit + 1, s =>
    match closing? '"' s with
    | some found => some found
    | none =>
      match s with
      | [] => none
      | '\\' :: rest =>
        match escapedLineEnd? rest with
        | some rest => longBasicRest? limit rest
        | none => do
          let (c, rest) ← escape? rest
          let (text, rest) ← longBasicRest? limit rest
          some (c :: text, rest)
      | '\r' :: '\n' :: rest => do
        let (text, rest) ← longBasicRest? limit rest
        some ('\r' :: '\n' :: text, rest)
      | c :: rest =>
        if isShown c || c == '\n' then do
          let (text, rest) ← longBasicRest? limit rest
          some (c :: text, rest)
        else none

/-- The rest of a string without escapes up to its closing quote, and the text behind it. -/
def literalRest? (s : List Char) : Option (List Char × List Char) :=
  let text := s.takeWhile (· ≠ '\'')
  match s.dropWhile (· ≠ '\'') with
  | [] => none
  | _ :: rest => if text.all isShown then some (text, rest) else none

/-- The rest of a string without escapes over several lines up to its closing quotes, and the text
behind it. -/
def longLiteralRest? : List Char → Option (List Char × List Char)
  | [] => none
  | c :: rest =>
    match closing? '\'' (c :: rest) with
    | some found => some found
    | none => do
      let (text, behind) ← longLiteralRest? rest
      if isShown c || c == '\n' || (c == '\r' && text.head? = some '\n') then some (c :: text, behind)
      else none

/-- The text behind a line end that comes first, or the text itself. -/
def dropLineFeed (s : List Char) : List Char :=
  (lineFeed? s).getD s

/-- A string on one line, and the text behind it. -/
def shortString? : List Char → Option (List Char × List Char)
  | '"' :: rest => basicRest? (rest.length + 1) rest
  | '\'' :: rest => literalRest? rest
  | _ => none

/-- A string, and the text behind it. A line end right behind three opening quotes does not count. -/
def string? : List Char → Option (List Char × List Char)
  | '"' :: '"' :: '"' :: rest => longBasicRest? (rest.length + 1) (dropLineFeed rest)
  | '\'' :: '\'' :: '\'' :: rest => longLiteralRest? (dropLineFeed rest)
  | s => shortString? s

/-! ## Integers -/

/-- The value of a character as a digit of some base. -/
def digitValue? (base : Nat) (c : Char) : Option Nat := do
  let n ← Text.readHexDigit? c
  if n < base then some n else none

/-- The value of digits of some base, continued from `value`. Single underscores may stand between
digits; `afterDigit` tells whether a digit came last. -/
def digitsFrom? (base value : Nat) (afterDigit : Bool) : List Char → Option Nat
  | [] => if afterDigit then some value else none
  | '_' :: rest => if afterDigit then digitsFrom? base value false rest else none
  | c :: rest => do
    let n ← digitValue? base c
    digitsFrom? base (base * value + n) true rest

/-- The value of a decimal numeral without sign. Zeros in front are refused. -/
def decimal? (s : List Char) : Option Nat :=
  if s.head? = some '0' ∧ s.length ≠ 1 then none else digitsFrom? 10 0 false s

/-- The value of an integer. A sign goes with base ten only. -/
def integer? : List Char → Option Int
  | '0' :: 'x' :: digits => (digitsFrom? 16 0 false digits).map Int.ofNat
  | '0' :: 'o' :: digits => (digitsFrom? 8 0 false digits).map Int.ofNat
  | '0' :: 'b' :: digits => (digitsFrom? 2 0 false digits).map Int.ofNat
  | '+' :: digits => (decimal? digits).map Int.ofNat
  | '-' :: digits => (decimal? digits).map fun n => -(n : Int)
  | digits => (decimal? digits).map Int.ofNat

/-! ## Documents -/

/-- A key, and the text behind it. -/
def key? (s : List Char) : Option (List Char × List Char) :=
  let bare := s.takeWhile isBare
  if bare.isEmpty then shortString? s else some (bare, s.dropWhile isBare)

/-- A value, and the text behind it. -/
def value? (s : List Char) : Option (Scalar × List Char) :=
  match string? s with
  | some (text, rest) => some (.text (String.ofList text), rest)
  | none =>
    let isNumeric := fun c => isBare c || c == '+'
    (integer? (s.takeWhile isNumeric)).map fun n => (.integer n, s.dropWhile isNumeric)

/-- The text behind a comment, from its line end on. -/
def comment? (s : List Char) : Option (List Char) :=
  let rest := s.dropWhile (· ≠ '\n')
  let text := s.takeWhile (· ≠ '\n')
  let text := if rest.isEmpty then text else Text.dropReturn text
  if text.all isShown then some rest else none

/-- The text behind the end of a line, before which blanks and a comment may stand. -/
def lineEnd? (s : List Char) : Option (List Char) :=
  match skipBlanks s with
  | [] => some []
  | '#' :: rest => do
    let rest ← comment? rest
    if rest.isEmpty then some [] else lineFeed? rest
  | s => lineFeed? s

/-- The settings from the start of a line on. The first argument bounds the number of lines. -/
def settingsFrom? : Nat → List Char → Option (List (String × Scalar))
  | 0, _ => none
  | limit + 1, s =>
    if s.isEmpty then some []
    else match lineEnd? s with
      | some rest => settingsFrom? limit rest
      | none => do
        let (key, s) ← key? (skipBlanks s)
        let s ← ['='].isPrefixOf? (skipBlanks s)
        let (value, s) ← value? (skipBlanks s)
        let rest ← lineEnd? s
        let more ← settingsFrom? limit rest
        some ((String.ofList key, value) :: more)

/-- The settings of a document in order, without a byte-order mark that comes first. -/
def settings? (text : String) : Option (List (String × Scalar)) :=
  let s := match text.toList with
    | '\uFEFF' :: rest => rest
    | s => s
  settingsFrom? (s.length + 1) s

end ShaderCombos.Toml
