import ShaderCombos.Json.Basic
import ShaderCombos.Text.Digit

/-!
# Reading JSON

A recursive descent over the characters of a text. Every reader answers with what it has read and the
text behind it. Values are nested at most as deep as the text is long, which bounds the descent.

* `Json.stringRest?`, `Json.combineUnits?`: string literals and surrogate pairs.
* `Json.numeral?`: numerals.
* `Json.ofText?`: the value of a whole text.
-/

namespace ShaderCombos.Json

/-- The text from its first character that is no JSON blank. -/
def skipBlanks (s : List Char) : List Char :=
  s.dropWhile fun c => c == ' ' || c == '\n' || c == '\t' || c == '\r'

/-! ## Strings -/

/-- The character that an escape by a single letter stands for. -/
def simpleEscape? : Char → Option Char
  | '"' => some '"'
  | '\\' => some '\\'
  | '/' => some '/'
  | 'b' => some '\x08'
  | 'f' => some '\x0c'
  | 'n' => some '\n'
  | 'r' => some '\r'
  | 't' => some '\t'
  | _ => none

/-- What stands in a string literal: a character, or a code unit that is escaped by its number. -/
inductive StringUnit where
  | char (c : Char)
  | unit (n : Nat)

/-- The units of a string literal up to its closing quote, and the text behind it. -/
def stringRest? : List Char → Option (List StringUnit × List Char)
  | [] => none
  | '"' :: rest => some ([], rest)
  | '\\' :: 'u' :: a :: b :: c :: d :: rest => do
    let n ← Text.readHex? [a, b, c, d]
    let (units, rest) ← stringRest? rest
    some (.unit n :: units, rest)
  | '\\' :: c :: rest => do
    let c ← simpleEscape? c
    let (units, rest) ← stringRest? rest
    some (.char c :: units, rest)
  | c :: rest =>
    if c.toNat < 0x20 || c == '\\' then none
    else do
      let (units, rest) ← stringRest? rest
      some (.char c :: units, rest)

/-- Whether a code unit is the first half of a surrogate pair. -/
def isHighHalf (n : Nat) : Bool :=
  0xD800 ≤ n && n ≤ 0xDBFF

/-- Whether a code unit is the second half of a surrogate pair. -/
def isLowHalf (n : Nat) : Bool :=
  0xDC00 ≤ n && n ≤ 0xDFFF

/-- The text of the units of a string literal. Halves of surrogate pairs have to stand together. -/
def combineUnits? : List StringUnit → Option (List Char)
  | [] => some []
  | .unit high :: .unit low :: rest =>
    if isHighHalf high then
      if isLowHalf low then
        (combineUnits? rest).map
          (Char.ofNat (0x10000 + 0x400 * (high - 0xD800) + (low - 0xDC00)) :: ·)
      else none
    else if isLowHalf high then none
    else (combineUnits? (.unit low :: rest)).map (Char.ofNat high :: ·)
  | .unit n :: rest =>
    if isHighHalf n || isLowHalf n then none else (combineUnits? rest).map (Char.ofNat n :: ·)
  | .char c :: rest => (combineUnits? rest).map (c :: ·)

/-- The text of a string literal behind its opening quote, if it has one, and the text behind it. -/
def string? (s : List Char) : Option (Option String × List Char) := do
  let (units, rest) ← stringRest? s
  some ((combineUnits? units).map String.ofList, rest)

/-! ## Numerals -/

/-- The digits at the front of a text, of which there has to be one, and the text behind them. -/
def digits? (s : List Char) : Option (List Char × List Char) :=
  let digits := s.takeWhile Char.isDigit
  if digits.isEmpty then none else some (digits, s.dropWhile Char.isDigit)

/-- The text behind a fraction, if there is one. -/
def fraction? : List Char → Option (List Char)
  | '.' :: rest => (digits? rest).map (·.2)
  | s => some s

/-- The text behind an exponent, if there is one. -/
def exponent? : List Char → Option (List Char)
  | c :: rest =>
    if c == 'e' || c == 'E' then
      match rest with
      | '+' :: more => (digits? more).map (·.2)
      | '-' :: more => (digits? more).map (·.2)
      | _ => (digits? rest).map (·.2)
    else some (c :: rest)
  | [] => some []

/-- A numeral without sign. Zeros in front are refused. -/
def magnitude? (negative : Bool) (s : List Char) : Option (Json × List Char) := do
  let (digits, rest) ← digits? s
  if digits.length ≠ 1 ∧ digits.head? = some '0' then none
  else do
    let behind ← exponent? (← fraction? rest)
    let n ← Text.readDecimal? digits
    let value :=
      if behind.length ≠ rest.length then .fractional
      else if negative then if n = 0 then .fractional else .integer (-(n : Int))
      else .integer n
    some (value, behind)

/-- A numeral. -/
def numeral? : List Char → Option (Json × List Char)
  | '-' :: rest => magnitude? true rest
  | s => magnitude? false s

/-! ## Values -/

/-- The text behind a fixed beginning, with a value. -/
def word? (word : String) (value : Json) (s : List Char) : Option (Json × List Char) :=
  (word.toList.isPrefixOf? s).map (value, ·)

mutual

/-- A value of at most so many levels, after blanks. -/
def readValue? : Nat → List Char → Option (Json × List Char)
  | 0, _ => none
  | depth + 1, s =>
    match skipBlanks s with
    | [] => none
    | '"' :: rest => (string? rest).map fun (text, rest) => (.string text, rest)
    | '[' :: rest =>
      match skipBlanks rest with
      | ']' :: rest => some (.array [], rest)
      | _ => (readItems? depth rest).map fun (items, rest) => (.array items, rest)
    | '\x7b' :: rest =>
      match skipBlanks rest with
      | '\x7d' :: rest => some (.object [], rest)
      | _ => (readMembers? depth rest).map fun (members, rest) => (.object members, rest)
    | 'n' :: rest => word? "ull" .null rest
    | 't' :: rest => word? "rue" (.bool true) rest
    | 'f' :: rest => word? "alse" (.bool false) rest
    | c :: rest => numeral? (c :: rest)

/-- The items of an array up to its closing bracket. -/
def readItems? : Nat → List Char → Option (List Json × List Char)
  | 0, _ => none
  | depth + 1, s => do
    let (item, rest) ← readValue? depth s
    match skipBlanks rest with
    | ',' :: rest =>
      let (items, rest) ← readItems? depth rest
      some (item :: items, rest)
    | ']' :: rest => some ([item], rest)
    | _ => none

/-- The members of an object up to its closing brace. -/
def readMembers? : Nat → List Char → Option (List (Option String × Json) × List Char)
  | 0, _ => none
  | depth + 1, s => do
    let s ← ['"'].isPrefixOf? (skipBlanks s)
    let (name, rest) ← string? s
    let s ← [':'].isPrefixOf? (skipBlanks rest)
    let (value, rest) ← readValue? depth s
    match skipBlanks rest with
    | ',' :: rest =>
      let (members, rest) ← readMembers? depth rest
      some ((name, value) :: members, rest)
    | '\x7d' :: rest => some ([(name, value)], rest)
    | _ => none

end

/-- The value of a text that holds one value and blanks. Reading an item takes two levels at most for
each character. -/
def ofText? (s : String) : Option Json := do
  let (value, rest) ← readValue? (2 * s.length + 1) s.toList
  if (skipBlanks rest).isEmpty then some value else none

end ShaderCombos.Json
