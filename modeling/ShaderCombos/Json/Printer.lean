import ShaderCombos.Json.Basic

/-!
# Writing JSON

Values are written over several lines: each item and member stands on a line of its own, two blanks
further in than the brackets around it. Empty arrays and objects stay on one line. Strings escape what
JSON makes them escape and nothing else.

* `Json.quote`: a string literal.
* `Json.pretty`: the text of a value.
-/

namespace ShaderCombos.Json

/-- A hexadecimal digit in lower case. -/
def hexDigit (n : Nat) : Char :=
  if n < 10 then Char.ofNat ('0'.toNat + n) else Char.ofNat ('a'.toNat + (n - 10))

/-- One character in a string literal. -/
def escapeChar (c : Char) : List Char :=
  match c with
  | '"' => ['\\', '"']
  | '\\' => ['\\', '\\']
  | '\n' => ['\\', 'n']
  | '\r' => ['\\', 'r']
  | '\t' => ['\\', 't']
  | '\x08' => ['\\', 'b']
  | '\x0c' => ['\\', 'f']
  | _ =>
    if c.toNat < 0x20 then ['\\', 'u', '0', '0', hexDigit (c.toNat / 16), hexDigit (c.toNat % 16)]
    else [c]

/-- A text as a string literal. -/
def quote (s : List Char) : List Char :=
  '"' :: s.flatMap escapeChar ++ ['"']

/-- A string literal; a string without a text is written as an empty one. -/
def quote? (text : Option String) : List Char :=
  quote (text.getD "").toList

/-- A new line that is indented by so many steps. -/
def newLine (depth : Nat) : List Char :=
  '\n' :: List.replicate (2 * depth) ' '

mutual

/-- The text of a value inside so many brackets. -/
def prettyAt (depth : Nat) : Json → List Char
  | .null => ['n', 'u', 'l', 'l']
  | .bool true => ['t', 'r', 'u', 'e']
  | .bool false => ['f', 'a', 'l', 's', 'e']
  | .integer n => (toString n).toList
  | .fractional => ['-', '0']
  | .string text => quote? text
  | .array [] => ['[', ']']
  | .array (item :: items) =>
    '[' :: newLine (depth + 1) ++ prettyAt (depth + 1) item ++ prettyItems (depth + 1) items
      ++ newLine depth ++ [']']
  | .object [] => ['\x7b', '\x7d']
  | .object (member :: members) =>
    '\x7b' :: newLine (depth + 1) ++ prettyMember (depth + 1) member
      ++ prettyMembers (depth + 1) members ++ newLine depth ++ ['\x7d']

/-- Further items, each after a comma. -/
def prettyItems (depth : Nat) : List Json → List Char
  | [] => []
  | item :: items => ',' :: newLine depth ++ prettyAt depth item ++ prettyItems depth items

/-- A member of an object. -/
def prettyMember (depth : Nat) : Option String × Json → List Char
  | (name, value) => quote? name ++ [':', ' '] ++ prettyAt depth value

/-- Further members, each after a comma. -/
def prettyMembers (depth : Nat) : List (Option String × Json) → List Char
  | [] => []
  | member :: members => ',' :: newLine depth ++ prettyMember depth member ++ prettyMembers depth members

end

/-- The text of a value. -/
def pretty (j : Json) : String :=
  String.ofList (prettyAt 0 j)

end ShaderCombos.Json
