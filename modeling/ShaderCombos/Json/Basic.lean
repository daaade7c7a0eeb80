/-!
# JSON values

Values as far as the work manifest needs them. Numerals that are no integers are kept without their
value, and so are string literals whose escapes spell half of a surrogate pair: both are well-formed
where nobody looks at them, and of no use anywhere else.

* `Json`: the values.
* `Json.text`, `Json.record`: values that are written.
* `Json.member?`: the only member of an object under a name.
-/

namespace ShaderCombos

/-- A JSON value. Members of an object keep their order, and names may be repeated. -/
inductive Json where
  | null
  | bool (b : Bool)
  | integer (n : Int)
  /-- A numeral with a fraction or an exponent, or a negative zero. -/
  | fractional
  /-- A string; there is no text if its escapes spell half of a surrogate pair. -/
  | string (text? : Option String)
  | array (items : List Json)
  | object (members : List (Option String × Json))

namespace Json

/-- A string with a text. -/
def text (s : String) : Json :=
  .string (some s)

/-- An object whose names have texts. -/
def record (members : List (String × Json)) : Json :=
  .object (members.map fun (name, value) => (some name, value))

/-- The values of the members under a name. -/
def membersNamed (name : String) (members : List (Option String × Json)) : List Json :=
  (members.filter (·.1 == some name)).map (·.2)

/-- The value of the member under a name, if exactly one member has that name. -/
def member? (name : String) (members : List (Option String × Json)) : Option Json :=
  match membersNamed name members with
  | [value] => some value
  | _ => none

/-- The items of an array. -/
def items? : Json → Option (List Json)
  | .array items => some items
  | _ => none

/-- The text of a string. -/
def text? : Json → Option String
  | .string text => text
  | _ => none

/-- The integer of a numeral. -/
def integer? : Json → Option Int
  | .integer n => some n
  | _ => none

end Json

end ShaderCombos
