import ShaderCombos.Layout
import ShaderCombos.ShaderModel
import ShaderCombos.Text.Lines

/-!
# Index classes

The renderer picks a compiled shader by a packed index. For each list of combos a class is generated
that has a bit field and a setter for each combo and computes the index in `GetIndex`. In debug builds
the class also remembers which combos without an initial expression have been set. A macro beside the
class names one unresolved symbol for each of these, so that code that uses it links only once every
such combo has been taken care of.

* `IndexClass`: what is generated, part by part.
* `IndexClass.ofCombos`: the class of a list of combos.
* `IndexClass.lines`: its text, line by line, from one function for each part.
-/

namespace ShaderCombos

/-- A generated class and its macro. -/
structure IndexClass where
  base : String
  kind : ComboKind
  stage : Stage
  /-- The parameters of the constructor. -/
  parameters : String
  combos : List Combo
  layout : Layout

namespace IndexClass

/-! ## Names -/

/-- The name of the class for a shader's combos of one kind. -/
def className (base : String) (kind : ComboKind) : String :=
  base ++ "_" ++ kind.typeName ++ "_Index"

/-- The name of the macro for a shader's combos of one kind. -/
def macroName (base : String) (kind : ComboKind) : String :=
  "shader" ++ kind.typeName ++ "Test_" ++ base

/-- The parameters that a constructor has if nothing else is asked for. -/
def defaultParameters : ComboKind → String
  | .static => "IShaderShadow* pShaderShadow, IMaterialVar** params"
  | .dynamic => "IShaderDynamicAPI* pShaderAPI"

/-- The name of the class. -/
def name (k : IndexClass) : String :=
  className k.base k.kind

/-- The field that holds a combo's value. -/
def fieldName (combo : String) : String :=
  "m_n" ++ combo

/-- The flag that tells whether a combo has been set. -/
def flagName (combo : String) : String :=
  "m_b" ++ combo

/-- The symbol that stays unresolved until a combo has been taken care of. -/
def symbolName (k : IndexClass) (combo : String) : String :=
  k.stage.symbolStart ++ "forgot_to_set_" ++ k.kind.symbolName ++ "_" ++ combo

/-! ## Construction -/

/-- The class of a list of combos whose first scale is `seed`. -/
def ofCombos (combos : List Combo) (base : String) (kind : ComboKind) (stage : Stage)
    (parameters : String) (seed : Nat) : Attempt IndexClass := do
  let layout ← Attempt.ofFaulty [.layOutClass (className base kind)] (Layout.ofCombos combos seed)
  .ok { base, kind, stage, parameters, combos, layout }

/-- The combos that have to be set, which are the ones that debug builds keep track of. -/
def tracked (k : IndexClass) : List Combo :=
  k.combos.filter Combo.mustBeSet

/-! ## Text -/

/-- Lines that only debug builds compile; no lines need no guard. -/
def debugOnly (ls : List String) : List String :=
  if ls.isEmpty then [] else ["#ifdef _DEBUG"] ++ ls ++ ["#endif\t// _DEBUG"]

/-- The bit fields. -/
def fieldLines (k : IndexClass) : List String :=
  k.layout.fields.map fun f => s!"\tunsigned int {fieldName f.name} : {f.bits};"

/-- The flags. -/
def flagLines (k : IndexClass) : List String :=
  debugOnly (k.tracked.map fun c => s!"\tbool {flagName c.name} : 1;")

/-- The setter of a combo, which asserts that the value lies in the range. -/
def setterLines (c : Combo) : List String :=
  [s!"\tvoid Set{c.name}( int i )",
    "\t\x7b",
    s!"\t\tAssert( i >= {c.min.toInt} && i <= {c.max.toInt} );",
    s!"\t\t{fieldName c.name} = i;"]
  ++ debugOnly (if c.mustBeSet then [s!"\t\t{flagName c.name} = true;"] else [])
  ++ ["\t\x7d", ""]

/-- The constructor, which gives every field its initial value and clears the flags. -/
def constructorLines (k : IndexClass) : List String :=
  [s!"\t{k.name}( {k.parameters} )", "\t\x7b"]
  ++ k.combos.map (fun c => s!"\t\t{fieldName c.name} = {c.initialExpression};")
  ++ debugOnly (k.tracked.map fun c => s!"\t\t{flagName c.name} = false;")
  ++ ["\t\x7d", ""]

/-- The sum that is the index: each field times its scale, closed by a zero. -/
def indexExpression (fields : List Field) : String :=
  String.join (fields.map fun f => s!"( {f.scale} * {fieldName f.name} ) + ") ++ "0"

/-- The body of the index function: a check of the flags, and the sum. -/
def indexBodyLines (k : IndexClass) : List String :=
  if k.combos.isEmpty then ["\t\treturn 0;"]
  else
    let flags := String.intercalate " && " (k.tracked.map fun c => flagName c.name)
    (if k.tracked.isEmpty then [] else [s!"\t\tAssert( {flags} );"])
      ++ [s!"\t\treturn {indexExpression k.layout.fields};"]

/-- The index function. -/
def indexLines (k : IndexClass) : List String :=
  ["\tint GetIndex()", "\t\x7b"] ++ k.indexBodyLines ++ ["\t\x7d"]

/-- The macro, which is one if nothing has to be set. -/
def macroLine (k : IndexClass) : String :=
  let symbols :=
    if k.tracked.isEmpty then "1"
    else String.intercalate " + " (k.tracked.map fun c => k.symbolName c.name)
  s!"#define {macroName k.base k.kind} {symbols}"

/-- The class and its macro, line by line. -/
def lines (k : IndexClass) : List String :=
  [s!"class {k.name}", "\x7b"]
  ++ k.fieldLines ++ k.flagLines
  ++ ["public:"]
  ++ k.combos.flatMap setterLines
  ++ k.constructorLines
  ++ k.indexLines
  ++ ["\x7d;", ""]
  ++ [k.macroLine, ""]

/-- The class and its macro as a text. -/
def text (k : IndexClass) : String :=
  Text.unlines k.lines

end IndexClass

end ShaderCombos
