import ShaderCombos.Directive
import ShaderCombos.Source

/-!
# Shader units

A shader unit is what is known of one shader once its source is flattened and its directives are read.

* `ShaderUnit.ofSource`: the unit of a flattened source.
* `ShaderUnit.ofFile`: the unit of a file.
-/

namespace ShaderCombos

/-- One shader of a batch. -/
structure ShaderUnit where
  /-- The name of what is built from it. -/
  name : String
  stage : Stage
  model : ShaderModel
  /-- The version that its directives were filtered for. -/
  version : String
  static : List Combo := []
  dynamic : List Combo := []
  skipRules : List String := []
  centroid : CentroidMask := {}
  /-- The names of its files, the root file first. -/
  files : List String := []
  deriving DecidableEq, Repr

namespace ShaderUnit

/-- The compiler profile that the shader is compiled for. -/
def target (u : ShaderUnit) : Target :=
  .select u.stage u.model

/-- The combos of one kind. -/
def combos (u : ShaderUnit) : ComboKind → List Combo
  | .static => u.static
  | .dynamic => u.dynamic

/-- The unit of a flattened source. -/
def ofSource (source : Source) (name : String) (stage : Stage) (model : ShaderModel) :
    Except Fault ShaderUnit := do
  let filter := Directive.Filter.forModel stage model
  let found ← Declarations.ofLines filter source.lines
  .ok {
    name, stage, model
    version := filter.version
    static := found.static
    dynamic := found.dynamic
    skipRules := found.skipRules
    centroid := found.centroid
    files := source.files }

/-- The unit of the file at a path. -/
def ofFile (fs : FileSystem) (path : Path) (name : String) (stage : Stage) (model : ShaderModel) :
    Except Fault ShaderUnit := do
  let source ← Source.assemble fs path
  ofSource source name stage model

end ShaderUnit

end ShaderCombos
