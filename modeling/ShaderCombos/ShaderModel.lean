/-!
# Stages, models and targets

A shader source belongs to one pipeline stage and is built for one of two shader models. The two
together select the profile of the downstream compiler.

* `Stage`, `ShaderModel`: the choices and their spellings in file names and directives.
* `ShaderModel.versionFor`: the version that a stage uses under a model.
* `Target`: the compiler profiles; `Target.ofName?` reads what `Target.name` writes.
-/

namespace ShaderCombos

/-- A programmable pipeline stage. -/
inductive Stage where
  | vertex
  | pixel
  deriving DecidableEq, Repr

namespace Stage

/-- The two letters of the stage in file names and version brackets. -/
def letters : Stage → String
  | .vertex => "vs"
  | .pixel => "ps"

/-- The other stage. -/
def opposite : Stage → Stage
  | .vertex => .pixel
  | .pixel => .vertex

@[simp] theorem opposite_opposite (s : Stage) : s.opposite.opposite = s := by
  cases s <;> rfl

/-- What the link symbols of the stage begin with. -/
def symbolStart : Stage → String
  | .vertex => "vsh_"
  | .pixel => "psh_"

end Stage

/-- A shader model that a batch is built for. -/
inductive ShaderModel where
  /-- 2.0 vertex shaders with 2.0b pixel shaders. -/
  | twoB
  /-- 3.0 in both stages. -/
  | three
  deriving DecidableEq, Repr

namespace ShaderModel

/-- The version token of the model. -/
def token : ShaderModel → String
  | .twoB => "20b"
  | .three => "30"

/-- The model that a version token names. -/
def ofToken? : String → Option ShaderModel
  | "20b" => some .twoB
  | "30" => some .three
  | _ => none

theorem ofToken?_token (m : ShaderModel) : ofToken? m.token = some m := by
  cases m <;> rfl

/-- The version token that a stage uses under the model. There is no 2.0b vertex profile, so vertex
shaders take plain 2.0 there. -/
def versionFor : ShaderModel → Stage → String
  | .twoB, .vertex => "20"
  | m, _ => m.token

end ShaderModel

/-- A profile of the downstream compiler. -/
inductive Target where
  | vertex20
  | vertex30
  | pixel20b
  | pixel30
  deriving DecidableEq, Repr

namespace Target

/-- The profile for a stage under a model. -/
def select : Stage → ShaderModel → Target
  | .vertex, .twoB => .vertex20
  | .vertex, .three => .vertex30
  | .pixel, .twoB => .pixel20b
  | .pixel, .three => .pixel30

/-- The profile as the compiler spells it. -/
def name : Target → String
  | .vertex20 => "vs_2_0"
  | .vertex30 => "vs_3_0"
  | .pixel20b => "ps_2_b"
  | .pixel30 => "ps_3_0"

/-- The profile of a spelling. -/
def ofName? : String → Option Target
  | "vs_2_0" => some .vertex20
  | "vs_3_0" => some .vertex30
  | "ps_2_b" => some .pixel20b
  | "ps_3_0" => some .pixel30
  | _ => none

theorem ofName?_name (t : Target) : ofName? t.name = some t := by
  cases t <;> rfl

end Target

end ShaderCombos
