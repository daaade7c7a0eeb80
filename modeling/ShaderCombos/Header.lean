import ShaderCombos.FileSystem.Action
import ShaderCombos.IndexClass
import ShaderCombos.ShaderUnit

/-!
# Headers

The header of a shader holds its two index classes. The scales of the static class start at the
cardinality of the dynamic combos, so that a static and a dynamic index add up to the index of a
combination.

* `Header.guardName`, `Header.lines`, `Header.text`: the header of a shader unit.
* `Header.write`: puts it into a directory, read-only.
-/

namespace ShaderCombos.Header

/-- The name that keeps a header from being read twice. -/
def guardName (unit : String) : String :=
  String.ofList (Text.uppercase unit.toList) ++ "_H"

/-- The headers that every generated header needs. -/
def neededHeaders : List String :=
  ["shaderapi/ishaderapi.h", "shaderapi/ishadershadow.h", "materialsystem/imaterialvar.h"]

/-- The skip rules as comments. -/
def skipLines (rules : List String) : List String :=
  if rules.isEmpty then []
  else ["// ALL SKIP STATEMENTS THAT AFFECT THIS SHADER!!!"] ++ rules.map ("// " ++ ·) ++ [""]

/-- The index class of a unit's combos of one kind. -/
def indexClass (u : ShaderUnit) (kind : ComboKind) (seed : Nat) : Attempt IndexClass :=
  IndexClass.ofCombos (u.combos kind) u.name kind u.stage (IndexClass.defaultParameters kind) seed

/-- The seed of the static combos of a unit: how many combinations of dynamic combos there are. -/
def staticSeed (u : ShaderUnit) : Attempt Nat := do
  let layout ← Attempt.ofFaulty [.layOutDynamicCombos u.name] (Layout.ofCombos u.dynamic 1)
  .ok layout.cardinality

/-- The header of a unit, line by line. -/
def lines (u : ShaderUnit) : Attempt (List String) := do
  let seed ← staticSeed u
  let static ← indexClass u .static seed
  let dynamic ← indexClass u .dynamic 1
  .ok (skipLines u.skipRules
    ++ [s!"#ifndef {guardName u.name}", s!"#define {guardName u.name}", ""]
    ++ neededHeaders.map (fun path => s!"#include \"{path}\"") ++ [""]
    ++ static.lines ++ [""]
    ++ dynamic.lines ++ [""]
    ++ [s!"#endif\t// {guardName u.name}"])

/-- The header of a unit. -/
def text (u : ShaderUnit) : Attempt String := do
  .ok (Text.unlines (← lines u))

/-! ## Writing -/

/-- The permission bits of a finished header. -/
def finishedMode : Nat := 0o444

/-- The permission bits that let a header be replaced. -/
def replaceableMode : Nat := 0o644

/-- The path of a unit's header in a directory. -/
def path (u : ShaderUnit) (directory : Path) : Path :=
  directory.child (u.name ++ ".inc")

/-- Sets the permission bits of a file. -/
def setMode (p : Path) (mode : Nat) : Action Unit :=
  Action.change (.inspectFile p) (·.setMode p mode)

/-- Writes the header of a unit into a directory, which is created where it is missing. The header is
read-only afterwards; one that is there already is replaced. -/
def write (u : ShaderUnit) (directory : Path) : Action Path := do
  let content ← Action.query fun _ => (text u).during (.generateHeader u.name)
  Action.createDirectories directory
  let target := path u directory
  -- A header from an earlier run is read-only.
  if ← Action.query fun fs => .ok (fs.isPresent target) then
    setMode target replaceableMode
  Action.change (.writeHeader target) (·.write target content.toUTF8)
  setMode target finishedMode
  return target

end ShaderCombos.Header
