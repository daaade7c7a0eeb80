import ShaderCombos.Config.Toml
import ShaderCombos.FileSystem.Access
import ShaderCombos.Failure
import ShaderCombos.Staleness

/-!
# Configuration

The settings of a batch. Every setting has a default, a file may give others, and a setting that is
not known or is given twice spoils the file.

    helper = "tools/ShaderCrc"
    compiled_dir = "shaders/fxc"
    compiled_extension = "vcs"
    build_id_offset = 24
    include_dir = "include"

* `Config`: the settings.
* `Config.ofText`, `Config.load`: the settings of a text and of a file.
-/

namespace ShaderCombos

/-- The settings of a batch. -/
structure Config where
  /-- The helper program that tells build identifiers. -/
  helper : Option Path := none
  /-- Where compiled shaders lie. -/
  artifacts : ArtifactPlace := {}
  /-- Where headers are written, seen from the directory of the source. -/
  includeDirectory : Path := ⟨"include"⟩
  deriving DecidableEq, Repr

namespace Config

/-- The configuration with one setting changed; none if the setting is not known or does not take
the value. -/
def set? (c : Config) : String → Toml.Scalar → Option Config
  | "helper", .text s => some { c with helper := some ⟨s⟩ }
  | "compiled_dir", .text s => some { c with artifacts := { c.artifacts with directory := ⟨s⟩ } }
  | "compiled_extension", .text s => some { c with artifacts := { c.artifacts with extension := s } }
  | "build_id_offset", .integer n =>
    if 0 ≤ n ∧ fits64 n.toNat then some { c with artifacts := { c.artifacts with offset := n.toNat } }
    else none
  | "include_dir", .text s => some { c with includeDirectory := ⟨s⟩ }
  | _, _ => none

/-- The configuration that settings make of the defaults. -/
def ofSettings? (settings : List (String × Toml.Scalar)) : Option Config :=
  if (settings.map (·.1)).Nodup then
    settings.foldlM (fun c (key, value) => c.set? key value) {}
  else none

/-- The configuration of a text. -/
def ofText (text : String) : Attempt Config :=
  match Toml.settings? text >>= ofSettings? with
  | some c => .ok c
  | none => .error ⟨[.parseConfig], .badConfig⟩

/-- The configuration of a file. -/
def load (fs : FileSystem) (path : Path) : Attempt Config := do
  let text ← Attempt.ofFile (.readConfig path) (fs.readText path)
  (ofText text).during (.useConfig path)

end Config

end ShaderCombos
