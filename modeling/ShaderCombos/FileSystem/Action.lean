import ShaderCombos.Failure
import ShaderCombos.FileSystem.Access

/-!
# Actions on files

An action may change files and may fail. What it has changed before it fails stays changed.

* `Action.query`: an action that looks and changes nothing.
* `Action.change`: an action that makes one change or fails without any.
* `Action.createDirectories`: an action that may fail half-way.
-/

namespace ShaderCombos

/-- A step that may change the file system and may fail. -/
abbrev Action (α : Type) := ExceptT Failure (StateM FileSystem) α

namespace Action

/-- Looks at the file system. -/
def query {α : Type} (question : FileSystem → Attempt α) : Action α := fun fs =>
  (question fs, fs)

/-- Makes one change as part of an activity. -/
def change (activity : Activity) (edit : FileSystem → Except FileError FileSystem) : Action Unit :=
  fun fs =>
    match edit fs with
    | .ok fs' => (.ok (), fs')
    | .error e => (.error ⟨[activity], .file e⟩, fs)

/-- Creates a directory together with those that lead to it. -/
def createDirectories (p : Path) : Action Unit := fun fs =>
  let (outcome, fs') := fs.createDirectories p
  (Attempt.ofFile (.createDirectory p) outcome, fs')

end Action

end ShaderCombos
