import ShaderCombos.Config
import ShaderCombos.Header
import ShaderCombos.Manifest.Json
import ShaderCombos.Naming

/-!
# Batches

A batch goes through the shaders that a file list names, in order. For a shader that is not up to date
its header is written and its compile work is noted; at the end the work is written to a manifest
beside the list. The first failure ends the batch, and the manifest is not written then.

* `FileList.read`: the shaders that a file list names.
* `Batch.prepare`: what is done for one stale shader.
* `Batch.step`, `Batch.run`: a shader of a batch, and the whole batch.
-/

namespace ShaderCombos

/-! ## File lists -/

namespace FileList

/-- Whether a line without surrounding blanks names a shader: it is neither empty nor a comment. -/
def isEntry (line : List Char) : Bool :=
  !line.isEmpty && (Text.dropLiteral? "//" line).isNone

/-- The entries of a file list. -/
def entries (text : String) : List String :=
  ((Text.lines text).map fun line => Text.trim line.toList).filter isEntry |>.map String.ofList

/-- The shaders that the file list at a path names, seen from the list's directory. -/
def read (fs : FileSystem) (path : Path) : Attempt (List Path) := do
  let text ← Attempt.ofFile (.readFileList path) (fs.readText path)
  let shaders := (entries text).map path.directory.child
  if shaders.isEmpty then .error (.ofFault (.emptyFileList path)) else .ok shaders

end FileList

/-! ## Batches -/

namespace Batch

/-- What a batch is asked to do. -/
structure Options where
  fileList : Path
  model : ShaderModel
  /-- Write headers and note no compile work. -/
  headersOnly : Bool := false
  config : Config := {}
  deriving DecidableEq, Repr

/-- What a batch has done so far. -/
structure Progress where
  /-- How many shaders have been gone through. -/
  processed : Nat := 0
  /-- How many of them were up to date. -/
  upToDate : Nat := 0
  /-- The headers that have been written, in order. -/
  headers : List Path := []
  /-- The compile work. -/
  work : WorkManifest := .empty
  deriving DecidableEq, Repr

/-- What a batch has done in the end. -/
structure Summary where
  processed : Nat
  upToDate : Nat
  headers : List Path
  /-- The path of the manifest, if one was written. -/
  manifest : Option Path
  deriving DecidableEq, Repr

/-- The stage of a shader and the name of what is built from it. -/
def identify (shader : Path) (model : ShaderModel) : Attempt (Stage × String) := do
  let stage ← Attempt.ofFaulty [] (Naming.stage shader)
  .ok (stage, Naming.outputName shader (model.versionFor stage))

/-- Reads a shader and writes its header. The include directory is seen from the shader's. -/
def prepare (shader : Path) (model : ShaderModel) (includeDirectory : Path) :
    Action (ShaderUnit × Path) := do
  let (stage, name) ← Action.query fun _ => identify shader model
  let unit ← Action.query fun fs =>
    Attempt.ofFaulty [.parseSource shader] (ShaderUnit.ofFile fs shader name stage model)
  let header ← Header.write unit (shader.directory.join includeDirectory)
  return (unit, header)

/-- Goes through one shader: nothing is done if it is up to date. -/
def step (options : Options) (ids : BuildIds) (progress : Progress) (shader : Path) :
    Action Progress := do
  let progress := { progress with processed := progress.processed + 1 }
  let current ← Action.query fun fs => do
    let (_, name) ← identify shader options.model
    .ok (options.config.artifacts.isCurrent ids fs shader name)
  if current then
    return { progress with upToDate := progress.upToDate + 1 }
  else
    let (unit, header) ← prepare shader options.model options.config.includeDirectory
    return { progress with
      headers := progress.headers ++ [header]
      work := if options.headersOnly then progress.work else progress.work.insert unit }

/-- Writes the manifest, if there is work, and sums up. -/
def finish (fileList : Path) (progress : Progress) : Action Summary := do
  let summary := ⟨progress.processed, progress.upToDate, progress.headers, none⟩
  if progress.work.isEmpty then
    return summary
  else
    let path := WorkManifest.path fileList
    progress.work.write path
    return { summary with manifest := some path }

/-- The path of the file list from the root on. -/
def locate (fs : FileSystem) (fileList : Path) : Attempt Path :=
  match Path.absolute? fs.workingPath fileList with
  | some path => .ok path
  | none => .error ⟨[.locateFileList fileList], .file .emptyPath⟩

/-- Goes through all shaders of a file list. -/
def run (options : Options) (ids : BuildIds) : Action Summary := do
  let fileList ← Action.query fun fs => locate fs options.fileList
  let shaders ← Action.query fun fs => FileList.read fs fileList
  let progress ← shaders.foldlM (step options ids) {}
  finish fileList progress

end Batch

end ShaderCombos
