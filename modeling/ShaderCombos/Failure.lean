import ShaderCombos.Directive.Kind
import ShaderCombos.FileSystem.Error
import ShaderCombos.Path

/-!
# What can go wrong

A `Fault` is a defect of a shader source, of its combos or of the batch. A `Failure` is the end of an
activity: what it was about, from the outside in, and the cause at the bottom. Failing to tell whether
a shader is up to date is no failure of a batch.

* `Fault.message`, `Activity.message`, `Failure.message`: the wording, in one place each.
* `Attempt.during`: runs a step as part of an activity.
-/

namespace ShaderCombos

/-! ## Faults -/

/-- A defect of a source text, of its combos or of the batch. -/
inductive Fault where
  /-- An include directive names a file that does not exist. -/
  | missingInclude (path includedFrom : Path)
  /-- A source exists but cannot be read, or the root source cannot be read for any cause. -/
  | unreadable (path : Path) (cause : FileError)
  /-- A file includes itself, directly or through others. -/
  | recursiveInclude (path : Path)
  /-- A directive does not follow its grammar. -/
  | malformed (kind : Directive.Kind) (line : String)
  /-- A texture coordinate has no place in the mask. -/
  | centroidOutOfRange (slot : Nat)
  /-- A file name tells no stage. -/
  | unknownStage (path : Path)
  /-- The range of a combo is reversed. -/
  | emptyRange (name : String) (min max : Int32)
  /-- From this combo on, indices need more than 64 bits. -/
  | indexOverflow (name : String)
  /-- A file list names no shader. -/
  | emptyFileList (path : Path)
  /-- The build identifier of a source could not be found out. -/
  | helper (reason : String)
  deriving DecidableEq, Repr

/-- The wording of a fault. -/
def Fault.message : Fault → String
  | .missingInclude path source =>
    s!"included file {path.text} does not exist (included from {source.text})"
  | .unreadable path _ => s!"failed to read {path.text}"
  | .recursiveInclude path => s!"file {path.text} is recursively included"
  | .malformed kind line => s!"malformed {kind.keyword} directive: {line}"
  | .centroidOutOfRange slot => s!"centroid slot TEXCOORD{slot} is out of range (must be 0-31)"
  | .unknownStage path =>
    s!"cannot determine shader stage of {path.text} (expected a _vsNN or _psNN suffix)"
  | .emptyRange name min max => s!"combo {name} has an empty range {min.toInt}..{max.toInt}"
  | .indexOverflow name => s!"combo space overflows a 64-bit index at combo {name}"
  | .emptyFileList path => s!"file list {path.text} does not name any shader"
  | .helper reason => s!"build identifier helper failed: {reason}"

/-- The file error below a fault, if there is one. -/
def Fault.cause? : Fault → Option FileError
  | .unreadable _ cause => some cause
  | _ => none

/-! ## Failures -/

/-- What was under way when something failed. -/
inductive Activity where
  | layOutClass (name : String)
  | layOutDynamicCombos (unit : String)
  | generateHeader (unit : String)
  | createDirectory (path : Path)
  | inspectFile (path : Path)
  | writeHeader (path : Path)
  | parseSource (path : Path)
  | readFileList (path : Path)
  | locateFileList (path : Path)
  | writeManifest (path : Path)
  | readConfig (path : Path)
  | useConfig (path : Path)
  | parseConfig
  deriving DecidableEq, Repr

/-- The wording of an activity that failed. -/
def Activity.message : Activity → String
  | .layOutClass name => s!"Failed to lay out {name}"
  | .layOutDynamicCombos unit => s!"Failed to lay out dynamic combos of {unit}"
  | .generateHeader unit => s!"Failed to generate header for {unit}"
  | .createDirectory path => s!"Failed to create {path.text}"
  | .inspectFile path => s!"Failed to stat {path.text}"
  | .writeHeader path => s!"Failed to write header to {path.text}"
  | .parseSource path => s!"Failed to parse {path.text}"
  | .readFileList path => s!"Failed to read file list {path.text}"
  | .locateFileList path => s!"Invalid file list path {path.text}"
  | .writeManifest path => s!"Failed to write work manifest to {path.text}"
  | .readConfig path => s!"Failed to read config: {path.text}"
  | .useConfig path => s!"Invalid config: {path.text}"
  | .parseConfig => "Failed to parse shader-prep config"

/-- What lies at the bottom of a failure. -/
inductive Cause where
  /-- A defect of the input. -/
  | fault (fault : Fault)
  /-- The operating system refused an operation on a file. -/
  | file (error : FileError)
  /-- A configuration text is no configuration. -/
  | badConfig
  deriving DecidableEq, Repr

/-- The end of an activity: what was under way, outermost first, and why it failed. -/
structure Failure where
  activities : List Activity
  cause : Cause
  deriving DecidableEq, Repr

namespace Failure

/-- A failure that happens in no named activity. -/
def ofFault (f : Fault) : Failure :=
  ⟨[], .fault f⟩

/-- The texts of a cause, outermost first. The wording of a bad configuration is left open. -/
def causeTexts : Cause → List String
  | .fault f => f.message :: (f.cause?.map FileError.message).toList
  | .file e => [e.message]
  | .badConfig => []

/-- The whole chain of texts, outermost first. -/
def texts (f : Failure) : List String :=
  f.activities.map Activity.message ++ causeTexts f.cause

/-- The chain in one line. -/
def message (f : Failure) : String :=
  String.intercalate ": " f.texts

/-- The outermost text. -/
def headline (f : Failure) : String :=
  f.texts.headD ""

/-- The same failure as part of a wider activity. -/
def within (activity : Activity) (f : Failure) : Failure :=
  { f with activities := activity :: f.activities }

end Failure

/-- The outcome of a step that may fail. -/
abbrev Attempt (α : Type) := Except Failure α

namespace Attempt

/-- A step on input that may have faults, seen as part of an activity. -/
def ofFaulty {α : Type} (activities : List Activity) (step : Except Fault α) : Attempt α :=
  step.mapError fun f => ⟨activities, .fault f⟩

/-- A step on files, seen as part of an activity. -/
def ofFile {α : Type} (activity : Activity) (step : Except FileError α) : Attempt α :=
  step.mapError fun e => ⟨[activity], .file e⟩

/-- A step as part of a wider activity. -/
def during {α : Type} (activity : Activity) (step : Attempt α) : Attempt α :=
  step.mapError (·.within activity)

end Attempt

end ShaderCombos
