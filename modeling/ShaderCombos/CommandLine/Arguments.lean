import ShaderCombos.Path
import ShaderCombos.ShaderModel

/-!
# Arguments

The command line names a file list, a shader model and options. Long options take a value after an
equals sign or as the next argument; short ones also take it right behind their letter, and short
options without a value can be written together. Two dashes end the options. A request for help or for
the version is answered at once if nothing before it is wrong.

* `Arguments`: what a batch is started with.
* `Arguments.Request`: what the command line asks for.
* `Arguments.ofList`: reads the arguments one after another.
-/

namespace ShaderCombos

/-- What a batch is started with. -/
structure Arguments where
  fileList : Path
  model : ShaderModel
  headersOnly : Bool := false
  config : Option Path := none
  helper : Option Path := none
  inProcessHash : Bool := false
  deriving DecidableEq, Repr

namespace Arguments

/-- What the command line asks for. -/
inductive Request where
  | run (arguments : Arguments)
  | help
  | version
  deriving DecidableEq, Repr

/-- Why a command line is refused. -/
inductive UsageError where
  | unknownArgument (argument : String)
  | missingValue (option : String)
  | invalidValue (option value : String)
  | unneededValue (option : String)
  | repeated (option : String)
  | missingArgument (name : String)
  | conflict (option other : String)
  deriving DecidableEq, Repr

/-- The wording of a refusal. -/
def UsageError.message : UsageError → String
  | .unknownArgument argument => s!"error: unexpected argument '{argument}' found"
  | .missingValue option => s!"error: a value is required for '{option}' but none was supplied"
  | .invalidValue option value => s!"error: invalid value '{value}' for '{option}'"
  | .unneededValue option => s!"error: unexpected value for '{option}' found; no more were expected"
  | .repeated option => s!"error: the argument '{option}' cannot be used multiple times"
  | .missingArgument name => s!"error: the following required arguments were not provided: {name}"
  | .conflict option other => s!"error: the argument '{option}' cannot be used with '{other}'"

/-- The options that take a value. -/
inductive ValueOption where
  | model
  | config
  | helper
  deriving DecidableEq, Repr

/-- The options without a value. -/
inductive Switch where
  | headersOnly
  | inProcessHash
  | help
  | version
  deriving DecidableEq, Repr

/-- The spelling of an option that takes a value. -/
def ValueOption.name : ValueOption → String
  | .model => "--ver"
  | .config => "--config"
  | .helper => "--helper"

/-- The spelling of an option without a value. -/
def Switch.name : Switch → String
  | .headersOnly => "--headers-only"
  | .inProcessHash => "--in-process-hash"
  | .help => "--help"
  | .version => "--version"

/-- The option of a long name. -/
def ofLongName? : String → Option (ValueOption ⊕ Switch)
  | "ver" => some (.inl .model)
  | "config" => some (.inl .config)
  | "helper" => some (.inl .helper)
  | "headers-only" => some (.inr .headersOnly)
  | "in-process-hash" => some (.inr .inProcessHash)
  | "help" => some (.inr .help)
  | "version" => some (.inr .version)
  | _ => none

/-- The option of a letter. -/
def ofLetter? : Char → Option (ValueOption ⊕ Switch)
  | 'v' => some (.inl .model)
  | 'd' => some (.inr .headersOnly)
  | 'h' => some (.inr .help)
  | 'V' => some (.inr .version)
  | _ => none

/-! ## Reading -/

/-- The arguments that have been read. -/
structure Found where
  fileList : Option Path := none
  model : Option ShaderModel := none
  headersOnly : Bool := false
  config : Option Path := none
  helper : Option Path := none
  inProcessHash : Bool := false

/-- Where the reading stands: it goes on, or the request is known. -/
abbrev Step := Except UsageError (Found ⊕ Request)

/-- Takes a path for an option or the file list. It must not be empty. -/
def takePath (name : String) (old : Option Path) (value : String) : Except UsageError Path :=
  if old.isSome then .error (.repeated name)
  else if value.isEmpty then .error (.invalidValue name value)
  else .ok ⟨value⟩

/-- Takes the value of an option. -/
def Found.takeValue (f : Found) (option : ValueOption) (value : String) : Except UsageError Found :=
  match option with
  | .model =>
    if f.model.isSome then .error (.repeated option.name)
    else match ShaderModel.ofToken? value with
      | some m => .ok { f with model := some m }
      | none => .error (.invalidValue option.name value)
  | .config => do .ok { f with config := some (← takePath option.name f.config value) }
  | .helper => do .ok { f with helper := some (← takePath option.name f.helper value) }

/-- Takes an option without a value. -/
def Found.takeSwitch (f : Found) : Switch → Step
  | .headersOnly =>
    if f.headersOnly then .error (.repeated Switch.headersOnly.name)
    else .ok (.inl { f with headersOnly := true })
  | .inProcessHash =>
    if f.inProcessHash then .error (.repeated Switch.inProcessHash.name)
    else .ok (.inl { f with inProcessHash := true })
  | .help => .ok (.inr .help)
  | .version => .ok (.inr .version)

/-- Takes the file list, of which there is one. -/
def Found.takeFileList (f : Found) (value : String) : Except UsageError Found :=
  if f.fileList.isSome then .error (.unknownArgument value)
  else do .ok { f with fileList := some (← takePath "<FILE_LIST>" none value) }

/-- Whether an argument is an option rather than a value. A single dash is a value. -/
def isOption (argument : String) : Bool :=
  match argument.toList with
  | '-' :: _ :: _ => true
  | _ => false

/-- The letters of a short argument; `Sum.inl` names an option whose value is the next argument. -/
def takeLetters (f : Found) : List Char → Except UsageError (ValueOption × Found ⊕ Found ⊕ Request)
  | [] => .ok (.inr (.inl f))
  | c :: rest =>
    match ofLetter? c with
    | none => .error (.unknownArgument (String.ofList ['-', c]))
    | some (.inr switch) => do
      match ← f.takeSwitch switch with
      | .inl f => takeLetters f rest
      | .inr request => .ok (.inr (.inr request))
    | some (.inl option) =>
      match rest with
      | [] => .ok (.inl (option, f))
      | '=' :: value => do .ok (.inr (.inl (← f.takeValue option (String.ofList value))))
      | value => do .ok (.inr (.inl (← f.takeValue option (String.ofList value))))

/-- A long argument without its dashes; the answer is as for letters. -/
def takeLong (f : Found) (text : List Char) : Except UsageError (ValueOption × Found ⊕ Found ⊕ Request) :=
  let name := text.takeWhile (· ≠ '=')
  let value? := match text.dropWhile (· ≠ '=') with
    | [] => none
    | _ :: value => some (String.ofList value)
  match ofLongName? (String.ofList name), value? with
  | none, _ => .error (.unknownArgument (String.ofList ('-' :: '-' :: name)))
  | some (.inr switch), some _ => .error (.unneededValue switch.name)
  | some (.inr switch), none => (f.takeSwitch switch).map .inr
  | some (.inl option), some value => (f.takeValue option value).map (.inr ∘ .inl)
  | some (.inl option), none => .ok (.inl (option, f))

/-- Checks that what has been read is complete and goes together. -/
def Found.finish (f : Found) : Except UsageError Request :=
  if f.inProcessHash ∧ f.helper.isSome then
    .error (.conflict Switch.inProcessHash.name ValueOption.helper.name)
  else match f.model, f.fileList with
    | some model, some fileList =>
      .ok (.run { fileList, model, headersOnly := f.headersOnly, config := f.config, helper := f.helper,
                  inProcessHash := f.inProcessHash })
    | none, _ => .error (.missingArgument ValueOption.model.name)
    | _, none => .error (.missingArgument "<FILE_LIST>")

/-- Reads arguments of which none is an option. -/
def readOperands (f : Found) : List String → Except UsageError Request
  | [] => f.finish
  | argument :: rest => do readOperands (← f.takeFileList argument) rest

/-- Reads arguments. `awaited` is an option that takes the next argument as its value. -/
def readFrom (f : Found) (awaited : Option ValueOption) : List String → Except UsageError Request
  | [] =>
    match awaited with
    | some option => .error (.missingValue option.name)
    | none => f.finish
  | argument :: rest =>
    if isOption argument then
      match awaited with
      | some option => .error (.missingValue option.name)
      | none =>
        if argument = "--" then readOperands f rest
        else do
          let taken ← match argument.toList with
            | '-' :: '-' :: text => takeLong f text
            | _ :: letters => takeLetters f letters
            | [] => .ok (.inr (.inl f))
          match taken with
          | .inl (option, f) => readFrom f (some option) rest
          | .inr (.inl f) => readFrom f none rest
          | .inr (.inr request) => .ok request
    else
      match awaited with
      | some option => do readFrom (← f.takeValue option argument) none rest
      | none => do readFrom (← f.takeFileList argument) none rest

/-- What a command line asks for. -/
def ofList (arguments : List String) : Except UsageError Request :=
  readFrom {} none arguments

end Arguments

end ShaderCombos
