import ShaderCombos.Batch
import ShaderCombos.CommandLine.Arguments

/-!
# The command line

* `CommandLine.identifiers`: where build identifiers come from.
* `CommandLine.execute`: what a command line does to a file system, and what it shows.
-/

namespace ShaderCombos.CommandLine

/-- What a finished command shows. -/
structure Outcome where
  exitCode : Nat
  output : String := ""
  error : String := ""
  deriving DecidableEq, Repr

/-- The name of the helper program that is asked if no other is named. -/
def defaultHelper : String := "ShaderCrc"

/-- The name and version of the program. -/
def versionText : String := "shader-prep 0.1.0\n"

/-- The explanation of the arguments. -/
def helpText : String := Text.unlines [
  "Generate shader combo index headers and compile work lists",
  "",
  "Usage: shader-prep [OPTIONS] --ver <VERSION> <FILE_LIST>",
  "",
  "Arguments:",
  "  <FILE_LIST>  Text file listing one shader source per line",
  "",
  "Options:",
  "  -v, --ver <VERSION>    Shader model tier to build for [possible values: 20b, 30]",
  "  -d, --headers-only     Only regenerate headers; do not record compile work",
  "      --config <CONFIG>  Optional shader-prep.toml",
  "      --helper <HELPER>  Build identifier helper (default: ShaderCrc next to this executable)",
  "      --in-process-hash  Hash sources in-process instead of running the helper",
  "  -h, --help             Print help",
  "  -V, --version          Print version"]

/-- The settings of a command: those of the configuration file, with the helper that the arguments
name in place of the configured one. -/
def configuration (a : Arguments) (fs : FileSystem) : Attempt Config := do
  let config ← match a.config with
    | some path => Config.load fs path
    | none => .ok {}
  .ok { config with helper := a.helper <|> config.helper }

/-- Where build identifiers come from: the hash if it is asked for, or else the helper. The helper that
would lie beside the program is taken to be absent. -/
def identifiers (runProgram : RunProgram) (a : Arguments) (config : Config) : BuildIds :=
  if a.inProcessHash then .hashing
  else match config.helper with
    | some program => .asking runProgram program
    | none => .unavailable (defaultHelper ++ ": " ++ FileError.notFound.message)

/-- Runs the batch that the arguments ask for. -/
def runBatch (runProgram : RunProgram) (a : Arguments) : Action Batch.Summary := do
  let config ← Action.query (configuration a)
  Batch.run { fileList := a.fileList, model := a.model, headersOnly := a.headersOnly, config }
    (identifiers runProgram a config)

/-- The report of a failure: its outermost text and, indented below it, the causes. -/
def report (f : Failure) : String :=
  let causes := f.texts.drop 1
  Text.unlines (["Error: " ++ f.headline]
    ++ if causes.isEmpty then [] else ["", "Caused by:"] ++ causes.map ("    " ++ ·))

/-- What a command line does to a file system, and what it shows. -/
def execute (runProgram : RunProgram) (arguments : List String) : StateM FileSystem Outcome :=
  match Arguments.ofList arguments with
  | .error e => pure { exitCode := 2, error := e.message ++ "\n" }
  | .ok .help => pure { exitCode := 0, output := helpText }
  | .ok .version => pure { exitCode := 0, output := versionText }
  | .ok (.run a) => fun fs =>
    match runBatch runProgram a fs with
    | (.ok _, fs') => ({ exitCode := 0 }, fs')
    | (.error f, fs') => ({ exitCode := 1, error := report f }, fs')

end ShaderCombos.CommandLine
