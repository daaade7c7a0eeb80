import ShaderCombos.CommandLine

/-!
# The program

The program fetches what a command may look at from the disk, lets the command work on that, and writes
what has changed back to the disk. It starts no other programs, so a helper counts as one that cannot
be started, and the shaders that only it could tell to be up to date are taken for stale.
-/

namespace ShaderCombos.Program

/-! ## From the disk -/

/-- The path of a location on the disk. -/
def diskPath (loc : Location) : String :=
  "/" ++ String.intercalate "/" loc

/-- What stands at a location on the disk. -/
def fetchNode (loc : Location) : IO (Option Node) := do
  try
    let place ← IO.FS.realPath (diskPath loc)
    if ← place.isDir then
      return some (.directory newDirectoryMode)
    else if ← place.pathExists then
      return some (.file (← IO.FS.readBinFile place) newFileMode)
    else
      return none
  catch _ => return none

/-- Fetches all that lies on the way along some segments. -/
def fetchAlong (fs : FileSystem) (loc : Location) : List (List Char) → IO FileSystem
  | [] => return fs
  | segment :: rest => do
    if Path.isVoid segment then
      fetchAlong fs loc rest
    else if Path.isUp segment then
      fetchAlong fs loc.dropLast rest
    else
      let next := loc ++ [String.ofList segment]
      if (fs.node? next).isSome then
        fetchAlong fs next rest
      else match ← fetchNode next with
        | some node => fetchAlong (fs.put next node) next rest
        | none => return fs

/-- Fetches what stands at a path. -/
def fetch (fs : FileSystem) (p : Path) : IO FileSystem :=
  fetchAlong fs (fs.start p) p.segments

/-- Fetches sources and all that they include. -/
partial def fetchSources (fs : FileSystem) (seen : List Path) : List Path → IO FileSystem
  | [] => return fs
  | p :: rest => do
    if seen.contains p then
      fetchSources fs seen rest
    else
      let fs ← fetch fs p
      let included := match fs.readText p with
        | .ok text => includedPaths p (Text.lines text)
        | .error _ => []
      fetchSources fs (p :: seen) (included ++ rest)

/-- Fetches what goes with a shader of a batch besides its sources: what was compiled from it, and its
header. -/
def fetchProducts (model : ShaderModel) (config : Config) (fs : FileSystem) (shader : Path) :
    IO FileSystem := do
  match Batch.identify shader model with
  | .error _ => return fs
  | .ok (_, name) =>
    let fs ← fetch fs (config.artifacts.artifact shader name)
    fetch fs ((shader.directory.join config.includeDirectory).child (name ++ ".inc"))

/-- Fetches what a batch may look at. -/
def fetchBatch (a : Arguments) (fs : FileSystem) : IO FileSystem := do
  let fs ← match a.config with
    | some path => fetch fs path
    | none => pure fs
  let fs ← fetch fs a.fileList
  match CommandLine.configuration a fs, Batch.locate fs a.fileList >>= FileList.read fs with
  | .ok config, .ok shaders =>
    let fs ← fetchSources fs [] shaders
    let fs ← shaders.foldlM (fetchProducts a.model config) fs
    match Batch.locate fs a.fileList with
    | .ok list => fetch fs (WorkManifest.path list)
    | .error _ => return fs
  | _, _ => return fs

/-! ## To the disk -/

/-- Whether permission bits let the owner write. -/
def isWritable (mode : Nat) : Bool :=
  mode &&& 0o200 != 0

/-- Makes a file writable or read-only. -/
def setWritable (place : String) (writable : Bool) : IO Unit :=
  let reader : IO.AccessRight := { read := true }
  IO.setAccessRights place
    { user := { read := true, write := writable }, group := reader, other := reader }

/-- Puts a node on the disk. -/
def store (loc : Location) (node : Node) : IO Unit := do
  let place := diskPath loc
  match node with
  | .directory _ => IO.FS.createDirAll place
  | .file content mode =>
    try setWritable place true catch _ => pure ()
    IO.FS.writeBinFile place content
    setWritable place (isWritable mode)

/-- Puts on the disk what differs between two file systems, directories before what lies in them. -/
def storeChanges (before after : FileSystem) : IO Unit := do
  let changed := after.nodes.filter fun (loc, node) => !(before.node? loc).any node.isSame
  for (loc, node) in changed.mergeSort fun a b => a.1.length ≤ b.1.length do
    store loc node

/-! ## Running -/

/-- No helper program can be started. -/
def startsNothing : RunProgram := fun _ _ _ =>
  .error .permissionDenied

/-- The names that lead to a directory. -/
def locationOf (directory : String) : Location :=
  ((Path.mk directory).segments.filter (!Path.isVoid ·)).map String.ofList

/-- Carries out a command line and answers with its exit code. -/
def run (arguments : List String) : IO UInt32 := do
  let start : FileSystem := { workingDirectory := locationOf (toString (← IO.currentDir)) }
  let before ← match Arguments.ofList arguments with
    | .ok (.run a) => fetchBatch a (← fetch start start.workingPath)
    | _ => pure start
  let (outcome, after) := CommandLine.execute startsNothing arguments before
  storeChanges before after
  IO.print outcome.output
  IO.eprint outcome.error
  return UInt32.ofNat outcome.exitCode

end ShaderCombos.Program

def main (arguments : List String) : IO UInt32 :=
  ShaderCombos.Program.run arguments
