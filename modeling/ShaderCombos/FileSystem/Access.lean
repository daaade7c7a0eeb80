import ShaderCombos.FileSystem.Basic
import ShaderCombos.Path

/-!
# Reading and writing by path

A path is followed segment by segment from the root or the working directory; each step but the last
has to reach a directory, and a slash at the end asks for a directory too.

* `FileSystem.locate`: the location of a path.
* `FileSystem.read`, `readText`, `isPresent`, `modeOf`: questions about what stands at a path.
* `FileSystem.write`, `setMode`, `createDirectory`, `remove`: changes that happen as a whole or not at
  all.
* `FileSystem.createDirectories`: creates what is missing of a path; directories that were created
  before a failure stay.
-/

namespace ShaderCombos

namespace FileSystem

/-! ## Following a path -/

/-- The greatest number of bytes in a name. -/
def maxNameSize : Nat := 255

/-- The least number of bytes that a path cannot have. -/
def pathSizeLimit : Nat := 4096

/-- Whether a name is too long for any directory. -/
def isNameTooLong (name : String) : Bool :=
  maxNameSize < name.utf8ByteSize

/-- The location that is reached by following segments from a location. -/
def follow (fs : FileSystem) (loc : Location) : List (List Char) → Except FileError Location
  | [] => .ok loc
  | segment :: rest =>
    if !fs.isDirectory loc then .error .notADirectory
    else if Path.isVoid segment then follow fs loc rest
    else if Path.isUp segment then follow fs loc.dropLast rest
    else
      let name := String.ofList segment
      if isNameTooLong name then .error .nameTooLong
      else if (fs.node? (loc ++ [name])).isSome then follow fs (loc ++ [name]) rest
      else .error .notFound

/-- Whether a path can be passed on to be followed at all. -/
def checkPath (p : Path) : Except FileError Unit :=
  if p.text.toList.contains '\x00' then .error .nulInPath
  else if p.text.isEmpty then .error .notFound
  else if pathSizeLimit ≤ p.text.utf8ByteSize then .error .nameTooLong
  else .ok ()

/-- Where the segments of a path start. -/
def start (fs : FileSystem) (p : Path) : Location :=
  if p.isAbsolute then [] else fs.workingDirectory

/-- The location of what stands at a path. -/
def locate (fs : FileSystem) (p : Path) : Except FileError Location := do
  checkPath p
  fs.follow (fs.start p) p.segments

/-- The place where a path ends: its directory and its last segment that is more than a slash, with
whether a slash follows. -/
def locateLast (fs : FileSystem) (p : Path) : Except FileError (Location × List Char × Bool) := do
  checkPath p
  match p.segments.reverse.dropWhile (·.isEmpty) with
  | [] => .ok ([], [], true)
  | last :: before =>
    let loc ← fs.follow (fs.start p) before.reverse
    if fs.isDirectory loc then .ok (loc, last, p.segments.getLast? = some []) else .error .notADirectory

/-- The working directory as a path. -/
def workingPath (fs : FileSystem) : Path :=
  ⟨"/" ++ String.intercalate "/" fs.workingDirectory⟩

/-! ## Questions -/

/-- The node at a path, with its location. -/
def find (fs : FileSystem) (p : Path) : Except FileError (Location × Node) := do
  let loc ← fs.locate p
  match fs.node? loc with
  | some node => .ok (loc, node)
  | none => .error .notFound

/-- The bytes of the file at a path, with its location. -/
def readAt (fs : FileSystem) (p : Path) : Except FileError (Location × ByteArray) := do
  match ← fs.find p with
  | (loc, .file content _) => .ok (loc, content)
  | (_, .directory _) => .error .isADirectory

/-- The bytes of the file at a path. -/
def read (fs : FileSystem) (p : Path) : Except FileError ByteArray :=
  (fs.readAt p).map (·.2)

/-- The text of the file at a path, with its location. -/
def readTextAt (fs : FileSystem) (p : Path) : Except FileError (Location × String) := do
  let (loc, content) ← fs.readAt p
  match String.fromUTF8? content with
  | some text => .ok (loc, text)
  | none => .error .notUtf8

/-- The text of the file at a path. -/
def readText (fs : FileSystem) (p : Path) : Except FileError String :=
  (fs.readTextAt p).map (·.2)

/-- Whether anything stands at a path. -/
def isPresent (fs : FileSystem) (p : Path) : Bool :=
  (fs.find p).isOk

/-- The permission bits of what stands at a path. -/
def modeOf (fs : FileSystem) (p : Path) : Except FileError Nat :=
  (fs.find p).map (·.2.mode)

/-! ## Changes -/

/-- Sets the permission bits of what stands at a path. -/
def setMode (fs : FileSystem) (p : Path) (mode : Nat) : Except FileError FileSystem := do
  let (loc, node) ← fs.find p
  .ok (fs.put loc (node.withMode mode))

/-- Writes a file. A file that exists keeps its permission bits. -/
def write (fs : FileSystem) (p : Path) (content : ByteArray) : Except FileError FileSystem := do
  let (loc, last, slash) ← fs.locateLast p
  if slash || Path.isVoid last || Path.isUp last then .error .isADirectory
  else
    let name := String.ofList last
    if isNameTooLong name then .error .nameTooLong
    else match fs.node? (loc ++ [name]) with
      | some (.directory _) => .error .isADirectory
      | some (.file _ mode) => .ok (fs.put (loc ++ [name]) (.file content mode))
      | none => .ok (fs.put (loc ++ [name]) (.file content newFileMode))

/-- Creates one directory. -/
def createDirectory (fs : FileSystem) (p : Path) : Except FileError FileSystem := do
  let (loc, last, _) ← fs.locateLast p
  if Path.isVoid last || Path.isUp last then .error .alreadyExists
  else
    let name := String.ofList last
    if isNameTooLong name then .error .nameTooLong
    else if (fs.node? (loc ++ [name])).isSome then .error .alreadyExists
    else .ok (fs.put (loc ++ [name]) (.directory newDirectoryMode))

/-- Whether a directory stands at a path. -/
def isDirectoryAt (fs : FileSystem) (p : Path) : Bool :=
  match fs.find p with
  | .ok (_, node) => node.isDirectory
  | .error _ => false

/-- Creates directories one after another; those that exist already are passed over. -/
def createEach (fs : FileSystem) : List Path → Except FileError Unit × FileSystem
  | [] => (.ok (), fs)
  | p :: rest =>
    match fs.createDirectory p with
    | .ok fs => createEach fs rest
    | .error e =>
      if e = .alreadyExists ∧ fs.isDirectoryAt p then createEach fs rest else (.error e, fs)

/-- Looks outwards for the first path that exists or can be created, and creates from there inwards
the paths that were passed on the way, which `inner` holds. -/
def createOutwards (fs : FileSystem) (inner : List Path) : List Path → Except FileError Unit × FileSystem
  | [] => fs.createEach inner
  | p :: outer =>
    match fs.createDirectory p with
    | .ok fs => fs.createEach inner
    -- The directory that is to hold `p` is missing, so it comes first.
    | .error .notFound => createOutwards fs (p :: inner) outer
    | .error e =>
      if e = .alreadyExists ∧ fs.isDirectoryAt p then fs.createEach inner else (.error e, fs)

/-- Creates a directory together with those that lead to it. -/
def createDirectories (fs : FileSystem) (p : Path) : Except FileError Unit × FileSystem :=
  fs.createOutwards [] p.ancestors

/-- Takes away what stands at a path, with all that lies below it. -/
def remove (fs : FileSystem) (p : Path) : Except FileError FileSystem := do
  let loc ← fs.locate p
  .ok (fs.erase loc)

end FileSystem

end ShaderCombos
