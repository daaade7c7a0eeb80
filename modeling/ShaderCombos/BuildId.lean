import ShaderCombos.Hash.XxHash32
import ShaderCombos.Source
import ShaderCombos.Text.Digit
import ShaderCombos.Text.Quoted
import ShaderCombos.Text.Utf8
import ShaderCombos.Width

/-!
# Build identifiers

A build identifier is a number that tells the contents of a shader source apart. It is computed from
the source, and the compiler stores it in what it compiles.

* `BuildIds`: a way to find out the identifier of a source. It may look at files and change none.
* `BuildIds.hashing`: the hash of the flattened source.
* `BuildIds.asking`: the number that a helper program prints.
* `embeddedId`: the identifier that is stored in a compiled file.
-/

namespace ShaderCombos

/-- A way to find out the build identifier of the source at a path. -/
abbrev BuildIds := FileSystem → Path → Except Fault UInt32

/-- Starts a program with one argument and answers with what it writes to its standard output. -/
abbrev RunProgram := FileSystem → (program argument : Path) → Except FileError ByteArray

namespace BuildIds

/-- The bytes that `hashing` hashes. -/
def hashInput (source : Source) : List UInt8 :=
  source.text.toUTF8.data.toList

/-- The hash of the flattened source as identifier. -/
def hashing : BuildIds := fun fs path =>
  (Source.assemble fs path).map fun source => XxHash32.hash (hashInput source) 0

/-- The number of 32 bits that a text spells. One plus sign may stand in front. -/
def printedId? (text : List Char) : Option UInt32 := do
  let digits := match text with
    | '+' :: rest => rest
    | _ => text
  let n ← Text.readDecimal? digits
  if fits32 n then some (UInt32.ofNat n) else none

/-- The number that a helper program prints when it is given the path of the source. How the program
ends does not matter. -/
def asking (runProgram : RunProgram) (program : Path) : BuildIds := fun fs path =>
  match runProgram fs program path with
  | .error e => .error (.helper s!"{program.text}: {e.message}")
  | .ok output =>
    let printed := Text.trim (Text.decodeLossy output).toList
    match printedId? printed with
    | some id => .ok id
    | none =>
      let shown := String.ofList (Text.quoted printed)
      .error (.helper s!"{program.text} printed {shown} for {path.text}")

/-- No identifiers: there is no helper program to ask. -/
def unavailable (reason : String) : BuildIds := fun _ _ =>
  .error (.helper reason)

end BuildIds

/-- The least position that no file has. -/
def positionLimit : Nat := 0x8000000000000000

/-- The number in the first four bytes, the least significant first. -/
def leadingWord? : List UInt8 → Option UInt32
  | a :: b :: c :: d :: _ => some (XxHash32.littleEndian a b c d)
  | _ => none

/-- The identifier that is stored at a position of a compiled file. -/
def embeddedId (fs : FileSystem) (artifact : Path) (offset : Nat) : Except FileError UInt32 := do
  -- The file is opened before the position is looked at, so a missing file is the first cause.
  let (_, node) ← fs.find artifact
  if positionLimit ≤ offset then .error .invalidPosition
  else match node with
    | .directory _ => .error .isADirectory
    | .file content _ =>
      match leadingWord? (content.data.toList.drop offset) with
      | some id => .ok id
      | none => .error .endOfFile

end ShaderCombos
