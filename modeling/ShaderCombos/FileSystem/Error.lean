/-!
# File errors

The causes for which reading or changing files fails, and the text that a message shows for each.
Where the operating system has a number for a cause, the text ends in it.
-/

namespace ShaderCombos

/-- Why a file could not be read or changed. -/
inductive FileError where
  /-- Nothing stands at the path. -/
  | notFound
  /-- The file is no program. -/
  | permissionDenied
  /-- Something stands at the path already. -/
  | alreadyExists
  /-- The path leads through something that is no directory. -/
  | notADirectory
  /-- A directory stands where a file is needed. -/
  | isADirectory
  /-- The position cannot be reached in any file. -/
  | invalidPosition
  /-- A name or the whole path is too long. -/
  | nameTooLong
  /-- The file ends too early. -/
  | endOfFile
  /-- The bytes of the file are not UTF-8. -/
  | notUtf8
  /-- The path holds a NUL character. -/
  | nulInPath
  /-- A program is to be started with a name or an argument that holds a NUL character. -/
  | nulInArgument
  /-- The empty path names no place. -/
  | emptyPath
  deriving DecidableEq, Repr

namespace FileError

/-- The text that a message shows for a cause. -/
def message : FileError → String
  | notFound => "No such file or directory (os error 2)"
  | permissionDenied => "Permission denied (os error 13)"
  | alreadyExists => "File exists (os error 17)"
  | notADirectory => "Not a directory (os error 20)"
  | isADirectory => "Is a directory (os error 21)"
  | invalidPosition => "Invalid argument (os error 22)"
  | nameTooLong => "File name too long (os error 36)"
  | endOfFile => "failed to fill whole buffer"
  | notUtf8 => "stream did not contain valid UTF-8"
  | nulInPath => "file name contained an unexpected NUL byte"
  | nulInArgument => "nul byte found in provided data"
  | emptyPath => "cannot make an empty path absolute"

end FileError

end ShaderCombos
