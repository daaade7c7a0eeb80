/-!
# Paths

A path is the text by which a file is named. Two spellings of one file are different paths, and a
message shows a path as it was spelled, so the text itself is kept and nothing is normalised. The
text is a sequence of segments between slashes; empty segments and single dots name nothing.

* `Path.segments`: the text between the slashes. `intercalate_segments`: with slashes between them they
  are the path again.
* `Path.fileName?`, `Path.fileStem?`, `Path.parent?`: the last name of a path and what precedes it.
* `Path.join`: a path relative to a directory.
* `Path.absolute?`: a path relative to the root.
-/

namespace ShaderCombos

/-- The spelling of a file's or directory's place. -/
structure Path where
  text : String
  deriving DecidableEq, Repr

namespace Path

/-! ## Segments -/

/-- The segments of a path, as they are spelled. -/
def segments (p : Path) : List (List Char) :=
  p.text.toList.splitOn '/'

theorem segments_ne_nil (p : Path) : p.segments ≠ [] :=
  List.splitOn_ne_nil _ _

/-- The segments hold all of a path but its slashes. -/
theorem intercalate_segments (p : Path) : ['/'].intercalate p.segments = p.text.toList :=
  List.intercalate_splitOn '/'

/-- A path without a slash is one segment. -/
theorem segments_of_notMem {p : Path} (h : '/' ∉ p.text.toList) : p.segments = [p.text.toList] :=
  List.splitOn_eq_singleton h

/-- Whether a segment names nothing: it is empty or a single dot. -/
def isVoid (segment : List Char) : Bool :=
  segment = [] || segment = ['.']

/-- Whether a segment leads one directory up. -/
def isUp (segment : List Char) : Bool :=
  segment = ['.', '.']

/-- Whether a path starts at the root. -/
def isAbsolute (p : Path) : Bool :=
  p.text.toList.head? = some '/'

/-! ## The last name -/

/-- The segments in reverse order from the last one that names something. -/
def namedFromLast (p : Path) : List (List Char) :=
  p.segments.reverse.dropWhile isVoid

/-- What stands in front of the first segment that names something: the root, the dot of a path that
spells its directory, or nothing. -/
def anchor (p : Path) : List Char :=
  if p.isAbsolute then ['/']
  else if p.segments.head? = some ['.'] then ['.']
  else []

/-- The last name of a path, unless the path ends in a step upwards or names nothing. -/
def fileName? (p : Path) : Option String :=
  match p.namedFromLast with
  | [] => none
  | last :: _ => if isUp last then none else some (String.ofList last)

/-- A name without its extension: what stands before the last dot, unless that dot comes first. -/
def stemOfName (name : List Char) : List Char :=
  match name.reverse.dropWhile (· ≠ '.') with
  | [] => name
  | _ :: before => if before.isEmpty then name else before.reverse

/-- The last name of a path without its extension. -/
def fileStem? (p : Path) : Option String :=
  p.fileName?.map fun name => String.ofList (stemOfName name.toList)

/-- The path before the last name. The root and the empty path have none; a path that is only a dot
lies in the empty path. -/
def parent? (p : Path) : Option Path :=
  match p.namedFromLast with
  | [] =>
    if p.isAbsolute || p.anchor.isEmpty then none else some ⟨""⟩
  | _ :: before =>
    match before.dropWhile isVoid with
    | [] => some ⟨String.ofList p.anchor⟩
    | named => some ⟨String.ofList (['/'].intercalate named.reverse)⟩

/-- A path and its parents, innermost first, at most `limit` of them; the root and the empty path do
not count. -/
def ancestorsWithin : Nat → Path → List Path
  | 0, _ => []
  | limit + 1, p =>
    match p.parent? with
    | none => []
    | some parent => p :: ancestorsWithin limit parent

/-- A path and its parents, innermost first, without the root and the empty path. A parent is shorter
than its path, so there are no more of them than the path has characters. -/
def ancestors (p : Path) : List Path :=
  ancestorsWithin p.text.length p

/-- The directory that a path's neighbours are named in; the empty path where there is no parent. -/
def directory (p : Path) : Path :=
  p.parent?.getD ⟨""⟩

/-- The name under which a file is listed: its last name, or the whole path where it has none. -/
def listedName (p : Path) : String :=
  p.fileName?.getD p.text

/-! ## Joining -/

/-- A path seen from a directory: an absolute path stands for itself, any other follows the directory
after one slash. The empty directory adds nothing. -/
def join (base p : Path) : Path :=
  if p.isAbsolute then p
  else
    match base.text.toList.getLast? with
    | none => p
    | some '/' => ⟨base.text ++ p.text⟩
    | some _ => ⟨base.text ++ "/" ++ p.text⟩

/-- A name in a directory. -/
def child (base : Path) (name : String) : Path :=
  base.join ⟨name⟩

/-- A path from the root on: a relative path is taken to start in `workingDirectory`. Segments that
name nothing are dropped, steps upwards stay, and so does a slash at the end. Exactly two slashes at
the front are kept as two. The empty path names no place. -/
def absolute? (workingDirectory p : Path) : Option Path :=
  if p.text.isEmpty then none
  else
    -- The text of the working directory is taken over as it is.
    let names := p.segments.filter (!isVoid ·)
    let start : Path :=
      match p.text.toList with
      | '/' :: '/' :: '/' :: _ => ⟨"/"⟩
      | '/' :: '/' :: _ => ⟨"//"⟩
      | '/' :: _ => ⟨"/"⟩
      | _ => workingDirectory
    let whole := names.foldl (fun path name => path.child (String.ofList name)) start
    some (if p.text.toList.getLast? = some '/' then whole.child "" else whole)

end Path

end ShaderCombos
