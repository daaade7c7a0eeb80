import ShaderCombos.FileSystem.Error

/-!
# File systems

A file system is a finite assignment of files and directories to locations, together with a working
directory. A location is the list of names that lead to it from the root, so every file and directory
has exactly one location however its path is spelled; there are no links. Everything is readable and
writable: permission bits are kept, and they decide only whether a file is a program.

* `Node`: a file or a directory.
* `FileSystem.node?`, `FileSystem.put`: what stands at a location, and putting something there.
  `node?_put_self`, `node?_put_of_ne`: the latter changes that one location.
* `FileSystem.unvisited`: how many locations a list leaves out; `unvisited_cons_lt` bounds a search
  that enters no location twice.
-/

namespace ShaderCombos

/-- The names that lead from the root to a file or directory. -/
abbrev Location := List String

/-- What can stand at a location. The mode holds the permission bits. -/
inductive Node where
  | file (content : ByteArray) (mode : Nat)
  | directory (mode : Nat)

namespace Node

/-- Whether the node is a directory. -/
def isDirectory : Node → Bool
  | .file .. => false
  | .directory _ => true

/-- The permission bits. -/
def mode : Node → Nat
  | .file _ mode => mode
  | .directory mode => mode

/-- Whether two nodes have the same kind, content and permission bits. -/
def isSame : Node → Node → Bool
  | .file content mode, .file other otherMode => content.data == other.data && mode == otherMode
  | .directory mode, .directory otherMode => mode == otherMode
  | _, _ => false

/-- The same node with other permission bits. -/
def withMode (mode : Nat) : Node → Node
  | .file content _ => .file content mode
  | .directory _ => .directory mode

end Node

/-- The permission bits of a new directory. -/
def newDirectoryMode : Nat := 0o755

/-- The permission bits of a new file. -/
def newFileMode : Nat := 0o644

/-- Files and directories at their locations, and the directory that relative paths start from. -/
structure FileSystem where
  nodes : List (Location × Node) := []
  workingDirectory : Location := []

namespace FileSystem

/-- What stands at a location. The root is a directory always. -/
def node? (fs : FileSystem) (loc : Location) : Option Node :=
  match fs.nodes.lookup loc with
  | some node => some node
  | none => if loc = [] then some (.directory newDirectoryMode) else none

/-- Puts a node at a location in place of what stood there. -/
def put (fs : FileSystem) (loc : Location) (node : Node) : FileSystem :=
  { fs with nodes := (loc, node) :: fs.nodes.filter fun entry => entry.1 != loc }

/-- Takes away what stands at a location and at all locations below it. -/
def erase (fs : FileSystem) (loc : Location) : FileSystem :=
  { fs with nodes := fs.nodes.filter fun entry => !loc.isPrefixOf entry.1 }

/-- Whether a directory stands at a location. -/
def isDirectory (fs : FileSystem) (loc : Location) : Bool :=
  (fs.node? loc).any Node.isDirectory

theorem node?_put_self (fs : FileSystem) (loc : Location) (node : Node) :
    (fs.put loc node).node? loc = some node := by
  simp [node?, put]

theorem lookup_filter_of_ne {loc other : Location} (h : other ≠ loc) (nodes : List (Location × Node)) :
    (nodes.filter fun entry => entry.1 != loc).lookup other = nodes.lookup other := by
  induction nodes with
  | nil => rfl
  | cons entry rest ih =>
    obtain ⟨l, node⟩ := entry
    by_cases hl : l = loc
    · subst hl
      have : (other == l) = false := by simpa using h
      simp [List.lookup_cons, this, ih]
    · have : (l != loc) = true := by simpa using hl
      simp only [List.filter, this, List.lookup_cons]
      split
      · rfl
      · exact ih

theorem node?_put_of_ne {loc other : Location} (h : other ≠ loc) (fs : FileSystem) (node : Node) :
    (fs.put loc node).node? other = fs.node? other := by
  have hb : (other == loc) = false := by simpa using h
  simp [node?, put, List.lookup_cons, hb, lookup_filter_of_ne h]

@[simp] theorem workingDirectory_put (fs : FileSystem) (loc : Location) (node : Node) :
    (fs.put loc node).workingDirectory = fs.workingDirectory :=
  rfl

/-! ## Searching without entering a location twice -/

/-- How many entries stand at locations that are not in the list. -/
def unvisited (fs : FileSystem) (visited : List Location) : Nat :=
  fs.nodes.countP fun entry => entry.1 ∉ visited

theorem countP_notMem_cons_le (loc : Location) (visited : List Location)
    (nodes : List (Location × Node)) :
    nodes.countP (fun entry => entry.1 ∉ loc :: visited) ≤ nodes.countP fun entry => entry.1 ∉ visited :=
  List.countP_mono_left fun _ _ h => by simp_all

/-- A location that is not in the list and holds an entry makes the list leave out less. -/
theorem unvisited_cons_lt {fs : FileSystem} {visited : List Location} {loc : Location}
    (found : (fs.nodes.lookup loc).isSome) (fresh : loc ∉ visited) :
    fs.unvisited (loc :: visited) < fs.unvisited visited := by
  simp only [unvisited]
  generalize fs.nodes = nodes at found
  induction nodes with
  | nil => simp at found
  | cons entry rest ih =>
    obtain ⟨l, node⟩ := entry
    have fewer := countP_notMem_cons_le loc visited rest
    by_cases hl : l = loc
    · subst hl
      rw [List.countP_cons_of_neg (by simp), List.countP_cons_of_pos (by simpa using fresh)]
      omega
    · have hne : (loc == l) = false := by simpa using Ne.symm hl
      have less := ih (by simpa [List.lookup_cons, hne] using found)
      have here : (l ∉ loc :: visited) = (l ∉ visited) := by simp [hl]
      simp only [List.countP_cons, here]
      omega

end FileSystem

end ShaderCombos
