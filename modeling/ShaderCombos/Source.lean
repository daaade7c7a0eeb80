import ShaderCombos.Failure
import ShaderCombos.FileSystem.Access
import ShaderCombos.Text.Blank
import ShaderCombos.Text.Lines
import ShaderCombos.Text.Pieces

/-!
# Flattened sources

A source may include others by lines of the form `#include "relative/path"`. Flattening puts the lines
of an included file in the place of the line that includes it. There are no guards: a file that is
included twice is flattened twice, and a file that includes itself is a fault. Files are told apart by
location, so `a/../b.h` and `b.h` are the same file.

* `includeTarget?`, `includedPaths`: the path on an include line, and those of all lines of a file.
* `Source.flatten`: the lines of a file with the included lines in place. It ends because a file is
  entered only while it is not being flattened already, and there are finitely many files.
* `Source.assemble`: a root file and all that it includes.
-/

namespace ShaderCombos

open Text

/-! ## Include lines -/

/-- The path that a line includes. Behind the quotes a line comment may follow and nothing else. -/
def includeTarget? (line : String) : Option Path := do
  let s ← dropLiteral? "#" (dropBlanks line.toList)
  let s ← dropLiteral? "include" (dropBlanks s)
  let s ← dropLiteral? "\"" (dropBlanks s)
  let target := s.takeWhile (· ≠ '"')
  let s ← dropLiteral? "\"" (s.dropWhile (· ≠ '"'))
  let rest := dropBlanks s
  let closed := rest.isEmpty || ((dropLiteral? "//" rest).isSome && !rest.contains '\n')
  if !target.isEmpty && closed then some ⟨String.ofList target⟩ else none

/-- The paths that the lines of the file at `path` include, seen from where `path` is seen. -/
def includedPaths (path : Path) (lines : List String) : List Path :=
  (lines.filterMap includeTarget?).map path.directory.join

/-! ## Flattening -/

/-- The lines of a source after flattening, and the names of the files they come from in the order in
which the files were entered. -/
structure Source where
  lines : List String := []
  files : List String := []
  deriving DecidableEq, Repr

namespace Source

/-- One source after another. -/
protected def append (a b : Source) : Source :=
  ⟨a.lines ++ b.lines, a.files ++ b.files⟩

instance : Append Source := ⟨Source.append⟩

@[simp] theorem lines_append (a b : Source) : (a ++ b).lines = a.lines ++ b.lines := rfl

@[simp] theorem files_append (a b : Source) : (a ++ b).files = a.files ++ b.files := rfl

/-- The text of the source, which ends in a line feed even if there are no lines. -/
def text (s : Source) : String :=
  String.intercalate "\n" s.lines ++ "\n"

/-- The fault of an include line whose file cannot be read. -/
def includeFault (child includedFrom : Path) : FileError → Fault
  | .notFound => .missingInclude child includedFrom
  | cause => .unreadable child cause

/-- A file that can be read has an entry. -/
theorem isSome_of_readTextAt {fs : FileSystem} {p : Path} {loc : Location} {text : String}
    (h : fs.readTextAt p = .ok (loc, text)) : (fs.nodes.lookup loc).isSome := by
  simp only [FileSystem.readTextAt, FileSystem.readAt, FileSystem.find, bind, Except.bind] at h
  cases hl : fs.locate p with
  | error e => simp [hl] at h
  | ok found =>
    rw [hl] at h
    cases hn : fs.node? found with
    | none => simp [hn] at h
    | some node =>
      cases node with
      | directory mode => simp [hn] at h
      | file content mode =>
        simp only [hn] at h
        cases hu : String.fromUTF8? content with
        | none => simp [hu] at h
        | some decoded =>
          simp only [hu, Except.ok.injEq, Prod.mk.injEq] at h
          rw [← h.1]
          simp only [FileSystem.node?] at hn
          cases hk : fs.nodes.lookup found with
          | some _ => rfl
          | none =>
            rw [hk] at hn
            by_cases hroot : found = [] <;> simp [hroot] at hn

/-- Flattens lines of the file at `path`. The files that are being flattened stand at the locations in
`entered`. -/
def flatten (fs : FileSystem) (entered : List Location) (path : Path) :
    List String → Except Fault Source
  | [] => .ok {}
  | line :: rest =>
    match includeTarget? line with
    | none => do
      let after ← flatten fs entered path rest
      .ok (⟨[line], []⟩ ++ after)
    | some target =>
      let child := path.directory.join target
      match _ : fs.readTextAt child with
      | .error cause => .error (includeFault child path cause)
      | .ok (loc, text) =>
        -- Locations are compared, not paths: another spelling of a file is still that file.
        if _ : loc ∈ entered then .error (.recursiveInclude child)
        else do
          let inner ← flatten fs (loc :: entered) child (Text.lines text)
          let after ← flatten fs entered path rest
          .ok (⟨[], [child.listedName]⟩ ++ inner ++ after)
  termination_by ls => (fs.unvisited entered, ls.length)
  decreasing_by
    · exact Prod.Lex.right _ (by simp)
    · next h hfresh =>
      exact Prod.Lex.left _ _ (FileSystem.unvisited_cons_lt (isSome_of_readTextAt h) hfresh)
    · exact Prod.Lex.right _ (by simp)

/-- The file at a path with all that it includes. -/
def assemble (fs : FileSystem) (path : Path) : Except Fault Source := do
  match fs.readTextAt path with
  | .error cause => .error (.unreadable path cause)
  | .ok (loc, text) =>
    let body ← flatten fs [loc] path (Text.lines text)
    .ok (⟨[], [path.listedName]⟩ ++ body)

end Source

end ShaderCombos
