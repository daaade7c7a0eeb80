import Mathlib
import ShaderCombos.Proofs.Source.Inclusion

/-!
# `Proofs.Source.Composition` — a flattened source is made of flattened sources

Flattening carries along which files it is in, and so its result could hang on where a file is included
from. It does not: whatever goes through below some files goes through below fewer, with the same result
(`flatten_of_subset`). Each include line of a flattened source is therefore replaced by what its file gives
on its own, and the whole has the form of a recursion that knows nothing of the files above
(`assemble_composes`).

## Contents
- **Fewer files above.** `flatten_keep_eq_ok`, `flatten_include_eq_ok`, `flatten_of_subset`.
- **In place.** `expansion`, `filesBelow` and what flattened lines are made of; `Replaces`, the same said of
  lines as they are written.
- **Counting.** `Expands`: how many include lines are replaced, in a file and below it.
- **Composition.** `assemble_composes`.
-/

namespace ShaderCombos.Source

variable {fs : FileSystem} {entered above : List Location} {path : Path} {line : String}
  {lines rest : List String} {source : Source}

/-! ## Fewer files above -/

theorem flatten_keep_eq_ok (hline : includeTarget? line = none) :
    flatten fs entered path (line :: rest) = .ok source ↔
      ∃ after, flatten fs entered path rest = .ok after ∧ source = ⟨[line], []⟩ ++ after := by
  rw [flatten_cons_of_none hline]
  simp only [except_bind_eq_ok, Except.ok.injEq, @eq_comm _ source]

/-- What a successful replacement of an include line takes. -/
theorem flatten_include_eq_ok {target : Path} (hline : includeTarget? line = some target) :
    flatten fs entered path (line :: rest) = .ok source ↔
      ∃ loc text inner after, fs.readTextAt (path.directory.join target) = .ok (loc, text) ∧
        loc ∉ entered ∧
          flatten fs (loc :: entered) (path.directory.join target) (Text.lines text) = .ok inner ∧
            flatten fs entered path rest = .ok after ∧
              source = ⟨[], [(path.directory.join target).listedName]⟩ ++ inner ++ after := by
  cases hread : fs.readTextAt (path.directory.join target) with
  | error cause =>
      rw [flatten_cons_of_unread hline hread]
      constructor
      · rintro ⟨⟩
      · rintro ⟨loc, text, inner, after, ⟨⟩, -⟩
  | ok found =>
      obtain ⟨loc, text⟩ := found
      rw [flatten_cons_of_read hline hread]
      by_cases hmem : loc ∈ entered
      · rw [if_pos hmem]
        constructor
        · rintro ⟨⟩
        · rintro ⟨loc', text', inner, after, hfound, hfresh, -⟩
          cases hfound
          exact absurd hmem hfresh
      · rw [if_neg hmem]
        simp only [except_bind_eq_ok, Except.ok.injEq]
        constructor
        · rintro ⟨inner, hinner, after, hafter, rfl⟩
          exact ⟨loc, text, inner, after, rfl, hmem, hinner, hafter, rfl⟩
        · rintro ⟨loc', text', inner, after, hfound, -, hinner, hafter, rfl⟩
          cases hfound
          exact ⟨inner, hinner, after, hafter, rfl⟩

/-- **The files above only forbid.** What can be flattened below some files can be flattened below fewer,
    and it gives the same. -/
theorem flatten_of_subset (entered : List Location) (path : Path) (lines : List String)
    (hsub : above ⊆ entered) (h : flatten fs entered path lines = .ok source) :
    flatten fs above path lines = .ok source := by
  induction entered, path, lines using walk_induction fs generalizing above source with
  | nil entered path =>
      rw [flatten_nil] at h ⊢
      exact h
  | keep entered path line rest hline ih =>
      obtain ⟨after, hafter, rfl⟩ := (flatten_keep_eq_ok hline).mp h
      exact (flatten_keep_eq_ok hline).mpr ⟨after, ih hsub hafter, rfl⟩
  | unread entered path line rest target cause hline hread =>
      rw [flatten_cons_of_unread hline hread] at h
      cases h
  | nested entered path line rest target loc text hline hread hmem =>
      rw [flatten_cons_of_read hline hread, if_pos hmem] at h
      cases h
  | descend entered path line rest target loc text hline hread hfresh ihInner ihAfter =>
      obtain ⟨loc', text', inner, after, hfound, hnew, hinner, hafter, rfl⟩ :=
        (flatten_include_eq_ok hline).mp h
      obtain ⟨rfl, rfl⟩ : loc = loc' ∧ text = text' := by simpa using hread.symm.trans hfound
      have hsub' : loc :: above ⊆ loc :: entered := List.cons_subset_cons loc hsub
      exact (flatten_include_eq_ok hline).mpr ⟨loc, text, inner, after, hread,
        fun hmem => hnew (hsub hmem), ihInner hsub' hinner, ihAfter hsub hafter, rfl⟩

/-- What is included can be flattened on its own, and a file that is flattened below others gives what it
    gives on its own. -/
theorem assemble_of_flatten {loc : Location} {text : String} {inner : Source}
    (hread : fs.readTextAt path = .ok (loc, text))
    (h : flatten fs (loc :: entered) path (Text.lines text) = .ok inner) :
    assemble fs path = .ok (⟨[], [path.listedName]⟩ ++ inner) := by
  have hsub : [loc] ⊆ loc :: entered := List.cons_subset_cons loc (List.nil_subset entered)
  rw [assemble_eq_of_read hread, flatten_of_subset (loc :: entered) path (Text.lines text) hsub h]
  rfl

/-! ## In place -/

/-- What stands in the place of a line of the file at `path` after flattening. -/
def expansion (fs : FileSystem) (path : Path) (line : String) : List String :=
  match includeTarget? line with
  | none => [line]
  | some target =>
    match assemble fs (path.directory.join target) with
    | .ok inner => inner.lines
    | .error _ => []

/-- The names of the files that a path contributes. -/
def filesBelow (fs : FileSystem) (path : Path) : List String :=
  match assemble fs path with
  | .ok inner => inner.files
  | .error _ => []

theorem expansion_of_none {line : String} (hline : includeTarget? line = none) :
    expansion fs path line = [line] := by
  simp [expansion, hline]

theorem expansion_of_assemble {line : String} {target : Path} {inner : Source}
    (hline : includeTarget? line = some target)
    (h : assemble fs (path.directory.join target) = .ok inner) : expansion fs path line = inner.lines := by
  simp only [expansion, hline, h]

theorem filesBelow_of_assemble {inner : Source} (h : assemble fs path = .ok inner) :
    filesBelow fs path = inner.files := by
  simp only [filesBelow, h]

/-- **What flattened lines are made of.** -/
theorem of_flatten_eq_ok (entered : List Location) (path : Path) (lines : List String)
    (h : flatten fs entered path lines = .ok source) :
    (∀ c ∈ includedPaths path lines, ∃ inner, assemble fs c = .ok inner) ∧
      source.lines = lines.flatMap (expansion fs path) ∧
        source.files = (includedPaths path lines).flatMap (filesBelow fs) ∧
          ∀ line ∈ source.lines, includeTarget? line = none := by
  induction entered, path, lines using walk_induction fs generalizing source with
  | nil entered path =>
      rw [flatten_nil] at h
      cases h
      simp [includedPaths]
  | keep entered path line rest hline ih =>
      obtain ⟨after, hafter, rfl⟩ := (flatten_keep_eq_ok hline).mp h
      obtain ⟨hchildren, hlines, hfiles, hplain⟩ := ih hafter
      rw [includedPaths_cons_of_none hline, lines_append, files_append, List.flatMap_cons,
        expansion_of_none hline, ← hlines, ← hfiles]
      refine ⟨hchildren, rfl, rfl, fun other hother => ?_⟩
      rcases List.mem_append.mp hother with hfirst | hother
      · rw [List.mem_singleton.mp hfirst]
        exact hline
      · exact hplain other hother
  | unread entered path line rest target cause hline hread =>
      rw [flatten_cons_of_unread hline hread] at h
      cases h
  | nested entered path line rest target loc text hline hread hmem =>
      rw [flatten_cons_of_read hline hread, if_pos hmem] at h
      cases h
  | descend entered path line rest target loc text hline hread hfresh ihInner ihAfter =>
      obtain ⟨loc', text', inner, after, hfound, -, hinner, hafter, rfl⟩ :=
        (flatten_include_eq_ok hline).mp h
      obtain ⟨rfl, rfl⟩ : loc = loc' ∧ text = text' := by simpa using hread.symm.trans hfound
      obtain ⟨-, -, -, hplainInner⟩ := ihInner hinner
      obtain ⟨hchildren, hlines, hfiles, hplain⟩ := ihAfter hafter
      have halone := assemble_of_flatten hread hinner
      rw [includedPaths_cons_of_some hline, List.flatMap_cons, List.flatMap_cons,
        expansion_of_assemble hline halone, filesBelow_of_assemble halone, ← hlines, ← hfiles,
        List.forall_mem_cons]
      refine ⟨⟨⟨_, halone⟩, hchildren⟩, rfl, rfl, fun other hother => ?_⟩
      rcases List.mem_append.mp hother with hother | hother
      · exact hplainInner other hother
      · exact hplain other hother

/-- **What lines of the file at a path give** if each include line among them is replaced by the source of the
    path that it includes, and all other lines stay. -/
inductive Replaces (fs : FileSystem) (path : Path) : List String → Source → Prop where
  | done : Replaces fs path [] {}
  | other {line : String} {lines : List String} {body : Source}
      (hother : ∀ l : IncludeLine, l.text ≠ line.toList) (hrest : Replaces fs path lines body) :
      Replaces fs path (line :: lines) (⟨[line], []⟩ ++ body)
  | included {line : String} {lines : List String} {inner body : Source} (l : IncludeLine)
      (hline : l.text = line.toList) (hinner : assemble fs (path.directory.join l.path) = .ok inner)
      (hrest : Replaces fs path lines body) : Replaces fs path (line :: lines) (inner ++ body)

/-- The expansions of lines replace the include lines among them, where all that they include can be
    flattened. -/
theorem replaces_expansion {path : Path} {lines : List String}
    (h : ∀ c ∈ includedPaths path lines, ∃ inner, assemble fs c = .ok inner) :
    Replaces fs path lines
      ⟨lines.flatMap (expansion fs path), (includedPaths path lines).flatMap (filesBelow fs)⟩ := by
  induction lines with
  | nil => exact .done
  | cons line lines ih =>
      cases hline : includeTarget? line with
      | none =>
          rw [includedPaths_cons_of_none hline] at h ⊢
          rw [List.flatMap_cons, expansion_of_none hline]
          exact .other (includeTarget?_eq_none_iff.mp hline) (ih h)
      | some target =>
          rw [includedPaths_cons_of_some hline] at h ⊢
          obtain ⟨⟨inner, hinner⟩, hrest⟩ := List.forall_mem_cons.mp h
          obtain ⟨l, htext, rfl⟩ := includeTarget?_eq_some_iff.mp hline
          rw [List.flatMap_cons, List.flatMap_cons, expansion_of_assemble hline hinner,
            filesBelow_of_assemble hinner]
          exact .included l htext hinner (ih hrest)

/-! ## Counting -/

/-- How many include lines are replaced when lines of the file at a path are flattened: each include line
    among them, and those of the files that they include. -/
inductive Expands (fs : FileSystem) : Path → List String → Nat → Prop where
  | done {path : Path} : Expands fs path [] 0
  | keep {path : Path} {line : String} {rest : List String} {n : Nat}
      (hline : includeTarget? line = none) (hrest : Expands fs path rest n) :
      Expands fs path (line :: rest) n
  | replace {path target : Path} {line text : String} {rest : List String} {loc : Location} {m n : Nat}
      (hline : includeTarget? line = some target)
      (hread : fs.readTextAt (path.directory.join target) = .ok (loc, text))
      (hinner : Expands fs (path.directory.join target) (Text.lines text) m)
      (hrest : Expands fs path rest n) :
      Expands fs path (line :: rest) (m + n + 1)

/-- The count is a function of the lines. -/
theorem Expands.unique {m n : Nat} (hm : Expands fs path lines m) (hn : Expands fs path lines n) :
    m = n := by
  induction hm generalizing n with
  | done =>
      cases hn
      rfl
  | keep hline _ ih =>
      cases hn with
      | keep _ hrest => exact ih hrest
      | replace hother =>
          rw [hline] at hother
          cases hother
  | replace hline hread _ _ ihInner ihRest =>
      cases hn with
      | keep hother =>
          rw [hline] at hother
          cases hother
      | replace hother hfound hinner hrest =>
          obtain rfl := Option.some.inj (hline.symm.trans hother)
          rw [hread] at hfound
          cases hfound
          rw [ihInner hinner, ihRest hrest]

/-- Every include line that is replaced gives one file name. -/
theorem expands_of_flatten (entered : List Location) (path : Path) (lines : List String)
    (h : flatten fs entered path lines = .ok source) :
    Expands fs path lines source.files.length := by
  induction entered, path, lines using walk_induction fs generalizing source with
  | nil entered path =>
      rw [flatten_nil] at h
      cases h
      exact .done
  | keep entered path line rest hline ih =>
      obtain ⟨after, hafter, rfl⟩ := (flatten_keep_eq_ok hline).mp h
      show Expands fs path (line :: rest) after.files.length
      exact .keep hline (ih hafter)
  | unread entered path line rest target cause hline hread =>
      rw [flatten_cons_of_unread hline hread] at h
      cases h
  | nested entered path line rest target loc text hline hread hmem =>
      rw [flatten_cons_of_read hline hread, if_pos hmem] at h
      cases h
  | descend entered path line rest target loc text hline hread hfresh ihInner ihAfter =>
      obtain ⟨loc', text', inner, after, hfound, -, hinner, hafter, rfl⟩ :=
        (flatten_include_eq_ok hline).mp h
      obtain ⟨rfl, rfl⟩ : loc = loc' ∧ text = text' := by simpa using hread.symm.trans hfound
      have hcount :
          (⟨[], [(path.directory.join target).listedName]⟩ ++ inner ++ after : Source).files.length
            = inner.files.length + after.files.length + 1 := by
        simp only [files_append, List.length_append, List.length_singleton]
        omega
      rw [hcount]
      exact .replace hline hread (ihInner hinner) (ihAfter hafter)

/-! ## Composition -/

/-- **A flattened source is made of flattened sources.** Each include line names a path that can be
    flattened on its own; the lines are those of the file with each include line replaced by the lines of
    that source, and the file names are the file's own and then those of the included sources in order. So
    no include line is left, and there is one file name more than include lines were replaced. -/
theorem assemble_composes {out : Source} (h : assemble fs path = .ok out) :
    ∃ loc text, fs.readTextAt path = .ok (loc, text) ∧
      (∀ c ∈ includedPaths path (Text.lines text), ∃ inner, assemble fs c = .ok inner) ∧
        out.lines = (Text.lines text).flatMap (expansion fs path) ∧
          out.files =
            path.listedName :: (includedPaths path (Text.lines text)).flatMap (filesBelow fs) ∧
            (∀ line ∈ out.lines, includeTarget? line = none) ∧
              (∀ n, Expands fs path (Text.lines text) n ↔ out.files.length = n + 1) ∧
                (∃ body, Replaces fs path (Text.lines text) body ∧ out = ⟨[], [path.listedName]⟩ ++ body) ∧
                  ∀ line ∈ out.lines, ∀ l : IncludeLine, l.text ≠ line.toList := by
  obtain ⟨loc, text, hread⟩ := ((isOk_assemble_iff path).mp ⟨out, h⟩).readable path .refl
  rw [assemble_eq_of_read hread] at h
  obtain ⟨body, hbody, hout⟩ := except_bind_eq_ok.mp h
  cases hout
  obtain ⟨hchildren, hlines, hfiles, hplain⟩ := of_flatten_eq_ok [loc] path (Text.lines text) hbody
  have hcount := expands_of_flatten [loc] path (Text.lines text) hbody
  have hreplaces := replaces_expansion hchildren
  rw [← hlines, ← hfiles] at hreplaces
  refine ⟨loc, text, hread, hchildren, hlines, ?_, hplain, fun n => ?_, ⟨body, hreplaces, rfl⟩,
    fun line hline => includeTarget?_eq_none_iff.mp (hplain line hline)⟩
  · rw [← hfiles]
    rfl
  · show _ ↔ body.files.length + 1 = n + 1
    rw [Nat.add_right_cancel_iff]
    constructor
    · intro hn
      exact hcount.unique hn
    · rintro rfl
      exact hcount

/-! A header that is included twice and includes another one, which lies beside it. -/

namespace TwiceIncluded

def files : FileSystem where
  nodes := [
    (["a_ps30.fxc"], .file "top\n#include \"lib/x.h\"\n# include \"lib/x.h\" // again\nend".toUTF8
      newFileMode),
    (["lib"], .directory newDirectoryMode),
    (["lib", "x.h"], .file "#include \"../lib/y.h\"\nx\n".toUTF8 newFileMode),
    (["lib", "y.h"], .file "y\n".toUTF8 newFileMode)]

def flattened : Source where
  lines := ["top", "y", "x", "y", "x", "end"]
  files := ["a_ps30.fxc", "x.h", "y.h", "x.h", "y.h"]

theorem assemble_eq : assemble files ⟨"a_ps30.fxc"⟩ = .ok flattened := by
  have hwithin : (assembleWithin files files.nodes.length ⟨"a_ps30.fxc"⟩).run = some (.ok flattened) := by
    decide +kernel
  rw [assembleWithin_eq] at hwithin
  exact Option.some.inj hwithin

end TwiceIncluded

theorem assemble_composes_twice_included :
    assemble TwiceIncluded.files ⟨"a_ps30.fxc"⟩ = .ok TwiceIncluded.flattened ∧
      ∃ loc text, TwiceIncluded.files.readTextAt ⟨"a_ps30.fxc"⟩ = .ok (loc, text) ∧
        (∀ c ∈ includedPaths ⟨"a_ps30.fxc"⟩ (Text.lines text),
          ∃ inner, assemble TwiceIncluded.files c = .ok inner) ∧
          TwiceIncluded.flattened.lines =
            (Text.lines text).flatMap (expansion TwiceIncluded.files ⟨"a_ps30.fxc"⟩) ∧
            TwiceIncluded.flattened.files = Path.listedName ⟨"a_ps30.fxc"⟩ ::
              (includedPaths ⟨"a_ps30.fxc"⟩ (Text.lines text)).flatMap (filesBelow TwiceIncluded.files) ∧
              (∀ line ∈ TwiceIncluded.flattened.lines, includeTarget? line = none) ∧
                (∀ n, Expands TwiceIncluded.files ⟨"a_ps30.fxc"⟩ (Text.lines text) n ↔
                  TwiceIncluded.flattened.files.length = n + 1) ∧
                  (∃ body, Replaces TwiceIncluded.files ⟨"a_ps30.fxc"⟩ (Text.lines text) body ∧
                    TwiceIncluded.flattened = ⟨[], [Path.listedName ⟨"a_ps30.fxc"⟩]⟩ ++ body) ∧
                    ∀ line ∈ TwiceIncluded.flattened.lines, ∀ l : IncludeLine, l.text ≠ line.toList :=
  ⟨TwiceIncluded.assemble_eq, assemble_composes TwiceIncluded.assemble_eq⟩

end ShaderCombos.Source
