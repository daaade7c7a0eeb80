import ShaderCombos.BuildId
import ShaderCombos.Proofs.FileSystem.Agreement
import ShaderCombos.Proofs.Source.Composition
import ShaderCombos.Proofs.Units

/-!
# `Proofs.Source.Agreement` — a source depends on the files it includes alone

A source is put together from the files that its root comes to include. Where file systems agree on those,
they agree on which files those are (`reaches_iff`), on the flattened source (`assemble_iff`) and on all that
is computed from it: the unit of a shader and the hash that serves as its build identifier.

## Contents
- **The same everywhere.** `Same.assemble`: then failures agree as well.
- **The same off some locations.** `Source.Misses` with `misses_of_closed`, `includes_iff`, `reaches_iff`,
  `assemble_iff`.
- **What is made of a source.** `ShaderUnit.ofFile_iff`, `BuildIds.hashing_iff`.
-/

namespace ShaderCombos

open Relation

variable {W : Set Location} {fs fs' : FileSystem} {path root p q : Path}

/-! ## The same everywhere -/

namespace Source

theorem flatten_of_same (h : FileSystem.Same fs fs') (entered : List Location) (path : Path)
    (lines : List String) : flatten fs' entered path lines = flatten fs entered path lines := by
  induction entered, path, lines using walk_induction fs with
  | nil entered path =>
      rw [flatten_nil, flatten_nil]
  | keep entered path line rest hline ih =>
      rw [flatten_cons_of_none hline, flatten_cons_of_none hline, ih]
  | unread entered path line rest target cause hline hread =>
      have hread' := hread
      rw [← h.readTextAt] at hread'
      rw [flatten_cons_of_unread hline hread, flatten_cons_of_unread hline hread']
  | nested entered path line rest target loc text hline hread hmem =>
      have hread' := hread
      rw [← h.readTextAt] at hread'
      rw [flatten_cons_of_read hline hread, flatten_cons_of_read hline hread', if_pos hmem, if_pos hmem]
  | descend entered path line rest target loc text hline hread hfresh ihInner ihAfter =>
      have hread' := hread
      rw [← h.readTextAt] at hread'
      rw [flatten_cons_of_read hline hread, flatten_cons_of_read hline hread', ihInner, ihAfter]

end Source

/-- Where the same stands everywhere, flattening has the same outcome. -/
theorem FileSystem.Same.assemble (h : Same fs fs') (path : Path) :
    Source.assemble fs' path = Source.assemble fs path := by
  unfold Source.assemble
  simp only [h.readTextAt, Source.flatten_of_same h]

/-! ## The same off some locations -/

namespace Source

/-- No path that a source comes to include names one of some locations. -/
def Misses (fs : FileSystem) (W : Set Location) (root : Path) : Prop :=
  ∀ p, ReflTransGen (Includes fs) root p → fs.Misses W p

/-- The paths that the file at a path has include lines for, in order. -/
def included (fs : FileSystem) (p : Path) : List Path :=
  match fs.readTextAt p with
  | .ok (_, text) => includedPaths p (Text.lines text)
  | .error _ => []

theorem mem_included_iff : q ∈ included fs p ↔ Includes fs p q := by
  unfold included
  cases hread : fs.readTextAt p with
  | error e => simp [Includes, hread]
  | ok found => exact (includes_iff_of_read hread).symm

/-- A source comes to no others than some paths that include one another only. -/
theorem misses_of_closed {paths : List Path} (hclosed : ∀ p ∈ paths, ∀ q ∈ included fs p, q ∈ paths)
    (h : ∀ p ∈ paths, fs.Misses W p) (hroot : root ∈ paths) : Misses fs W root := by
  intro p hp
  refine h p ?_
  induction hp with
  | refl => exact hroot
  | tail _ hdown ih => exact hclosed _ ih _ (mem_included_iff.mpr hdown)

theorem Misses.of_includes (h : Misses fs W root) (hroot : ReflTransGen (Includes fs) root p) :
    Misses fs W p :=
  fun q hq => h q (hroot.trans hq)

theorem includes_iff (h : FileSystem.AgreeOff W fs fs') (hmiss : fs.Misses W p) :
    Includes fs' p q ↔ Includes fs p q := by
  unfold Includes
  simp only [h.readTextAt_iff hmiss]

/-- **The same files are included.** By induction along the includes: the file that has been come to is read
    the same, so it includes the same. -/
theorem reaches_iff (h : FileSystem.AgreeOff W fs fs') (hmiss : Misses fs W root) :
    ReflTransGen (Includes fs') root p ↔ ReflTransGen (Includes fs) root p := by
  constructor
  · intro hp
    induction hp with
    | refl => exact .refl
    | tail _ hdown ih => exact ih.tail ((includes_iff h (hmiss _ ih)).mp hdown)
  · intro hp
    induction hp with
    | refl => exact .refl
    | tail hq hdown ih => exact ih.tail ((includes_iff h (hmiss _ hq)).mpr hdown)

theorem misses_of_agreeOff (h : FileSystem.AgreeOff W fs fs') (hmiss : Misses fs W root) :
    Misses fs' W root :=
  fun p hp => h.misses_iff.mpr (hmiss p ((reaches_iff h hmiss).mp hp))

theorem flatten_of_agreeOff (h : FileSystem.AgreeOff W fs fs') (entered : List Location) (path : Path)
    (lines : List String) {source : Source} (hmiss : ∀ c ∈ includedPaths path lines, Misses fs W c)
    (hflat : flatten fs entered path lines = .ok source) :
    flatten fs' entered path lines = .ok source := by
  induction entered, path, lines using walk_induction fs generalizing source with
  | nil entered path =>
      rw [flatten_nil] at hflat ⊢
      exact hflat
  | keep entered path line rest hline ih =>
      rw [includedPaths_cons_of_none hline] at hmiss
      obtain ⟨after, hafter, rfl⟩ := (flatten_keep_eq_ok hline).mp hflat
      exact (flatten_keep_eq_ok hline).mpr ⟨after, ih hmiss hafter, rfl⟩
  | unread entered path line rest target cause hline hread =>
      rw [flatten_cons_of_unread hline hread] at hflat
      cases hflat
  | nested entered path line rest target loc text hline hread hmem =>
      rw [flatten_cons_of_read hline hread, if_pos hmem] at hflat
      cases hflat
  | descend entered path line rest target loc text hline hread hfresh ihInner ihAfter =>
      rw [includedPaths_cons_of_some hline, List.forall_mem_cons] at hmiss
      obtain ⟨hchild, hrest⟩ := hmiss
      obtain ⟨loc', text', inner, after, hfound, -, hinner, hafter, rfl⟩ :=
        (flatten_include_eq_ok hline).mp hflat
      obtain ⟨rfl, rfl⟩ : loc = loc' ∧ text = text' := by simpa using hread.symm.trans hfound
      have hbelow : ∀ c ∈ includedPaths (path.directory.join target) (Text.lines text),
          Misses fs W c := fun c hc =>
        hchild.of_includes (.single ((includes_iff_of_read hread).mpr hc))
      have hread' := (h.readTextAt_iff (hchild _ .refl)).mpr hread
      exact (flatten_include_eq_ok hline).mpr ⟨loc, text, inner, after, hread', hfresh,
        ihInner hbelow hinner, ihAfter hrest hafter, rfl⟩

theorem assemble_of_agreeOff (h : FileSystem.AgreeOff W fs fs') (hmiss : Misses fs W path)
    {source : Source} (hsource : assemble fs path = .ok source) : assemble fs' path = .ok source := by
  obtain ⟨loc, text, hread⟩ := readTextAt_of_assemble hsource
  have hread' := (h.readTextAt_iff (hmiss path .refl)).mpr hread
  rw [assemble_eq_of_read hread] at hsource
  rw [assemble_eq_of_read hread']
  obtain ⟨body, hbody, hout⟩ := except_bind_eq_ok.mp hsource
  have hbelow : ∀ c ∈ includedPaths path (Text.lines text), Misses fs W c := fun c hc =>
    hmiss.of_includes (.single ((includes_iff_of_read hread).mpr hc))
  exact except_bind_eq_ok.mpr
    ⟨body, flatten_of_agreeOff h [loc] path (Text.lines text) hbelow hbody, hout⟩

/-- **A source that misses the locations is flattened to the same.** -/
theorem assemble_iff (h : FileSystem.AgreeOff W fs fs') (hmiss : Misses fs W path) {source : Source} :
    assemble fs' path = .ok source ↔ assemble fs path = .ok source :=
  ⟨assemble_of_agreeOff h.symm (misses_of_agreeOff h hmiss), assemble_of_agreeOff h hmiss⟩

end Source

/-! ## What is made of a source -/

theorem FileSystem.Same.ofFile (h : Same fs fs') (path : Path) (name : String) (stage : Stage)
    (model : ShaderModel) :
    ShaderUnit.ofFile fs' path name stage model = ShaderUnit.ofFile fs path name stage model := by
  unfold ShaderUnit.ofFile
  rw [h.assemble]

theorem ShaderUnit.ofFile_iff (h : FileSystem.AgreeOff W fs fs') (hmiss : Source.Misses fs W path)
    {name : String} {stage : Stage} {model : ShaderModel} {u : ShaderUnit} :
    ShaderUnit.ofFile fs' path name stage model = .ok u ↔
      ShaderUnit.ofFile fs path name stage model = .ok u := by
  simp only [ShaderUnit.ofFile_eq_ok, Source.assemble_iff h hmiss]

/-- **The hash of a source looks at nothing but the files it includes.** -/
theorem BuildIds.hashing_iff (h : FileSystem.AgreeOff W fs fs') (hmiss : Source.Misses fs W path)
    {id : UInt32} : BuildIds.hashing fs' path = .ok id ↔ BuildIds.hashing fs path = .ok id := by
  unfold BuildIds.hashing
  simp only [except_map_eq_ok, Source.assemble_iff h hmiss]

end ShaderCombos
