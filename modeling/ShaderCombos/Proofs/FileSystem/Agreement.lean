import Mathlib.Data.Set.Basic
import ShaderCombos.Proofs.FileSystem.Place

/-!
# `Proofs.FileSystem.Agreement` — file systems that agree off some locations

Two file systems agree off a set of locations if the same stands in both at all other locations and they
have the same directories (`AgreeOff`). This is how a file system before some files were written compares
with the one after: files came or changed at the places of the writes, no directory came or went.

What is read by a path that names none of the locations is the same in both (`AgreeOff.readTextAt_iff`),
although the way of the path is looked up in different file systems: ways lead through directories alone.
How a reading fails may still differ, because a path that goes *through* a file fails otherwise than one
that goes through nothing. Full equality of all outcomes needs the same nodes everywhere (`Same`).

## Contents
- **The same everywhere.** `Same` and what it gives for each look-up.
- **The same off some locations.** `AgreeOff`, its closure properties, `AgreeOff.congr_put` and
  `AgreeOff.putAll_perm` for the same put in both, `AgreeOff.names_iff`.
- **Reading.** `Misses`, `AgreeOff.find_iff`, `AgreeOff.readTextAt_iff`.
-/

namespace ShaderCombos.FileSystem

variable {W V : Set Location} {fs fs' fs₁ fs₂ : FileSystem} {p : Path} {loc l : Location}

/-! ## The same everywhere -/

/-- The same stands at every location. -/
structure Same (fs fs' : FileSystem) : Prop where
  workingDirectory : fs'.workingDirectory = fs.workingDirectory
  node? : ∀ loc, fs'.node? loc = fs.node? loc

namespace Same

theorem refl (fs : FileSystem) : Same fs fs :=
  ⟨rfl, fun _ => rfl⟩

theorem isDirectory (h : Same fs fs') (loc : Location) : fs'.isDirectory loc = fs.isDirectory loc := by
  unfold FileSystem.isDirectory
  rw [h.node?]

theorem follow (h : Same fs fs') (loc : Location) (segments : List (List Char)) :
    fs'.follow loc segments = fs.follow loc segments := by
  induction segments generalizing loc with
  | nil => rfl
  | cons segment rest ih =>
      unfold FileSystem.follow
      simp only [h.isDirectory, h.node?, ih]

theorem start (h : Same fs fs') (p : Path) : fs'.start p = fs.start p := by
  unfold FileSystem.start
  rw [h.workingDirectory]

theorem locate (h : Same fs fs') (p : Path) : fs'.locate p = fs.locate p := by
  unfold FileSystem.locate
  simp only [h.start, h.follow]

theorem find (h : Same fs fs') (p : Path) : fs'.find p = fs.find p := by
  unfold FileSystem.find
  simp only [h.locate, h.node?]

theorem place (h : Same fs fs') (p : Path) : fs'.place p = fs.place p := by
  unfold FileSystem.place FileSystem.locateLast
  simp only [h.start, h.follow, h.isDirectory]

theorem readTextAt (h : Same fs fs') (p : Path) : fs'.readTextAt p = fs.readTextAt p := by
  unfold FileSystem.readTextAt FileSystem.readAt
  simp only [h.find]

end Same

/-! ## The same off some locations -/

/-- The same stands at every location but those of a set, and the directories are the same. -/
structure AgreeOff (W : Set Location) (fs fs' : FileSystem) : Prop where
  workingDirectory : fs'.workingDirectory = fs.workingDirectory
  isDirectory : ∀ loc, fs'.isDirectory loc = fs.isDirectory loc
  node? : ∀ loc, loc ∉ W → fs'.node? loc = fs.node? loc

namespace AgreeOff

theorem refl (fs : FileSystem) : AgreeOff W fs fs :=
  ⟨rfl, fun _ => rfl, fun _ _ => rfl⟩

theorem symm (h : AgreeOff W fs fs') : AgreeOff W fs' fs :=
  ⟨h.workingDirectory.symm, fun loc => (h.isDirectory loc).symm, fun loc hloc => (h.node? loc hloc).symm⟩

theorem trans (h : AgreeOff W fs fs₁) (h' : AgreeOff W fs₁ fs₂) : AgreeOff W fs fs₂ :=
  ⟨h'.workingDirectory.trans h.workingDirectory, fun loc => (h'.isDirectory loc).trans (h.isDirectory loc),
    fun loc hloc => (h'.node? loc hloc).trans (h.node? loc hloc)⟩

theorem mono (h : AgreeOff W fs fs') (hsub : W ⊆ V) : AgreeOff V fs fs' :=
  ⟨h.workingDirectory, h.isDirectory, fun loc hloc => h.node? loc fun hW => hloc (hsub hW)⟩

/-- A node of the same kind at one of the locations changes nothing elsewhere. -/
theorem put {node : Node} (hloc : loc ∈ W) (hkind : node.isDirectory = fs.isDirectory loc) :
    AgreeOff W fs (fs.put loc node) := by
  refine ⟨rfl, fun other => ?_, fun other hother => ?_⟩
  · by_cases h : other = loc
    · subst h
      rw [isDirectory_put_self]
      exact hkind
    · exact isDirectory_put_of_ne h node
  · have hne : other ≠ loc := by
      rintro rfl
      exact hother hloc
    exact node?_put_of_ne hne fs node

theorem put_file {content : ByteArray} {mode : Nat} (hloc : loc ∈ W)
    (hfile : fs.isDirectory loc = false) : AgreeOff W fs (fs.put loc (.file content mode)) :=
  .put hloc hfile.symm

theorem putAll {puts : List (Location × Node)}
    (h : ∀ e ∈ puts, e.1 ∈ W ∧ e.2.isDirectory = fs.isDirectory e.1) :
    AgreeOff W fs (fs.putAll puts) := by
  induction puts generalizing fs with
  | nil => exact .refl fs
  | cons e rest ih =>
      obtain ⟨⟨hloc, hkind⟩, hrest⟩ := List.forall_mem_cons.mp h
      have hput : AgreeOff W fs (fs.put e.1 e.2) := .put hloc hkind
      refine hput.trans (ih fun e' he' => ?_)
      rw [hput.isDirectory]
      exact hrest e' he'

/-- File systems go on agreeing while the same is put in both. -/
theorem congr_put (h : AgreeOff W fs fs') (loc : Location) (node : Node) :
    AgreeOff W (fs.put loc node) (fs'.put loc node) := by
  refine ⟨h.workingDirectory, fun other => ?_, fun other hother => node?_put_congr (h.node? other hother)⟩
  by_cases hother : other = loc
  · subst hother
    rw [isDirectory_put_self, isDirectory_put_self]
  · rw [isDirectory_put_of_ne hother, isDirectory_put_of_ne hother]
    exact h.isDirectory other

/-- The order in which different locations are put to does not matter. -/
theorem putAll_perm {puts puts' : List (Location × Node)} (h : AgreeOff W fs fs')
    (hperm : puts'.Perm puts) (hnodup : (puts.map Prod.fst).Nodup) :
    AgreeOff W (fs.putAll puts) (fs'.putAll puts') := by
  have hnodup' := (hperm.map Prod.fst).nodup_iff.mpr hnodup
  have hput {e : Location × Node} (he : e ∈ puts) :
      (fs'.putAll puts').node? e.1 = (fs.putAll puts).node? e.1 := by
    rw [node?_putAll_of_mem hnodup he, node?_putAll_of_mem hnodup' (hperm.mem_iff.mpr he)]
  have hkept {other : Location} (hother : other ∉ puts.map Prod.fst) :
      (fs.putAll puts).node? other = fs.node? other ∧
        (fs'.putAll puts').node? other = fs'.node? other :=
    ⟨node?_putAll_of_notMem hother,
      node?_putAll_of_notMem fun hmem => hother ((hperm.map Prod.fst).mem_iff.mp hmem)⟩
  refine ⟨?_, fun other => ?_, fun other hother => ?_⟩
  · rw [workingDirectory_putAll, workingDirectory_putAll, h.workingDirectory]
  · unfold FileSystem.isDirectory
    by_cases hmem : other ∈ puts.map Prod.fst
    · obtain ⟨e, he, rfl⟩ := List.mem_map.mp hmem
      rw [hput he]
    · rw [(hkept hmem).1, (hkept hmem).2]
      exact h.isDirectory other
  · by_cases hmem : other ∈ puts.map Prod.fst
    · obtain ⟨e, he, rfl⟩ := List.mem_map.mp hmem
      exact hput he
    · rw [(hkept hmem).1, (hkept hmem).2]
      exact h.node? other hother

theorem start (h : AgreeOff W fs fs') (p : Path) : fs'.start p = fs.start p := by
  unfold FileSystem.start
  rw [h.workingDirectory]

/-- **Ways lead through directories.** A way to a directory, or to a location where the same stands, is open
    in both file systems. -/
theorem follow (h : AgreeOff W fs fs') {segments : List (List Char)}
    (hfollow : fs.follow loc segments = .ok l) (hend : l ∉ W ∨ fs.isDirectory l = true) :
    fs'.follow loc segments = .ok l := by
  induction segments generalizing loc with
  | nil => exact hfollow
  | cons segment rest ih =>
      obtain ⟨hdir, next, henter, hrest⟩ := follow_cons_eq_ok.mp hfollow
      refine follow_cons_eq_ok.mpr ⟨by rw [h.isDirectory]; exact hdir, next, ?_, ih hrest⟩
      rcases henter with hvoid | hup | ⟨hvoid, hup, hlong, hnode, hnext⟩
      · exact Or.inl hvoid
      · exact Or.inr (Or.inl hup)
      · refine Or.inr (Or.inr ⟨hvoid, hup, hlong, ?_, hnext⟩)
        -- The next location is the end of the way, or a directory because the way goes on from it.
        have hopen : next ∉ W ∨ fs.isDirectory next = true := by
          cases rest with
          | nil =>
              cases hrest
              exact hend
          | cons _ _ => exact Or.inr (follow_cons_eq_ok.mp hrest).1
        subst hnext
        rcases hopen with hout | hdirectory
        · rw [h.node? _ hout]
          exact hnode
        · rw [← h.isDirectory] at hdirectory
          unfold FileSystem.isDirectory at hdirectory
          exact Option.isSome_of_any hdirectory

theorem place (h : AgreeOff W fs fs') (hplace : fs.place p = .ok l) : fs'.place p = .ok l := by
  obtain ⟨hcheck, before, last, dir, hend, hlong, hfollow, hdir, rfl⟩ := place_eq_ok_iff.mp hplace
  refine place_eq_ok_iff.mpr ⟨hcheck, before, last, dir, hend, hlong, ?_, ?_, rfl⟩
  · rw [h.start]
    exact h.follow hfollow (Or.inr hdir)
  · rw [h.isDirectory]
    exact hdir

/-- Where a path leads in one of the file systems is a location that it names in the other. -/
theorem names_of_locate (h : AgreeOff W fs fs') (hlocate : fs.locate p = .ok l) : fs'.Names p l := by
  obtain ⟨u, hcheck, hfollow⟩ := except_bind_eq_ok.mp hlocate
  obtain ⟨before, last, hsegments⟩ : ∃ before last, p.segments = before ++ [last] :=
    ⟨_, _, (List.dropLast_concat_getLast p.segments_ne_nil).symm⟩
  rw [hsegments, follow_append_eq_ok] at hfollow
  obtain ⟨dir, hbefore, hlast⟩ := hfollow
  obtain ⟨hdir, next, henter, hnil⟩ := follow_cons_eq_ok.mp hlast
  cases hnil
  have hway : fs'.follow (fs'.start p) before = .ok dir := by
    rw [h.start]
    exact h.follow hbefore (Or.inr hdir)
  have hdir' : fs'.isDirectory dir = true := by rw [h.isDirectory]; exact hdir
  have hlocate' (henter' : fs'.Enters dir last l) : fs'.locate p = .ok l := by
    refine except_bind_eq_ok.mpr ⟨u, hcheck, ?_⟩
    rw [hsegments, follow_append_eq_ok]
    exact ⟨dir, hway, follow_cons_eq_ok.mpr ⟨hdir', l, henter', rfl⟩⟩
  rcases henter with hvoid | hup | ⟨hvoid, hup, hlong, hnode, hnext⟩
  · exact Or.inl (hlocate' (Or.inl hvoid))
  · exact Or.inl (hlocate' (Or.inr (Or.inl hup)))
  · exact Or.inr (place_eq_ok_iff.mpr
      ⟨hcheck, before, last, dir, ⟨hsegments, hvoid, hup⟩, hlong, hway, hdir', hnext⟩)

/-- **What a path names does not hang on files.** -/
theorem names_iff (h : AgreeOff W fs fs') : fs'.Names p l ↔ fs.Names p l := by
  constructor
  · rintro (hlocate | hplace)
    · exact h.symm.names_of_locate hlocate
    · exact Or.inr (h.symm.place hplace)
  · rintro (hlocate | hplace)
    · exact h.names_of_locate hlocate
    · exact Or.inr (h.place hplace)

theorem isDirectoryAt (h : AgreeOff W fs fs') (hdir : fs.isDirectoryAt p = true) :
    fs'.isDirectoryAt p = true := by
  obtain ⟨l, hlocate, hl⟩ := isDirectoryAt_eq_true_iff.mp hdir
  obtain ⟨u, hcheck, hfollow⟩ := except_bind_eq_ok.mp hlocate
  refine isDirectoryAt_eq_true_iff.mpr ⟨l, except_bind_eq_ok.mpr ⟨u, hcheck, ?_⟩, ?_⟩
  · rw [h.start]
    exact h.follow hfollow (Or.inr hl)
  · rw [h.isDirectory]
    exact hl

end AgreeOff

/-! ## Reading -/

/-- A path names none of some locations. -/
def Misses (fs : FileSystem) (W : Set Location) (p : Path) : Prop :=
  ∀ loc ∈ W, ¬ fs.Names p loc

theorem misses_of_forall {locs : List Location}
    (h : ∀ loc ∈ locs, fs.locate p ≠ .ok loc ∧ fs.place p ≠ .ok loc) :
    fs.Misses {loc | loc ∈ locs} p :=
  fun loc hloc hnames => hnames.elim (h loc hloc).1 (h loc hloc).2

theorem Misses.mono (h : fs.Misses W p) (hsub : V ⊆ W) : fs.Misses V p :=
  fun loc hloc => h loc (hsub hloc)

namespace AgreeOff

theorem misses_iff (h : AgreeOff W fs fs') : fs'.Misses V p ↔ fs.Misses V p := by
  unfold Misses
  simp only [h.names_iff]

theorem find (h : AgreeOff W fs fs') (hmiss : fs.Misses W p) {found : Location × Node}
    (hfind : fs.find p = .ok found) : fs'.find p = .ok found := by
  obtain ⟨loc, node⟩ := found
  obtain ⟨hlocate, hnode⟩ := find_eq_ok.mp hfind
  have hout : loc ∉ W := fun hW => hmiss loc hW (Or.inl hlocate)
  obtain ⟨u, hcheck, hfollow⟩ := except_bind_eq_ok.mp hlocate
  refine find_eq_ok.mpr ⟨except_bind_eq_ok.mpr ⟨u, hcheck, ?_⟩, ?_⟩
  · rw [h.start]
    exact h.follow hfollow (Or.inl hout)
  · rw [h.node? loc hout]
    exact hnode

theorem find_iff (h : AgreeOff W fs fs') (hmiss : fs.Misses W p) {found : Location × Node} :
    fs'.find p = .ok found ↔ fs.find p = .ok found :=
  ⟨h.symm.find (h.misses_iff.mpr hmiss), h.find hmiss⟩

/-- **A path that names none of the locations reads the same.** -/
theorem readTextAt_iff (h : AgreeOff W fs fs') (hmiss : fs.Misses W p) {loc : Location} {text : String} :
    fs'.readTextAt p = .ok (loc, text) ↔ fs.readTextAt p = .ok (loc, text) := by
  simp only [readTextAt_eq_ok, readAt_eq_ok, h.find_iff hmiss]

end AgreeOff

end ShaderCombos.FileSystem
