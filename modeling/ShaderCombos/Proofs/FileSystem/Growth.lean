import Mathlib.Data.Set.Basic
import ShaderCombos.Proofs.FileSystem.Place

/-!
# `Proofs.FileSystem.Growth` — file systems that only grow

A batch takes nothing away. It puts files in places, and it creates directories where nothing stood. One
file system *grows* into another (`Grows W D`) if what stood still stands, except that files may have come or
changed at the locations of `W` and directories may have come at those of `D`.

Whatever way was open stays open then (`Grows.follow`), so a path that leads somewhere still leads there
(`Grows.locate`), and the locations that some paths lead to only become more (`Grows.ledTo_subset`). That is
why all of a batch can be told by where paths lead *in the end*.

## Contents
- **Growth.** `Grows` with `refl`, `trans`, `mono`, and what one put adds: `Grows.put`, `Grows.create`.
- **Open ways.** `Grows.isSome`, `Grows.isDirectory`, `Grows.follow`, `Grows.locate`.
- **What has not changed.** `Grows.node?_of_notMem`, `Grows.node?_of_file`, `Grows.exists_file`.
- **Creating directories.** `createDirectory_eq_ok` and `grows_createDirectories`.
-/

namespace ShaderCombos.FileSystem

variable {W V D E : Set Location} {fs fs' fs₁ : FileSystem} {p : Path} {loc l : Location}
  {paths : List Path}

/-- The locations that some paths lead to. -/
def ledTo (fs : FileSystem) (paths : List Path) : Set Location :=
  {loc | ∃ p ∈ paths, fs.locate p = .ok loc}

theorem ledTo_mono {paths' : List Path} (h : paths ⊆ paths') : fs.ledTo paths ⊆ fs.ledTo paths' := by
  rintro loc ⟨p, hp, hlocate⟩
  exact ⟨p, h hp, hlocate⟩

/-! ## Growth -/

/-- **Nothing is taken away.** At the locations of `W` something of the same kind may have been put, and at
    those of `D` a directory may have been created. -/
structure Grows (W D : Set Location) (fs fs' : FileSystem) : Prop where
  workingDirectory : fs'.workingDirectory = fs.workingDirectory
  node? : ∀ loc, fs'.node? loc = fs.node? loc ∨
    (loc ∈ W ∧ (fs'.node? loc).isSome ∧ fs'.isDirectory loc = fs.isDirectory loc) ∨
      (loc ∈ D ∧ fs.node? loc = none ∧ fs'.isDirectory loc = true)

theorem isSome_of_isDirectory (h : fs.isDirectory loc = true) : (fs.node? loc).isSome :=
  Option.isSome_of_any h

theorem isDirectory_congr (h : fs'.node? loc = fs.node? loc) :
    fs'.isDirectory loc = fs.isDirectory loc := by
  unfold isDirectory
  rw [h]

namespace Grows

theorem refl (fs : FileSystem) : Grows W D fs fs :=
  ⟨rfl, fun _ => Or.inl rfl⟩

theorem mono (h : Grows W D fs fs') (hW : W ⊆ V) (hD : D ⊆ E) : Grows V E fs fs' := by
  refine ⟨h.workingDirectory, fun loc => ?_⟩
  rcases h.node? loc with hsame | ⟨hloc, hput⟩ | ⟨hloc, hcreated⟩
  · exact Or.inl hsame
  · exact Or.inr (Or.inl ⟨hW hloc, hput⟩)
  · exact Or.inr (Or.inr ⟨hD hloc, hcreated⟩)

/-- What stands somewhere is not taken away. -/
theorem isSome (h : Grows W D fs fs') (hsome : (fs.node? loc).isSome) : (fs'.node? loc).isSome := by
  rcases h.node? loc with hsame | ⟨-, hput, -⟩ | ⟨-, -, hdir⟩
  · rw [hsame]
    exact hsome
  · exact hput
  · exact isSome_of_isDirectory hdir

/-- A directory stays one. -/
theorem isDirectory (h : Grows W D fs fs') (hdir : fs.isDirectory loc = true) :
    fs'.isDirectory loc = true := by
  rcases h.node? loc with hsame | ⟨-, -, hkind⟩ | ⟨-, -, hdir'⟩
  · rw [isDirectory_congr hsame]
    exact hdir
  · rw [hkind]
    exact hdir
  · exact hdir'

theorem trans (h : Grows W D fs fs₁) (h' : Grows W D fs₁ fs') : Grows W D fs fs' := by
  refine ⟨h'.workingDirectory.trans h.workingDirectory, fun loc => ?_⟩
  rcases h'.node? loc with hsame' | ⟨hloc', hput', hkind'⟩ | ⟨hloc', hnone', hdir'⟩
  · -- The last part has left the location alone, so it is as the first part has left it.
    rw [hsame', isDirectory_congr hsame']
    exact h.node? loc
  · rcases h.node? loc with hsame | ⟨-, -, hkind⟩ | ⟨hloc, hnone, hdir⟩
    · exact Or.inr (Or.inl ⟨hloc', hput', hkind'.trans (isDirectory_congr hsame)⟩)
    · exact Or.inr (Or.inl ⟨hloc', hput', hkind'.trans hkind⟩)
    · exact Or.inr (Or.inr ⟨hloc, hnone, hkind'.trans hdir⟩)
  · -- Nothing stood there in between, so nothing stood there before.
    refine Or.inr (Or.inr ⟨hloc', ?_, hdir'⟩)
    cases hnode : fs.node? loc with
    | none => rfl
    | some node =>
        have hsome : (fs₁.node? loc).isSome = true := h.isSome (by simp [hnode])
        simp [hnone'] at hsome

theorem put {node : Node} (hloc : loc ∈ W) (hkind : node.isDirectory = fs.isDirectory loc) :
    Grows W D fs (fs.put loc node) := by
  refine ⟨rfl, fun other => ?_⟩
  by_cases hother : other = loc
  · subst hother
    refine Or.inr (Or.inl ⟨hloc, ?_, ?_⟩)
    · simp [node?_put_self]
    · rw [isDirectory_put_self, hkind]
  · exact Or.inl (node?_put_of_ne hother fs node)

theorem create {mode : Nat} (hloc : loc ∈ D) (hnone : fs.node? loc = none) :
    Grows W D fs (fs.put loc (.directory mode)) := by
  refine ⟨rfl, fun other => ?_⟩
  by_cases hother : other = loc
  · subst hother
    exact Or.inr (Or.inr ⟨hloc, hnone, isDirectory_put_self fs other _⟩)
  · exact Or.inl (node?_put_of_ne hother fs _)

/-! ## Open ways -/

theorem start (h : Grows W D fs fs') (p : Path) : fs'.start p = fs.start p := by
  unfold FileSystem.start
  rw [h.workingDirectory]

/-- **An open way stays open.** -/
theorem follow (h : Grows W D fs fs') {segments : List (List Char)}
    (hfollow : fs.follow loc segments = .ok l) : fs'.follow loc segments = .ok l := by
  induction segments generalizing loc with
  | nil => exact hfollow
  | cons segment rest ih =>
      obtain ⟨hdir, next, henter, hrest⟩ := follow_cons_eq_ok.mp hfollow
      refine follow_cons_eq_ok.mpr ⟨h.isDirectory hdir, next, ?_, ih hrest⟩
      rcases henter with hvoid | hup | ⟨hvoid, hup, hlong, hnode, hnext⟩
      · exact Or.inl hvoid
      · exact Or.inr (Or.inl hup)
      · exact Or.inr (Or.inr ⟨hvoid, hup, hlong, h.isSome hnode, hnext⟩)

theorem locate (h : Grows W D fs fs') (hlocate : fs.locate p = .ok loc) : fs'.locate p = .ok loc := by
  obtain ⟨u, hcheck, hfollow⟩ := except_bind_eq_ok.mp hlocate
  refine except_bind_eq_ok.mpr ⟨u, hcheck, ?_⟩
  rw [h.start]
  exact h.follow hfollow

theorem ledTo_subset (h : Grows W D fs fs') : fs.ledTo paths ⊆ fs'.ledTo paths := by
  rintro loc ⟨p, hp, hlocate⟩
  exact ⟨p, hp, h.locate hlocate⟩

/-! ## What has not changed -/

/-- Off the locations that are put to, what stood still stands, and what has come is a directory. -/
theorem node?_of_notMem (h : Grows W D fs fs') (hloc : loc ∉ W) :
    fs'.node? loc = fs.node? loc ∨ (loc ∈ D ∧ fs.node? loc = none ∧ fs'.isDirectory loc = true) := by
  rcases h.node? loc with hsame | ⟨hmem, -⟩ | hcreated
  · exact Or.inl hsame
  · exact absurd hmem hloc
  · exact Or.inr hcreated

/-- **A file off the locations that are put to is neither new nor changed.** -/
theorem node?_of_file (h : Grows W D fs fs') (hloc : loc ∉ W) {content : ByteArray} {mode : Nat}
    (hfile : fs'.node? loc = some (.file content mode)) : fs.node? loc = some (.file content mode) := by
  rcases h.node?_of_notMem hloc with hsame | ⟨-, -, hdir⟩
  · exact hsame.symm.trans hfile
  · rw [isDirectory_of_node? hfile] at hdir
    cases hdir

/-- A file stays a file. -/
theorem exists_file (h : Grows W D fs fs') {content : ByteArray} {mode : Nat}
    (hfile : fs.node? loc = some (.file content mode)) :
    ∃ content' mode', fs'.node? loc = some (.file content' mode') := by
  rcases h.node? loc with hsame | ⟨-, hsome, hkind⟩ | ⟨-, hnone, -⟩
  · exact ⟨content, mode, hsame.trans hfile⟩
  · obtain ⟨node, hnode⟩ := Option.isSome_iff_exists.mp hsome
    rw [isDirectory_of_node? hnode, isDirectory_of_node? hfile] at hkind
    cases node with
    | file content' mode' => exact ⟨content', mode', hnode⟩
    | directory mode' => cases hkind
  · rw [hfile] at hnone
    cases hnone

end Grows

/-! ## Creating directories -/

/-- Segments that name nothing lead from a directory to itself. -/
theorem follow_of_voids {voids : List (List Char)} (hdir : fs.isDirectory loc = true)
    (hvoid : ∀ segment ∈ voids, Path.isVoid segment = true) : fs.follow loc voids = .ok loc := by
  induction voids with
  | nil => rfl
  | cons segment rest ih =>
      obtain ⟨hfirst, hrest⟩ := List.forall_mem_cons.mp hvoid
      exact follow_cons_eq_ok.mpr ⟨hdir, loc, Or.inl ⟨hfirst, rfl⟩, ih hrest⟩

/-- **What creating a directory does.** Nothing stood where the directory is put, and its path leads to it. -/
theorem createDirectory_eq_ok (h : fs.createDirectory p = .ok fs') :
    ∃ loc, fs.node? loc = none ∧ fs' = fs.put loc (.directory newDirectoryMode) ∧
      fs'.locate p = .ok loc := by
  obtain ⟨⟨dir, last, slash⟩, hlast, h⟩ := except_bind_eq_ok.mp h
  cases hbad : Path.isVoid last || Path.isUp last with
  | true => simp [hbad] at h
  | false =>
      obtain ⟨hvoid, hup⟩ : Path.isVoid last = false ∧ Path.isUp last = false := by simpa using hbad
      cases hlong : isNameTooLong (String.ofList last) with
      | true => simp [hvoid, hup, hlong] at h
      | false =>
          cases hnode : fs.node? (dir ++ [String.ofList last]) with
          | some node => simp [hvoid, hup, hlong, hnode] at h
          | none =>
              obtain rfl : fs.put (dir ++ [String.ofList last]) (.directory newDirectoryMode) = fs' := by
                simpa [hvoid, hup, hlong, hnode] using h
              obtain ⟨hcheck, hdir, before, behind, hsegments, hempty, -, hfollow⟩ :=
                locateLast_eq_ok hlast hvoid
              have hgrows : Grows ∅ {dir ++ [String.ofList last]} fs
                  (fs.put (dir ++ [String.ofList last]) (.directory newDirectoryMode)) :=
                .create rfl hnode
              refine ⟨_, hnode, rfl, except_bind_eq_ok.mpr ⟨(), hcheck, ?_⟩⟩
              -- The way to the new directory was open, and slashes may follow its name.
              rw [hsegments, follow_append_eq_ok]
              refine ⟨dir, hgrows.follow hfollow, follow_cons_eq_ok.mpr
                ⟨hgrows.isDirectory hdir, dir ++ [String.ofList last], ?_, ?_⟩⟩
              · refine Or.inr (Or.inr ⟨hvoid, hup, hlong, ?_, rfl⟩)
                simp [node?_put_self]
              · refine follow_of_voids (isDirectory_put_self fs _ _) fun segment hsegment => ?_
                rw [hempty segment hsegment]
                rfl

/-- A directory that is created is still there in the end. -/
theorem Grows.of_createDirectory (hcreate : fs.createDirectory p = .ok fs₁) (hp : p ∈ paths)
    (hafter : Grows W (fs'.ledTo paths) fs₁ fs') : Grows W (fs'.ledTo paths) fs fs' := by
  obtain ⟨loc, hnone, rfl, hlocate⟩ := createDirectory_eq_ok hcreate
  have hloc : loc ∈ fs'.ledTo paths := ⟨p, hp, hafter.locate hlocate⟩
  exact (Grows.create hloc hnone).trans hafter

theorem grows_createEach {inner : List Path} {r : Except FileError Unit}
    (hinner : ∀ p ∈ inner, p ∈ paths) (h : fs.createEach inner = (r, fs')) :
    Grows W (fs'.ledTo paths) fs fs' := by
  induction inner generalizing fs with
  | nil =>
      cases h
      exact .refl _
  | cons p rest ih =>
      obtain ⟨hp, hrest⟩ := List.forall_mem_cons.mp hinner
      unfold createEach at h
      cases hcreate : fs.createDirectory p with
      | ok fs₁ =>
          rw [hcreate] at h
          exact (ih hrest h).of_createDirectory hcreate hp
      | error e =>
          rw [hcreate] at h
          simp only at h
          split at h
          · exact ih hrest h
          · cases h
            exact .refl _

theorem grows_createOutwards {inner outer : List Path} {r : Except FileError Unit}
    (hinner : ∀ p ∈ inner, p ∈ paths) (houter : ∀ p ∈ outer, p ∈ paths)
    (h : fs.createOutwards inner outer = (r, fs')) : Grows W (fs'.ledTo paths) fs fs' := by
  induction outer generalizing inner with
  | nil => exact grows_createEach hinner h
  | cons p outer ih =>
      obtain ⟨hp, houter⟩ := List.forall_mem_cons.mp houter
      unfold createOutwards at h
      split at h
      · next hcreate => exact (grows_createEach hinner h).of_createDirectory hcreate hp
      · exact ih (List.forall_mem_cons.mpr ⟨hp, hinner⟩) houter h
      · split at h
        · exact grows_createEach hinner h
        · cases h
          exact .refl _

/-- **Creating directories adds directories on the way to the last one**, whether it succeeds or not. -/
theorem grows_createDirectories {r : Except FileError Unit} (h : fs.createDirectories p = (r, fs')) :
    Grows W (fs'.ledTo p.ancestors) fs fs' :=
  grows_createOutwards (by simp) (fun _ hq => hq) h

end ShaderCombos.FileSystem
