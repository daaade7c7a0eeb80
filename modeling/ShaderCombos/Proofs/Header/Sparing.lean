import ShaderCombos.Proofs.Header.Writing

/-!
# `Proofs.Header.Sparing` — what becomes of things that were there before a header is written

Writing a header takes several steps, each of which can fail, and none is undone. Yet a failure nearly always
leaves all that was there as it was: directories are created where nothing stood, and the only step that touches
something old is the one that makes an older header replaceable. It does not ask whether it is a header that stands
there. A directory in the place of the header gets the bits of a replaceable file, and then the header cannot be
written (`Obstructed`). Everywhere else the header is written or everything is spared
(`delivered_or_spares_iff`, `write_outcome`).

## Contents
- **Outcomes.** `Delivered`, `Spares`, `spares_of_grows`, `spares_put_iff`.
- **Obstruction.** `Obstructed`, `delivered_or_spares_iff`.
- **Writing.** `write_outcome`, and a directory that is not spared.
-/

namespace ShaderCombos.Header

open FileSystem

variable {fs fs' fs₁ : FileSystem} {u : ShaderUnit} {directory : Path} {loc : Location} {r : Attempt Path}

/-! ## Outcomes -/

/-- **The whole job.** The path of the header is returned, and a read-only file with the text of the header is
    found there. -/
def Delivered (u : ShaderUnit) (directory : Path) (r : Attempt Path) (fs' : FileSystem) : Prop :=
  r = .ok (path u directory) ∧ ∃ content loc, text u = .ok content ∧
    fs'.find (path u directory) = .ok (loc, .file content.toUTF8 0o444)

/-- **Nothing is spoiled.** Whatever stood somewhere still stands there, with its content and its bits. -/
def Spares (fs fs' : FileSystem) : Prop :=
  ∀ loc node, fs.node? loc = some node → fs'.node? loc = some node

/-- Where no file is put, directories may come, but only where nothing stood. -/
theorem spares_of_grows {D : Set Location} (h : Grows ∅ D fs fs') : Spares fs fs' := by
  intro loc node hnode
  rcases h.node?_of_notMem (Set.notMem_empty loc) with hsame | ⟨-, hnone, -⟩
  · rw [hsame]
    exact hnode
  · rw [hnone] at hnode
    cases hnode

/-- A directory with other bits is spared exactly if these were its bits before. -/
theorem spares_put_iff {mode : Nat} (h : Spares fs fs₁) (hdir : fs₁.isDirectory loc = true) :
    Spares fs (fs₁.put loc (.directory mode)) ↔
      ∀ old, fs.node? loc = some (.directory old) → old = mode := by
  constructor
  · intro hspares old hold
    have hnew := hspares loc _ hold
    rw [node?_put_self] at hnew
    cases hnew
    rfl
  · intro hbits other node hnode
    by_cases hother : other = loc
    · subst hother
      -- What stood here is the directory that is here now.
      have hthere := h other node hnode
      rw [isDirectory_of_node? hthere] at hdir
      cases node with
      | file => cases hdir
      | directory old => rw [node?_put_self, hbits old hnode]
    · rw [node?_put_of_ne hother]
      exact h other node hnode

/-! ## Obstruction -/

/-- **A directory stands in the way.** The header is at hand and its directory is seen to, but another directory
    stands in the place of the header, and its bits are not those of a replaceable file. -/
def Obstructed (u : ShaderUnit) (directory : Path) (fs : FileSystem) : Prop :=
  (∃ content, text u = .ok content) ∧ ∃ fs₁ loc mode, fs.createDirectories directory = (.ok (), fs₁) ∧
    fs₁.locate (path u directory) = .ok loc ∧ fs.node? loc = some (.directory mode) ∧ mode ≠ 0o644

theorem not_obstructed_of_unmade {e : Failure} (h : text u = .error e) : ¬ Obstructed u directory fs := by
  rintro ⟨⟨content, htext⟩, -⟩
  rw [htext] at h
  cases h

theorem not_obstructed_of_uncreated {e : FileError} (h : fs.createDirectories directory = (.error e, fs₁)) :
    ¬ Obstructed u directory fs := by
  rintro ⟨-, fs₂, loc, mode, hcreate, -⟩
  rw [hcreate] at h
  cases h

/-- Where something is found at the end, a directory stood in the way. -/
theorem obstructed_iff {content : String} (htext : text u = .ok content)
    (hcreate : fs.createDirectories directory = (.ok (), fs₁)) :
    Obstructed u directory fs ↔ ∃ loc mode, fs₁.locate (path u directory) = .ok loc ∧
      fs.node? loc = some (.directory mode) ∧ mode ≠ 0o644 := by
  constructor
  · rintro ⟨-, fs₂, loc, mode, hcreate', hrest⟩
    rw [hcreate] at hcreate'
    cases hcreate'
    exact ⟨loc, mode, hrest⟩
  · rintro ⟨loc, mode, hrest⟩
    exact ⟨⟨content, htext⟩, fs₁, loc, mode, hcreate, hrest⟩

/-- What is done in the directory of the header, compared with what was there before the directory was seen to. -/
theorem delivered_or_spares_of_replace {content : String} (htext : text u = .ok content)
    (hspares : Spares fs fs₁) (h : replace (path u directory) content fs₁ = (r, fs')) :
    (Delivered u directory r fs' ∨ (∃ e, r = .error e) ∧ Spares fs fs') ↔
      ¬ ∃ loc mode, fs₁.locate (path u directory) = .ok loc ∧
        fs.node? loc = some (.directory mode) ∧ mode ≠ 0o644 := by
  obtain ⟨before, last, hend⟩ := exists_lastName u directory
  rw [replace_eq hend] at h
  cases hplace : fs₁.place (path u directory) with
  | error e =>
      rw [hplace] at h
      cases h
      refine iff_of_true (Or.inr ⟨⟨_, rfl⟩, hspares⟩) ?_
      rintro ⟨loc, mode, hlocate, -⟩
      rw [place_of_locate hend hlocate] at hplace
      cases hplace
  | ok loc =>
      rw [hplace] at h
      cases hdir : fs₁.isDirectory loc with
      | false =>
          simp only [hdir, Bool.false_eq_true, if_false] at h
          cases h
          refine iff_of_true (Or.inl ⟨rfl, content, loc, htext, find_put_of_place hplace hdir.symm⟩) ?_
          rintro ⟨loc', mode, hlocate, hnode, -⟩
          -- A path that leads somewhere leads to its place, and no directory stands there.
          obtain rfl : loc = loc' := Except.ok.inj (hplace.symm.trans (place_of_locate hend hlocate))
          rw [isDirectory_of_node? (hspares loc _ hnode)] at hdir
          cases hdir
      | true =>
          simp only [hdir, if_true] at h
          cases h
          obtain ⟨node, hnode⟩ := Option.isSome_iff_exists.mp (isSome_of_isDirectory hdir)
          have hlocate := (find_eq_ok.mp (find_of_place hplace hnode)).1
          constructor
          · rintro (⟨⟨⟩, -⟩ | ⟨-, hkept⟩) ⟨loc', mode, hlocate', hold, hbits⟩
            obtain rfl := Except.ok.inj (hlocate.symm.trans hlocate')
            exact hbits ((spares_put_iff hspares hdir).mp hkept mode hold)
          · intro hfree
            refine Or.inr ⟨⟨_, rfl⟩, (spares_put_iff hspares hdir).mpr fun mode hold => ?_⟩
            by_contra hbits
            exact hfree ⟨loc, mode, hlocate, hold, hbits⟩

/-- **The header is written or everything is spared, unless a directory stands in the way.** -/
theorem delivered_or_spares_iff (h : Header.write u directory fs = (r, fs')) :
    (Delivered u directory r fs' ∨ (∃ e, r = .error e) ∧ Spares fs fs') ↔ ¬ Obstructed u directory fs := by
  cases htext : text u with
  | error e =>
      rw [write_of_unmade htext] at h
      cases h
      exact iff_of_true (Or.inr ⟨⟨_, rfl⟩, fun _ _ hnode => hnode⟩) (not_obstructed_of_unmade htext)
  | ok content =>
      rw [write_of_text htext] at h
      rcases hcreate : fs.createDirectories directory with ⟨outcome, fs₁⟩
      have hspares : Spares fs fs₁ := spares_of_grows (grows_createDirectories hcreate)
      rw [hcreate] at h
      cases outcome with
      | error e =>
          cases h
          exact iff_of_true (Or.inr ⟨⟨_, rfl⟩, hspares⟩) (not_obstructed_of_uncreated hcreate)
      | ok done =>
          rw [obstructed_iff htext hcreate]
          exact delivered_or_spares_of_replace htext hspares h

/-! ## Writing -/

/-- **Nothing is touched but what stands in the place of the header**: a file that the header replaces, or a
    directory whose bits are changed. -/
theorem spared_or_located (h : Header.write u directory fs = (r, fs')) {node : Node}
    (hnode : fs.node? loc = some node) : fs'.node? loc = some node ∨
      fs'.locate (path u directory) = .ok loc ∧ (r = .ok (path u directory) ∨
        ∃ mode, node = .directory mode ∧ fs'.node? loc = some (.directory 0o644)) := by
  rcases write_cases h with ⟨-, hgrows⟩ | ⟨content, fs₁, target, -, hgrows, hplace, hput⟩
  · exact Or.inl (spares_of_grows hgrows loc node hnode)
  · have hthere := spares_of_grows hgrows loc node hnode
    cases hdir : fs₁.isDirectory target with
    | false =>
        simp only [hdir, Bool.false_eq_true, if_false] at hput
        obtain ⟨hdone, rfl⟩ := hput
        by_cases hloc : loc = target
        · subst hloc
          have hfind : (fs₁.put loc (.file content.toUTF8 finishedMode)).find (path u directory) = _ :=
            find_put_of_place hplace hdir.symm
          exact Or.inr ⟨(find_eq_ok.mp hfind).1, Or.inl hdone⟩
        · rw [node?_put_of_ne hloc]
          exact Or.inl hthere
    | true =>
        simp only [hdir, if_true] at hput
        obtain ⟨-, rfl⟩ := hput
        by_cases hloc : loc = target
        · subst hloc
          have hfind : (fs₁.put loc (.directory replaceableMode)).find (path u directory) = _ :=
            find_put_of_place hplace hdir.symm
          refine Or.inr ⟨(find_eq_ok.mp hfind).1, Or.inr ?_⟩
          rw [isDirectory_of_node? hthere] at hdir
          cases node with
          | file => cases hdir
          | directory mode => exact ⟨mode, rfl, node?_put_self fs₁ loc _⟩
        · rw [node?_put_of_ne hloc]
          exact Or.inl hthere

/-- **What comes of writing a header.** It does its whole job, or it fails and spares all that was there, exactly
    if no directory stands in the way. In any event nothing is touched but what stands in the place of the header,
    and when the writing fails that is a directory that only gets the bits of a replaceable file.

    It is assumed that a file is written as a whole or not at all, that the file system has no links, and that
    the user is a privileged one, whom no permission bits keep from writing. -/
theorem write_outcome (h : Header.write u directory fs = (r, fs')) :
    ((Delivered u directory r fs' ∨ (∃ e, r = .error e) ∧ Spares fs fs') ↔ ¬ Obstructed u directory fs) ∧
      ∀ loc node, fs.node? loc = some node → fs'.node? loc = some node ∨
        fs'.locate (path u directory) = .ok loc ∧ (r = .ok (path u directory) ∨
          ∃ mode, node = .directory mode ∧ fs'.node? loc = some (.directory 0o644)) :=
  ⟨delivered_or_spares_iff h, fun _ _ hnode => spared_or_located h hnode⟩

namespace InTheWay

/-- A directory has the name of a header. -/
def files : FileSystem where
  nodes := [(["include"], .directory 0o755), (["include", "a_ps30.inc"], .directory 0o755)]

def unit : ShaderUnit where
  name := "a_ps30"
  stage := .pixel
  model := .three
  version := "30"

/-- The file system after the header could not be written. -/
def after : FileSystem :=
  (Header.write unit ⟨"include"⟩ files).2

/-- The place of the header, where the directory stands. -/
def place : Location := ["include", "a_ps30.inc"]

theorem write_eq : Header.write unit ⟨"include"⟩ files =
    (.error ⟨[.writeHeader ⟨"include/a_ps30.inc"⟩], .file .isADirectory⟩, after) := by
  have hfails : (Header.write unit ⟨"include"⟩ files).1 =
      .error ⟨[.writeHeader ⟨"include/a_ps30.inc"⟩], .file .isADirectory⟩ := by
    decide +kernel
  exact Prod.ext hfails rfl

theorem node?_files : files.node? place = some (.directory 0o755) :=
  rfl

theorem mode_after : (after.node? place).map Node.mode = some 0o644 := by
  decide +kernel

/-- The directory is not spared. -/
theorem not_spares : ¬ Spares files after := by
  intro hspares
  have hmode := mode_after
  rw [hspares place _ node?_files] at hmode
  exact absurd hmode (by decide)

end InTheWay

theorem write_outcome_in_the_way : Obstructed InTheWay.unit ⟨"include"⟩ InTheWay.files ∧
    InTheWay.after.node? InTheWay.place = some (.directory 0o644) := by
  obtain ⟨houtcome, htouched⟩ := write_outcome InTheWay.write_eq
  constructor
  · by_contra hfree
    rcases houtcome.mpr hfree with ⟨⟨⟩, -⟩ | ⟨-, hspares⟩
    exact InTheWay.not_spares hspares
  · rcases htouched _ _ InTheWay.node?_files with hsame | ⟨-, ⟨⟨⟩⟩ | ⟨-, -, hnode⟩⟩
    · have hmode := InTheWay.mode_after
      rw [hsame] at hmode
      exact absurd hmode (by decide)
    · exact hnode

/-- **What was there can be spoiled.** A header that cannot be written may leave other bits to a directory. -/
theorem not_forall_delivered_or_spares :
    ¬ ∀ (u : ShaderUnit) (directory : Path) (fs fs' : FileSystem) (r : Attempt Path),
      Header.write u directory fs = (r, fs') →
        Delivered u directory r fs' ∨ (∃ e, r = .error e) ∧ Spares fs fs' := by
  intro h
  rcases h _ _ _ _ _ InTheWay.write_eq with ⟨⟨⟩, -⟩ | ⟨-, hspares⟩
  exact InTheWay.not_spares hspares

end ShaderCombos.Header
