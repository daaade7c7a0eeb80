import ShaderCombos.Header
import ShaderCombos.Proofs.FileSystem.Agreement
import ShaderCombos.Proofs.FileSystem.Growth
import ShaderCombos.Proofs.Naming

/-!
# `Proofs.Header.Writing` — what is done to write a header

A header is written in four moves: its directory is seen to, an older header is made replaceable, the text is
written and the header is made read-only. Where the directory is there already, the moves come down to one
(`write_eq`): the finished header is put in its place.

A failure changes no file. The directories that were created before it stay, and a directory which stands in
the place of the header is left with the bits of a replaceable one (`write_cases`).

## Contents
- **Bits.** `setMode_of_find`.
- **One put.** `find_put_of_place`, `place_put`, and `isPresent_iff` for what stands in a place.
- **Writing.** `complete_of_placed`, `complete_of_present`, `replace_eq`, `write_eq`.
- **What changes.** `write_cases` for any directory, `find_of_write`, `grows_write`, `grows_write_of_error`.
-/

namespace ShaderCombos

namespace FileSystem

variable {fs : FileSystem} {p : Path} {loc : Location} {node : Node}

/-- A node of the same kind leaves the place of a path where it is. -/
theorem place_put (hplace : fs.place p = .ok loc) (hkind : node.isDirectory = fs.isDirectory loc) :
    (fs.put loc node).place p = .ok loc :=
  (AgreeOff.put (W := {loc}) rfl hkind).place hplace

theorem find_put_of_place (hplace : fs.place p = .ok loc) (hkind : node.isDirectory = fs.isDirectory loc) :
    (fs.put loc node).find p = .ok (loc, node) :=
  find_of_place (place_put hplace hkind) (node?_put_self fs loc node)

/-- Something is present at a path that ends in a name exactly if it stands in the place of the path. -/
theorem isPresent_iff {before : List (List Char)} {last : List Char} (hend : LastName p before last) :
    fs.isPresent p = true ↔ ∃ loc node, fs.place p = .ok loc ∧ fs.node? loc = some node := by
  unfold isPresent
  cases hfind : fs.find p with
  | ok found =>
      obtain ⟨hlocate, hnode⟩ := find_eq_ok.mp (show fs.find p = .ok (found.1, found.2) from hfind)
      exact iff_of_true rfl ⟨found.1, found.2, place_of_locate hend hlocate, hnode⟩
  | error e =>
      refine iff_of_false Bool.false_ne_true ?_
      rintro ⟨loc, node, hplace, hnode⟩
      rw [find_of_place hplace hnode] at hfind
      cases hfind

end FileSystem

namespace Header

open FileSystem

variable {fs fs' : FileSystem} {u : ShaderUnit} {directory : Path} {loc : Location} {content : String}

/-! ## Bits -/

theorem setMode_of_find {p : Path} {node : Node} (h : fs.find p = .ok (loc, node)) (mode : Nat) :
    Header.setMode p mode fs = (.ok (), fs.put loc (node.withMode mode)) := by
  have hset : fs.setMode p mode = .ok (fs.put loc (node.withMode mode)) := by
    unfold FileSystem.setMode
    rw [h]
    rfl
  exact Action.change_eq_ok.mpr hset

/-! ## Writing -/

/-- The moves that are left once nothing hinders a header from being replaced. -/
def complete (target : Path) (content : String) : Action Path := do
  Action.change (.writeHeader target) (·.write target content.toUTF8)
  Header.setMode target finishedMode
  return target

theorem complete_of_unplaced {target : Path} {e : FileError} (hplace : fs.place target = .error e) :
    complete target content fs = (.error ⟨[.writeHeader target], .file e⟩, fs) := by
  have hwrite : fs.write target content.toUTF8 = .error e := by
    rw [write_eq, hplace]
    rfl
  exact Action.bind_of_error (Action.change_of_error hwrite) _

theorem complete_of_placed {target : Path} (hplace : fs.place target = .ok loc) :
    complete target content fs =
      if fs.isDirectory loc then (.error ⟨[.writeHeader target], .file .isADirectory⟩, fs)
      else (.ok target, fs.put loc (.file content.toUTF8 finishedMode)) := by
  cases hdir : fs.isDirectory loc with
  | true =>
      have hwrite : fs.write target content.toUTF8 = .error .isADirectory := by
        rw [write_eq, hplace]
        simp only [bind, Except.bind, hdir, if_true]
      exact Action.bind_of_error (Action.change_of_error hwrite) _
  | false =>
      have hwrite : fs.write target content.toUTF8
          = .ok (fs.put loc (.file content.toUTF8 (fs.writtenMode loc))) := by
        rw [write_eq, hplace]
        simp only [bind, Except.bind, hdir, Bool.false_eq_true, if_false]
      -- Whatever bits the write leaves, they are set in the end.
      have hfind : (fs.put loc (.file content.toUTF8 (fs.writtenMode loc))).find target = _ :=
        find_put_of_place hplace hdir.symm
      have hset := setMode_of_find hfind finishedMode
      rw [put_put] at hset
      unfold complete
      rw [Action.bind_of_ok (a := ()) (Action.change_eq_ok.mpr hwrite), Action.bind_of_ok hset]
      rfl

/-- What stands in the place of a header is made replaceable first. A directory keeps the bits of that. -/
theorem complete_of_present {target : Path} {node : Node} (hplace : fs.place target = .ok loc)
    (hnode : fs.node? loc = some node) :
    (Header.setMode target replaceableMode >>= fun _ => complete target content) fs =
      if fs.isDirectory loc then
        (.error ⟨[.writeHeader target], .file .isADirectory⟩, fs.put loc (.directory replaceableMode))
      else (.ok target, fs.put loc (.file content.toUTF8 finishedMode)) := by
  have hset := setMode_of_find (find_of_place hplace hnode) replaceableMode
  have hkind : (node.withMode replaceableMode).isDirectory = fs.isDirectory loc := by
    rw [isDirectory_of_node? hnode]
    cases node with
    | file => rfl
    | directory => rfl
  have hkept : (fs.put loc (node.withMode replaceableMode)).isDirectory loc = fs.isDirectory loc := by
    rw [isDirectory_put_self, hkind]
  rw [Action.bind_of_ok hset, complete_of_placed (place_put hplace hkind), hkept, put_put]
  cases node with
  | directory mode =>
      simp only [← hkind]
      rfl
  | file old mode =>
      simp only [← hkind]
      rfl

/-- The moves that are left once the directory of a header has been seen to. -/
def replace (target : Path) (content : String) : Action Path := do
  if ← Action.query fun fs => .ok (fs.isPresent target) then
    Header.setMode target replaceableMode
  complete target content

/-- **What is done in a directory that is there**: one put in the place of the header, or nothing. -/
theorem replace_eq {target : Path} {before : List (List Char)} {last : List Char}
    (hend : LastName target before last) :
    replace target content fs =
      match fs.place target with
      | .error e => (.error ⟨[.writeHeader target], .file e⟩, fs)
      | .ok loc =>
        if fs.isDirectory loc then
          (.error ⟨[.writeHeader target], .file .isADirectory⟩, fs.put loc (.directory replaceableMode))
        else (.ok target, fs.put loc (.file content.toUTF8 finishedMode)) := by
  have hpresent : Action.query (fun fs => .ok (fs.isPresent target)) fs = (.ok (fs.isPresent target), fs) :=
    rfl
  refine (Action.bind_of_ok hpresent _).trans ?_
  cases hplace : fs.place target with
  | error e =>
      have habsent : fs.isPresent target = false := by
        rw [Bool.eq_false_iff, ne_eq, isPresent_iff hend, hplace]
        rintro ⟨loc, node, ⟨⟩, -⟩
      rw [habsent]
      exact complete_of_unplaced hplace
  | ok loc =>
      cases hnode : fs.node? loc with
      | none =>
          have habsent : fs.isPresent target = false := by
            rw [Bool.eq_false_iff, ne_eq, isPresent_iff hend, hplace]
            rintro ⟨loc', node, ⟨⟩, hfound⟩
            rw [hnode] at hfound
            cases hfound
          have hfile : fs.isDirectory loc = false := by
            unfold isDirectory
            rw [hnode]
            rfl
          rw [habsent]
          refine (complete_of_placed hplace).trans ?_
          simp only [hfile, Bool.false_eq_true, if_false]
      | some node =>
          have hfound : fs.isPresent target = true :=
            (isPresent_iff hend).mpr ⟨loc, node, hplace, hnode⟩
          rw [hfound]
          exact complete_of_present hplace hnode

theorem write_of_unmade {e : Failure} (htext : text u = .error e) :
    Header.write u directory fs = (.error (e.within (.generateHeader u.name)), fs) := by
  unfold Header.write
  rw [htext]
  exact Action.bind_of_error rfl _

theorem write_of_text (htext : text u = .ok content) :
    Header.write u directory fs =
      match fs.createDirectories directory with
      | (.error e, fs₁) => (.error ⟨[.createDirectory directory], .file e⟩, fs₁)
      | (.ok (), fs₁) => replace (path u directory) content fs₁ := by
  have hquery : Action.query (fun _ => (text u).during (.generateHeader u.name)) fs
      = (.ok content, fs) := by
    rw [htext]
    rfl
  unfold Header.write
  refine (Action.bind_of_ok hquery _).trans ?_
  rcases hcreate : fs.createDirectories directory with ⟨_ | _, fs₁⟩
  · exact Action.bind_of_error (by unfold Action.createDirectories; rw [hcreate]; rfl) _
  · exact Action.bind_of_ok (by unfold Action.createDirectories; rw [hcreate]; rfl) _

/-- **What is done to write a header** into a directory that is there. -/
theorem write_eq (hdirectory : fs.isDirectoryAt directory = true) :
    Header.write u directory fs =
      match text u with
      | .error e => (.error (e.within (.generateHeader u.name)), fs)
      | .ok content =>
        match fs.place (path u directory) with
        | .error e => (.error ⟨[.writeHeader (path u directory)], .file e⟩, fs)
        | .ok loc =>
          if fs.isDirectory loc then
            (.error ⟨[.writeHeader (path u directory)], .file .isADirectory⟩,
              fs.put loc (.directory replaceableMode))
          else (.ok (path u directory), fs.put loc (.file content.toUTF8 finishedMode)) := by
  obtain ⟨before, last, hend⟩ := exists_lastName u directory
  cases htext : text u with
  | error e => exact write_of_unmade htext
  | ok content =>
      rw [write_of_text htext, createDirectories_eq hdirectory]
      exact replace_eq hend

/-! ## What changes -/

/-- **What can come of writing a header.** Directories are created. Then the header has a place and something
    is put there, or the writing has failed before. -/
theorem write_cases {r : Attempt Path} (h : Header.write u directory fs = (r, fs')) :
    ((∃ e, r = .error e) ∧ Grows ∅ (fs'.ledTo directory.ancestors) fs fs') ∨
      ∃ content fs₁ loc, text u = .ok content ∧ Grows ∅ (fs₁.ledTo directory.ancestors) fs fs₁ ∧
        fs₁.place (path u directory) = .ok loc ∧
          if fs₁.isDirectory loc then
            (∃ e, r = .error e) ∧ fs' = fs₁.put loc (.directory replaceableMode)
          else r = .ok (path u directory) ∧ fs' = fs₁.put loc (.file content.toUTF8 finishedMode) := by
  obtain ⟨before, last, hend⟩ := exists_lastName u directory
  cases htext : text u with
  | error e =>
      rw [write_of_unmade htext] at h
      cases h
      exact Or.inl ⟨⟨_, rfl⟩, .refl _⟩
  | ok content =>
      rw [write_of_text htext] at h
      rcases hcreate : fs.createDirectories directory with ⟨outcome, fs₁⟩
      have hgrows : Grows ∅ (fs₁.ledTo directory.ancestors) fs fs₁ := grows_createDirectories hcreate
      rw [hcreate] at h
      cases outcome with
      | error e =>
          cases h
          exact Or.inl ⟨⟨_, rfl⟩, hgrows⟩
      | ok done =>
          replace h : replace (path u directory) content fs₁ = (r, fs') := h
          rw [replace_eq hend] at h
          cases hplace : fs₁.place (path u directory) with
          | error e =>
              rw [hplace] at h
              cases h
              exact Or.inl ⟨⟨_, rfl⟩, hgrows⟩
          | ok loc =>
              refine Or.inr ⟨content, fs₁, loc, rfl, hgrows, hplace, ?_⟩
              rw [hplace] at h
              cases hdir : fs₁.isDirectory loc with
              | true =>
                  simp only [hdir, if_true] at h ⊢
                  cases h
                  exact ⟨⟨_, rfl⟩, rfl⟩
              | false =>
                  simp only [hdir, Bool.false_eq_true, if_false] at h ⊢
                  cases h
                  exact ⟨rfl, rfl⟩

/-- A node of the same kind in a place, after directories have been created. -/
theorem grows_put {W : Set Location} {fs₁ : FileSystem} {paths : List Path} {node : Node}
    (hgrows : Grows ∅ (fs₁.ledTo paths) fs fs₁) (hloc : loc ∈ W)
    (hkind : node.isDirectory = fs₁.isDirectory loc) :
    Grows W ((fs₁.put loc node).ledTo paths) fs (fs₁.put loc node) := by
  have hput : Grows W ((fs₁.put loc node).ledTo paths) fs₁ (fs₁.put loc node) := .put hloc hkind
  exact (hgrows.mono (Set.empty_subset W) hput.ledTo_subset).trans hput

/-- **A written header is found**, with its text and read-only. -/
theorem find_of_write {header : Path} (h : Header.write u directory fs = (.ok header, fs')) :
    header = path u directory ∧ ∃ content loc, text u = .ok content ∧
      fs'.find header = .ok (loc, .file content.toUTF8 finishedMode) := by
  rcases write_cases h with ⟨⟨e, ⟨⟩⟩, -⟩ | ⟨content, fs₁, loc, htext, -, hplace, hput⟩
  cases hdir : fs₁.isDirectory loc with
  | true =>
      simp [hdir] at hput
  | false =>
      simp only [hdir, Bool.false_eq_true, if_false] at hput
      obtain ⟨hheader, rfl⟩ := hput
      obtain rfl := Except.ok.inj hheader
      exact ⟨rfl, content, loc, htext, find_put_of_place hplace hdir.symm⟩

/-- **What writing a header changes**: its own place, and directories on the way to its own. -/
theorem grows_write {r : Attempt Path} (h : Header.write u directory fs = (r, fs')) :
    Grows (fs'.ledTo [path u directory]) (fs'.ledTo directory.ancestors) fs fs' := by
  rcases write_cases h with ⟨-, hgrows⟩ | ⟨content, fs₁, loc, -, hgrows, hplace, hput⟩
  · exact hgrows.mono (Set.empty_subset _) subset_rfl
  · obtain ⟨node, hkind, rfl⟩ : ∃ node : Node, node.isDirectory = fs₁.isDirectory loc ∧
        fs' = fs₁.put loc node := by
      split at hput
      · next hdir => exact ⟨.directory replaceableMode, hdir.symm, hput.2⟩
      · next hfile => exact ⟨.file content.toUTF8 finishedMode, (Bool.eq_false_iff.mpr hfile).symm, hput.2⟩
    have hfind := find_put_of_place hplace hkind
    exact grows_put hgrows ⟨_, List.mem_singleton.mpr rfl, (find_eq_ok.mp hfind).1⟩ hkind

/-- **A header that cannot be written changes no file.** At most a directory that stands in its place gets
    other bits. -/
theorem grows_write_of_error {e : Failure} (h : Header.write u directory fs = (.error e, fs')) :
    Grows {loc | loc ∈ fs'.ledTo [path u directory] ∧ fs'.isDirectory loc = true}
      (fs'.ledTo directory.ancestors) fs fs' := by
  rcases write_cases h with ⟨-, hgrows⟩ | ⟨content, fs₁, loc, -, hgrows, hplace, hput⟩
  · exact hgrows.mono (Set.empty_subset _) subset_rfl
  · cases hdir : fs₁.isDirectory loc with
    | false =>
        simp [hdir] at hput
    | true =>
        simp only [hdir, if_true] at hput
        obtain ⟨-, rfl⟩ := hput
        have hkind : Node.isDirectory (.directory replaceableMode) = fs₁.isDirectory loc := hdir.symm
        have hfind := find_put_of_place hplace hkind
        have hled : loc ∈ (fs₁.put loc (.directory replaceableMode)).ledTo [path u directory] :=
          ⟨_, List.mem_singleton.mpr rfl, (find_eq_ok.mp hfind).1⟩
        exact grows_put hgrows ⟨hled, isDirectory_put_self fs₁ loc _⟩ hdir.symm

end Header

end ShaderCombos
