import ShaderCombos.Header
import ShaderCombos.Manifest.Basic
import ShaderCombos.Naming
import ShaderCombos.Proofs.FileSystem.Place
import ShaderCombos.Proofs.Text.Lowercase

/-!
# `Proofs.Naming` — the names of what is written

What is built from a shader has a name without slashes, whatever the path of the shader: the name comes from
one segment of the path, and no letter becomes a slash in lower case. So the path of a header ends in that
name and the path of a manifest in the name of its list, and both lead to a place that ends in the same name.
Headers of different names never share a place, and no header has the name of a manifest.

## Contents
- **Names.** `slash_notMem_outputName`.
- **Paths.** `exists_lastName_of_getLast?`, `Header.exists_lastName` for any unit. `exists_lastName_child`,
  `Header.exists_lastName_path`, `WorkManifest.exists_lastName_path` say the name.
- **Places.** `Header.place_ne_of_name_ne`, `Header.name_ne_manifest`.
-/

namespace ShaderCombos

/-! ## Names -/

namespace Path

/-- The last name of a path is one of its segments. -/
theorem slash_notMem_of_fileName? {p : Path} {name : String} (h : p.fileName? = some name) :
    '/' ∉ name.toList := by
  unfold fileName? at h
  cases hlast : p.namedFromLast with
  | nil => simp [hlast] at h
  | cons last before =>
      rw [hlast] at h
      obtain ⟨-, rfl⟩ : isUp last = false ∧ String.ofList last = name := by simpa using h
      rw [String.toList_ofList]
      have hmem : last ∈ p.namedFromLast := by rw [hlast]; exact List.mem_cons_self
      exact Text.notMem_of_mem_splitOn
        (List.mem_reverse.mp ((List.dropWhile_suffix isVoid).mem hmem))

theorem mem_of_mem_stemOfName {c : Char} {name : List Char} (h : c ∈ stemOfName name) : c ∈ name := by
  unfold stemOfName at h
  split at h
  · exact h
  · next dot before hdrop =>
    split at h
    · exact h
    · have hbefore : c ∈ name.reverse.dropWhile (· ≠ '.') := by
        rw [hdrop]
        exact List.mem_cons_of_mem _ (List.mem_reverse.mp h)
      exact List.mem_reverse.mp ((List.dropWhile_suffix _).mem hbefore)

theorem slash_notMem_fileStem? (p : Path) : '/' ∉ (p.fileStem?.getD "").toList := by
  unfold fileStem?
  cases hname : p.fileName? with
  | none => exact List.not_mem_nil
  | some name =>
      intro h
      rw [Option.map_some, Option.getD_some, String.toList_ofList] at h
      exact slash_notMem_of_fileName? hname (mem_of_mem_stemOfName h)

end Path

namespace Naming

theorem slash_notMem_stem (p : Path) : '/' ∉ stem p :=
  Text.slash_notMem_lowerFrom p.slash_notMem_fileStem?

/-- A stem is cut within itself. -/
theorem subset_of_splitSuffix? {s before letters : List Char}
    (h : splitSuffix? s = some (before, letters)) : before ⊆ s ∧ letters ⊆ s := by
  induction s generalizing before letters with
  | nil => cases h
  | cons c rest ih =>
      unfold splitSuffix? at h
      split at h
      · next found hfound =>
        cases h
        refine ⟨List.nil_subset _, ?_⟩
        unfold suffixLetters? at hfound
        split at hfound
        · next first second version heq =>
          split at hfound
          · obtain ⟨v, -, rfl⟩ := Option.map_eq_some_iff.mp hfound
            rw [heq]
            intro a ha
            simp only [List.mem_cons, List.not_mem_nil, or_false] at ha ⊢
            exact Or.inr (ha.imp_right Or.inl)
          · cases hfound
        · cases hfound
      · obtain ⟨⟨before', letters'⟩, hrest, heq⟩ := Option.map_eq_some_iff.mp h
        cases heq
        obtain ⟨hbefore, hletters⟩ := ih hrest
        exact ⟨List.cons_subset_cons c hbefore, List.subset_cons_of_subset c hletters⟩

/-- **What is built from a shader has a name without slashes.** -/
theorem slash_notMem_outputName (p : Path) {version : String} (hversion : '/' ∉ version.toList) :
    '/' ∉ (outputName p version).toList := by
  have hstem := slash_notMem_stem p
  unfold outputName
  cases hsplit : splitSuffix? (stem p) with
  | none => simpa using hstem
  | some cut =>
      obtain ⟨before, letters⟩ := cut
      obtain ⟨hbefore, hletters⟩ := subset_of_splitSuffix? hsplit
      simp only [String.toList_append, String.toList_ofList, List.mem_append, List.mem_cons, not_or]
      exact ⟨⟨fun h => hstem (hbefore h), by decide, fun h => hstem (hletters h)⟩, hversion⟩

end Naming

theorem ShaderModel.slash_notMem_versionFor (model : ShaderModel) (stage : Stage) :
    '/' ∉ (model.versionFor stage).toList := by
  cases model <;> cases stage <;> decide

/-! ## Paths -/

theorem Path.isAbsolute_of_notMem {name : String} (hslash : '/' ∉ name.toList) :
    isAbsolute ⟨name⟩ = false := by
  unfold isAbsolute
  rw [decide_eq_false_iff_not]
  intro hhead
  exact hslash (List.mem_of_head? hhead)

/-- A name without slashes is the last segment of its path in any directory. -/
theorem Path.exists_segments_child (base : Path) {name : String} (hslash : '/' ∉ name.toList) :
    ∃ before, (base.child name).segments = before ++ [name.toList] := by
  have hname : name.toList.splitOn '/' = [name.toList] := List.splitOn_eq_singleton hslash
  have hend (front : List Char) :
      (front ++ '/' :: name.toList).splitOn '/' = front.splitOn '/' ++ [name.toList] := by
    rw [List.splitOn_append_cons_self, hname]
  unfold child join segments
  rw [isAbsolute_of_notMem hslash]
  simp only [Bool.false_eq_true, if_false]
  split
  · exact ⟨[], hname⟩
  · next hslashEnd =>
    obtain ⟨front, hfront⟩ := List.getLast?_eq_some_iff.mp hslashEnd
    refine ⟨front.splitOn '/', ?_⟩
    rw [String.toList_append, hfront, List.append_assoc]
    exact hend front
  · refine ⟨base.text.toList.splitOn '/', ?_⟩
    rw [String.toList_append, String.toList_append, List.append_assoc]
    exact hend base.text.toList

/-- A segment that ends in a letter names something, and it leads nowhere else. -/
theorem Path.names_of_getLast? {segment : List Char} {c : Char} (hend : segment.getLast? = some c)
    (hc : c ≠ '.') : isVoid segment = false ∧ isUp segment = false := by
  constructor
  · unfold isVoid
    rw [Bool.or_eq_false_iff, decide_eq_false_iff_not, decide_eq_false_iff_not]
    constructor
    · rintro rfl
      cases hend
    · rintro rfl
      exact hc (Option.some.inj hend).symm
  · unfold isUp
    rw [decide_eq_false_iff_not]
    rintro rfl
    exact hc (Option.some.inj hend).symm

/-- A name that ends in a letter is the last name of its path. -/
theorem FileSystem.exists_lastName_child (base : Path) {name : String} {c : Char}
    (hslash : '/' ∉ name.toList) (hend : name.toList.getLast? = some c) (hc : c ≠ '.') :
    ∃ before, LastName (base.child name) before name.toList := by
  obtain ⟨before, hsegments⟩ := base.exists_segments_child hslash
  obtain ⟨hvoid, hup⟩ := Path.names_of_getLast? hend hc
  exact ⟨before, hsegments, hvoid, hup⟩

/-- What stands in front of the last of several texts between slashes is nothing or ends in a slash. -/
theorem Path.exists_intercalate_concat (before : List (List Char)) (last : List Char) :
    ∃ front, ['/'].intercalate (before ++ [last]) = front ++ last ∧
      (front = [] ∨ front.getLast? = some '/') := by
  induction before with
  | nil => exact ⟨[], List.intercalate_singleton, Or.inl rfl⟩
  | cons first before ih =>
      obtain ⟨front, hjoined, hfront⟩ := ih
      refine ⟨first ++ '/' :: front, ?_, Or.inr ?_⟩
      · rw [List.cons_append, List.intercalate_cons_of_ne_nil (List.append_ne_nil_of_right_ne_nil _ (by simp)),
          hjoined]
        simp
      · rcases hfront with rfl | hslash
        · simp
        · simp [List.getLast?_append, List.getLast?_cons, hslash]

/-- A path that ends in a letter ends in a name. -/
theorem FileSystem.exists_lastName_of_getLast? {p : Path} {c : Char} (hend : p.text.toList.getLast? = some c)
    (hslash : c ≠ '/') (hdot : c ≠ '.') : ∃ before last, LastName p before last := by
  obtain ⟨before, last, hsegments⟩ : ∃ before last, p.segments = before ++ [last] :=
    ⟨_, _, (List.dropLast_concat_getLast p.segments_ne_nil).symm⟩
  obtain ⟨front, hjoined, hfront⟩ := Path.exists_intercalate_concat before last
  rw [← p.intercalate_segments, hsegments, hjoined] at hend
  have hletter : last.getLast? = some c := by
    cases hlast : last.getLast? with
    | some d => simpa [List.getLast?_append, hlast] using hend
    | none =>
        -- An empty last segment follows a slash.
        rw [List.getLast?_eq_none_iff.mp hlast, List.append_nil] at hend
        rcases hfront with rfl | hfront
        · cases hend
        · rw [hfront, Option.some.injEq] at hend
          exact absurd hend.symm hslash
  obtain ⟨hvoid, hup⟩ := Path.names_of_getLast? hletter hdot
  exact ⟨before, last, hsegments, hvoid, hup⟩

open FileSystem

/-- The path of a header ends in a name, whatever the name of its unit is. -/
theorem Header.exists_lastName (u : ShaderUnit) (directory : Path) :
    ∃ before last, LastName (Header.path u directory) before last := by
  refine exists_lastName_of_getLast? (c := 'c') ?_ (by decide) (by decide)
  obtain ⟨front, htext⟩ : ∃ front, (Header.path u directory).text = front ++ ".inc" := by
    unfold Header.path Path.child Path.join
    split
    · exact ⟨u.name, rfl⟩
    · split
      · exact ⟨u.name, rfl⟩
      · exact ⟨directory.text ++ u.name, (String.append_assoc ..).symm⟩
      · exact ⟨directory.text ++ "/" ++ u.name, (String.append_assoc ..).symm⟩
  rw [htext, String.toList_append, List.getLast?_append]
  rfl

/-- The path of a header ends in the name of its unit with the extension. -/
theorem Header.exists_lastName_path (u : ShaderUnit) (directory : Path) (hname : '/' ∉ u.name.toList) :
    ∃ before, LastName (Header.path u directory) before (u.name ++ ".inc").toList := by
  refine exists_lastName_child directory (c := 'c') ?_ ?_ (by decide)
  · rw [String.toList_append, List.mem_append, not_or]
    exact ⟨hname, by decide⟩
  · rw [String.toList_append, List.getLast?_append]
    rfl

theorem WorkManifest.slash_notMem_name (fileList : Path) :
    '/' ∉ (fileList.fileStem?.getD "" ++ "_work.json").toList := by
  rw [String.toList_append, List.mem_append, not_or]
  exact ⟨fileList.slash_notMem_fileStem?, by decide⟩

/-- The path of a manifest ends in the name of its list with the extension. -/
theorem WorkManifest.exists_lastName_path (fileList : Path) :
    ∃ before, LastName (WorkManifest.path fileList) before
      (fileList.fileStem?.getD "" ++ "_work.json").toList := by
  refine exists_lastName_child fileList.directory (c := 'n') (slash_notMem_name fileList) ?_ (by decide)
  rw [String.toList_append, List.getLast?_append]
  rfl

/-! ## Places -/

section

variable {fs : FileSystem} {directory directory' : Path} {u u' : ShaderUnit} {loc loc' : Location}

theorem FileSystem.getLast?_of_place_lastName {p : Path} {before : List (List Char)} {last : List Char}
    (hend : LastName p before last) (h : fs.place p = .ok loc) :
    loc.getLast? = some (String.ofList last) := by
  rw [getLast?_of_place h, hend.segments, List.getLast?_concat]
  rfl

theorem Header.getLast?_of_place_path (hname : '/' ∉ u.name.toList)
    (h : fs.place (Header.path u directory) = .ok loc) : loc.getLast? = some (u.name ++ ".inc") := by
  obtain ⟨before, hend⟩ := Header.exists_lastName_path u directory hname
  rw [FileSystem.getLast?_of_place_lastName hend h, String.ofList_toList]

/-- **Headers of different names have different places**, in whatever directories. -/
theorem Header.place_ne_of_name_ne (hname : '/' ∉ u.name.toList) (hname' : '/' ∉ u'.name.toList)
    (hne : u.name ≠ u'.name) (h : fs.place (Header.path u directory) = .ok loc)
    (h' : fs.place (Header.path u' directory') = .ok loc') : loc ≠ loc' := by
  rintro rfl
  have hlast := Header.getLast?_of_place_path hname h
  rw [Header.getLast?_of_place_path hname' h', Option.some.injEq, String.append_left_inj] at hlast
  exact hne hlast.symm

/-- A header and a manifest never have one name: the names end in different letters. -/
theorem Header.name_ne_manifest (name stem : String) : name ++ ".inc" ≠ stem ++ "_work.json" := by
  intro h
  have hletter := congrArg (fun name => name.toList.getLast?) h
  simp [String.toList_append, List.getLast?_append] at hletter

end

end ShaderCombos
