import Mathlib.Data.Nat.Digits.Defs
import Mathlib.Tactic.Ring
import ShaderCombos.Proofs.Batch.Outputs

/-!
# `Proofs.Batch.Gate` — which shaders a batch passes over

A batch passes over a shader if what was compiled from it stores the identifier that the shader's source has
now. Here the test is put in terms of bytes (`HoldsId`, `UpToDate`), for each shader at the moment when the batch
comes to it: earlier headers have been written by then (`visits`).

Whatever hinders the test makes the shader stale and nothing else. The step of a shader that is not up to date
is what is done for any stale shader, and neither the compiled file nor the identifiers have a part in that
(`step_of_not_upToDate`). So the test decides which shaders get headers, how many are counted as up to date, and
whether there is a manifest, and that is all that it decides (`gate_of_run`).

## Contents
- **Stored identifiers.** `littleEndian_toNat`, `HoldsId`, `embeddedId_eq_ok_iff`.
- **The test.** `UpToDate`, `upToDate_iff`, `step_of_not_upToDate`.
- **Shaders in a row.** `visits`, `Delivers`, `Gated`, `gated_of_foldlM`.
- **Runs.** `gate_of_run`.
-/

namespace ShaderCombos

open FileSystem

/-! ## Stored identifiers -/

/-- A byte that is moved in front of a shorter word is added to it. -/
theorem XxHash32.or_shiftLeft_toNat (w : UInt32) (count : UInt32) (byte : UInt8) (hcount : count.toNat ≤ 24)
    (hw : w.toNat < 2 ^ count.toNat) :
    (w ||| (byte.toUInt32 <<< count)).toNat = w.toNat + 2 ^ count.toNat * byte.toNat := by
  have hbyte := byte.toNat_lt
  have hfits : byte.toNat * 2 ^ count.toNat < 2 ^ 32 := by
    calc byte.toNat * 2 ^ count.toNat < 2 ^ 8 * 2 ^ count.toNat :=
          Nat.mul_lt_mul_of_pos_right hbyte (Nat.two_pow_pos _)
      _ = 2 ^ (8 + count.toNat) := (Nat.pow_add 2 8 _).symm
      _ ≤ 2 ^ 32 := Nat.pow_le_pow_right (by omega) (by omega)
  have hshift : (byte.toUInt32 <<< count).toNat = 2 ^ count.toNat * byte.toNat := by
    rw [UInt32.toNat_shiftLeft, UInt8.toNat_toUInt32, Nat.mod_eq_of_lt (show count.toNat < 32 by omega),
      Nat.shiftLeft_eq, Nat.mod_eq_of_lt hfits, Nat.mul_comm]
  rw [UInt32.toNat_or, hshift, Nat.or_comm, ← Nat.two_pow_add_eq_or_of_lt hw, Nat.add_comm]

/-- Four bytes make a number of base 256, the least significant first. -/
theorem XxHash32.littleEndian_toNat (a b c d : UInt8) :
    (littleEndian a b c d).toNat = Nat.ofDigits 256 [a.toNat, b.toNat, c.toNat, d.toNat] := by
  have ha := a.toNat_lt
  have hb := b.toNat_lt
  have hc := c.toNat_lt
  have h₁ : a.toUInt32.toNat = a.toNat := a.toNat_toUInt32
  have h₂ := or_shiftLeft_toNat a.toUInt32 8 b (by decide) (by
    rw [h₁]
    exact ha)
  have hcount₂ : 2 ^ (8 : UInt32).toNat = 256 := rfl
  rw [h₁, hcount₂] at h₂
  have hcount₃ : 2 ^ (16 : UInt32).toNat = 65536 := rfl
  have h₃ := or_shiftLeft_toNat (a.toUInt32 ||| (b.toUInt32 <<< 8)) 16 c (by decide) (by
    rw [h₂, hcount₃]
    omega)
  rw [h₂, hcount₃] at h₃
  have hcount₄ : 2 ^ (24 : UInt32).toNat = 16777216 := rfl
  have h₄ := or_shiftLeft_toNat
    (a.toUInt32 ||| (b.toUInt32 <<< 8) ||| (c.toUInt32 <<< 16)) 24 d (by decide) (by
      rw [h₃, hcount₄]
      omega)
  rw [h₃, hcount₄] at h₄
  unfold littleEndian
  rw [h₄]
  simp only [Nat.ofDigits_cons, Nat.ofDigits_nil]
  ring

/-- **A compiled file holds an identifier** at a position: it is a file, four bytes follow the position, and
    they make the identifier, the least significant byte first. No file has a position beyond the limit. -/
def HoldsId (fs : FileSystem) (artifact : Path) (offset : Nat) (id : UInt32) : Prop :=
  ∃ loc content mode, fs.find artifact = .ok (loc, .file content mode) ∧
    offset < positionLimit ∧ offset + 4 ≤ content.size ∧
      Nat.ofDigits 256 (((content.data.toList.drop offset).take 4).map UInt8.toNat) = id.toNat

theorem leadingWord?_eq_some_iff {bytes : List UInt8} {id : UInt32} :
    leadingWord? bytes = some id ↔
      4 ≤ bytes.length ∧ Nat.ofDigits 256 ((bytes.take 4).map UInt8.toNat) = id.toNat := by
  match bytes with
  | a :: b :: c :: d :: rest =>
      have hvalue := XxHash32.littleEndian_toNat a b c d
      simp only [leadingWord?, Option.some.injEq, List.length_cons, List.take_succ_cons, List.take_zero,
        List.map_cons, List.map_nil, ← hvalue, UInt32.toNat_inj]
      simp
  | [] => simp [leadingWord?]
  | [_] => simp [leadingWord?]
  | [_, _] => simp [leadingWord?]
  | [_, _, _] => simp [leadingWord?]

/-- **The identifier of a compiled file** is the one that the file holds. -/
theorem embeddedId_eq_ok_iff {fs : FileSystem} {artifact : Path} {offset : Nat} {id : UInt32} :
    embeddedId fs artifact offset = .ok id ↔ HoldsId fs artifact offset id := by
  have hword {content : ByteArray} : leadingWord? (content.data.toList.drop offset) = some id ↔
      offset + 4 ≤ content.size ∧
        Nat.ofDigits 256 (((content.data.toList.drop offset).take 4).map UInt8.toNat) = id.toNat := by
    have hlength : 4 ≤ (content.data.toList.drop offset).length ↔ offset + 4 ≤ content.size := by
      rw [List.length_drop, Array.length_toList]
      show 4 ≤ content.size - offset ↔ _
      omega
    rw [leadingWord?_eq_some_iff, hlength]
  unfold embeddedId HoldsId
  rw [except_bind_eq_ok]
  constructor
  · rintro ⟨⟨loc, node⟩, hfind, h⟩
    dsimp only at h
    by_cases hposition : positionLimit ≤ offset
    · rw [if_pos hposition] at h
      cases h
    · rw [if_neg hposition] at h
      cases node with
      | directory mode => cases h
      | file content mode =>
          dsimp only at h
          cases hleading : leadingWord? (content.data.toList.drop offset) with
          | none =>
              rw [hleading] at h
              cases h
          | some stored =>
              rw [hleading] at h
              cases h
              obtain ⟨hsize, hvalue⟩ := hword.mp hleading
              exact ⟨loc, content, mode, hfind, Nat.not_le.mp hposition, hsize, hvalue⟩
  · rintro ⟨loc, content, mode, hfind, hposition, hsize, hvalue⟩
    refine ⟨(loc, .file content mode), hfind, ?_⟩
    dsimp only
    rw [if_neg (Nat.not_le.mpr hposition), hword.mpr ⟨hsize, hvalue⟩]

/-- Work that has been noted is some work. -/
theorem WorkManifest.isEmpty_insert (m : WorkManifest) (u : ShaderUnit) : (m.insert u).isEmpty = false := by
  show (insertEntry u.name (.ofUnit u) m.entries).isEmpty = false
  cases m.entries with
  | nil => rfl
  | cons first rest =>
      unfold insertEntry
      split
      · rfl
      · split <;> rfl

namespace Batch

section

variable {options : Options} {ids : BuildIds} {fs fs' : FileSystem} {shader : Path}
  {shaders : List Path} {progress progress' : Progress}

/-! ## The test -/

/-- **A shader is up to date**: an identifier can be had for its source, and what was compiled from it holds
    that identifier. What was compiled lies in the directory for it, seen from the shader's, under the name
    that the shader's path tells. -/
def UpToDate (options : Options) (ids : BuildIds) (fs : FileSystem) (shader : Path) : Prop :=
  ∃ stage name id, identify shader options.model = .ok (stage, name) ∧ ids fs shader = .ok id ∧
    HoldsId fs ((shader.directory.join options.config.artifacts.directory).child
      (name ++ "." ++ options.config.artifacts.extension)) options.config.artifacts.offset id

/-- **The test of a batch is exact.** -/
theorem upToDate_iff : UpToDate options ids fs shader ↔ Skips options ids fs shader := by
  unfold UpToDate Skips
  simp only [ArtifactPlace.isCurrent_iff, embeddedId_eq_ok_iff]
  constructor
  · rintro ⟨stage, name, id, hidentified, hid, hholds⟩
    exact ⟨stage, name, hidentified, id, hholds, hid⟩
  · rintro ⟨stage, name, hidentified, id, hholds, hid⟩
    exact ⟨stage, name, id, hidentified, hid, hholds⟩

instance : Decidable (UpToDate options ids fs shader) :=
  match hidentified : identify shader options.model with
  | .error e => .isFalse (by
      rintro ⟨stage, name, id, htold, -⟩
      cases hidentified.symm.trans htold)
  | .ok (stage, name) =>
    decidable_of_iff (options.config.artifacts.isCurrent ids fs shader name = true) (by
      rw [upToDate_iff]
      constructor
      · intro hcurrent
        exact ⟨stage, name, hidentified, hcurrent⟩
      · rintro ⟨stage', name', htold, hcurrent⟩
        cases hidentified.symm.trans htold
        exact hcurrent)

/-- **Whatever hinders the test makes a shader stale and nothing else.** A shader that is not up to date is
    prepared and noted, and the batch fails there only if the shader cannot be prepared. -/
theorem step_of_not_upToDate (h : ¬ UpToDate options ids fs shader) :
    step options ids progress shader fs =
      (prepare shader options.model options.config.includeDirectory >>= fun prepared =>
        pure (progress.note options prepared.1 prepared.2)) fs := by
  cases hidentified : identify shader options.model with
  | error e =>
      have hprepare : prepare shader options.model options.config.includeDirectory fs = (.error e, fs) :=
        Action.bind_of_error (Action.query_of_error hidentified) _
      rw [step_of_unidentified hidentified]
      exact (Action.bind_of_error hprepare _).symm
  | ok told =>
      obtain ⟨stage, name⟩ := told
      have hstale : options.config.artifacts.isCurrent ids fs shader name = false := by
        rw [Bool.eq_false_iff]
        intro hcurrent
        exact h (upToDate_iff.mpr ⟨stage, name, hidentified, hcurrent⟩)
      refine (Action.bind_of_ok (query_isCurrent hidentified) _).trans ?_
      rw [hstale]
      rfl

/-! ## Shaders in a row -/

/-- The shaders that a batch comes to, each with the file system at that moment. -/
def visits (options : Options) (ids : BuildIds) (progress : Progress) (fs : FileSystem) :
    List Path → List (FileSystem × Path)
  | [] => []
  | shader :: rest =>
    (fs, shader) ::
      match step options ids progress shader fs with
      | (.ok progress', fs') => visits options ids progress' fs' rest
      | (.error _, _) => []

theorem visits_nil : visits options ids progress fs [] = [] :=
  rfl

theorem visits_cons {fs₁ : FileSystem} (h : step options ids progress shader fs = (.ok progress', fs₁)) :
    visits options ids progress fs (shader :: shaders)
      = (fs, shader) :: visits options ids progress' fs₁ shaders := by
  show (fs, shader) ::
    (match step options ids progress shader fs with
      | (.ok progress', fs') => visits options ids progress' fs' shaders
      | (.error _, _) => []) = _
  rw [h]

/-- **A stale shader gets its header**: the header of the unit that is read of the shader is there when the
    batch is done with the shader. -/
def Delivers (options : Options) (ids : BuildIds) (visit : FileSystem × Path) (header : Path) : Prop :=
  ∃ unit content loc fs', Builds options ids visit.1 visit.2 unit content ∧
    header = Header.path unit (includeDirectory options visit.2) ∧
      (∀ progress, step options ids progress visit.2 visit.1
        = (.ok (progress.note options unit header), fs')) ∧
        fs'.find header = .ok (loc, .file content.toUTF8 Header.finishedMode)

theorem delivers_of_prepares {unit : ShaderUnit} {header : Path}
    (h : Prepares options ids fs shader unit header fs') : Delivers options ids (fs, shader) header := by
  obtain ⟨hheader, content, loc, htext, hfind⟩ := Header.find_of_write h.written
  refine ⟨unit, content, loc, fs', ⟨h.identified, h.stale, h.read, htext⟩, hheader, ?_, hfind⟩
  exact fun progress => step_eq_ok.mpr (Or.inr ⟨unit, header, h, rfl⟩)

theorem not_upToDate_of_prepares {unit : ShaderUnit} {header : Path}
    (h : Prepares options ids fs shader unit header fs') : ¬ UpToDate options ids fs shader := by
  rw [upToDate_iff]
  rintro ⟨stage, name, htold, hcurrent⟩
  cases h.identified.symm.trans htold
  rw [h.stale] at hcurrent
  cases hcurrent

/-- What comes of shaders that a batch goes through without a failure. -/
structure Gated (options : Options) (visited : List (FileSystem × Path)) (ids : BuildIds)
    (fs : FileSystem) (shaders : List Path) (before after : Progress) (fs' : FileSystem) : Prop where
  reached : visited.map Prod.snd = shaders
  processed : after.processed = before.processed + shaders.length
  upToDate : after.upToDate = before.upToDate + visited.countP fun v => UpToDate options ids v.1 v.2
  headers : ∃ headers, after.headers = before.headers ++ headers ∧
    List.Forall₂ (Delivers options ids) (visited.filter fun v => ¬ UpToDate options ids v.1 v.2) headers
  work : after.work.isEmpty = true ↔ before.work.isEmpty = true ∧
    (options.headersOnly = true ∨ ∀ v ∈ visited, UpToDate options ids v.1 v.2)
  untouched : (∀ v ∈ visited, UpToDate options ids v.1 v.2) → fs' = fs

/-- **The test decides what becomes of the shaders.** By induction on the shaders that are left. -/
theorem gated_of_foldlM
    (h : (shaders.foldlM (step options ids) progress : Action Progress) fs = (.ok progress', fs')) :
    Gated options (visits options ids progress fs shaders) ids fs shaders progress progress' fs' := by
  induction shaders generalizing progress fs with
  | nil =>
      obtain ⟨rfl, rfl⟩ := Action.pure_eq_ok.mp h
      rw [visits_nil]
      exact ⟨rfl, rfl, rfl, ⟨[], by simp, .nil⟩, by simp, fun _ => rfl⟩
  | cons shader rest ih =>
      rw [List.foldlM_cons] at h
      obtain ⟨next, fs₁, hstep, hrest⟩ := Action.bind_eq_ok.mp h
      obtain ⟨hreached, hprocessed, hupToDate, ⟨headers, hheaders, hdelivers⟩, hwork, huntouched⟩ := ih hrest
      rw [visits_cons hstep]
      rcases step_eq_ok.mp hstep with ⟨hskips, rfl, rfl⟩ | ⟨unit, header, hprepares, rfl⟩
      · have hcurrent : UpToDate options ids fs shader := upToDate_iff.mpr hskips
        have hskip : progress.skip.processed = progress.processed + 1 := rfl
        have hcounted : progress.skip.upToDate = progress.upToDate + 1 := rfl
        refine ⟨?_, ?_, ?_, ⟨headers, hheaders, ?_⟩, ?_, ?_⟩
        · rw [List.map_cons, hreached]
        · rw [hprocessed, hskip, List.length_cons]
          omega
        · rw [hupToDate, hcounted, List.countP_cons_of_pos (by simpa using hcurrent)]
          omega
        · rw [List.filter_cons_of_neg (by simpa using hcurrent)]
          exact hdelivers
        · rw [hwork, List.forall_mem_cons]
          simp [hcurrent, Progress.skip]
        · intro hall
          exact huntouched (List.forall_mem_cons.mp hall).2
      · have hstale := not_upToDate_of_prepares hprepares
        have hnote : (progress.note options unit header).processed = progress.processed + 1 := rfl
        have hcounted : (progress.note options unit header).upToDate = progress.upToDate := rfl
        refine ⟨?_, ?_, ?_, ⟨header :: headers, ?_, ?_⟩, ?_, ?_⟩
        · rw [List.map_cons, hreached]
        · rw [hprocessed, hnote, List.length_cons]
          omega
        · rw [hupToDate, hcounted, List.countP_cons_of_neg (by simpa using hstale)]
        · rw [hheaders, Progress.note, List.append_assoc]
          rfl
        · rw [List.filter_cons_of_pos (by simpa using hstale)]
          exact .cons (delivers_of_prepares hprepares) hdelivers
        · rw [hwork, List.forall_mem_cons, Progress.note]
          cases options.headersOnly with
          | true => simp
          | false => simp [WorkManifest.isEmpty_insert, hstale]
        · intro hall
          exact absurd (List.forall_mem_cons.mp hall).1 hstale

/-! ## Runs -/

/-- **What the test decides in a run.** The shaders are those of the list, and each is tested in the file
    system in which the batch comes to it. -/
structure Decided (options : Options) (ids : BuildIds) (fs : FileSystem) (fileList : Path)
    (shaders : List Path) (summary : Summary) (fs' : FileSystem) : Prop where
  lists : Lists options fs fileList shaders
  /-- The batch comes to all shaders of the list, in order. -/
  reached : (visits options ids {} fs shaders).map Prod.snd = shaders
  processed : summary.processed = shaders.length
  upToDate : summary.upToDate
    = (visits options ids {} fs shaders).countP fun v => UpToDate options ids v.1 v.2
  total : summary.processed = summary.upToDate + summary.headers.length
  /-- The other shaders get their headers, in the order of the list. -/
  headers : List.Forall₂ (Delivers options ids)
    ((visits options ids {} fs shaders).filter fun v => ¬ UpToDate options ids v.1 v.2) summary.headers
  manifest : summary.manifest.isSome = true ↔ options.headersOnly = false ∧
    ∃ v ∈ visits options ids {} fs shaders, ¬ UpToDate options ids v.1 v.2
  untouched : (∀ v ∈ visits options ids {} fs shaders, UpToDate options ids v.1 v.2) → fs' = fs

theorem decided_of_run {summary : Summary} (h : run options ids fs = (.ok summary, fs')) :
    ∃ fileList shaders, Decided options ids fs fileList shaders summary fs' := by
  obtain ⟨fileList, shaders, stale, progress, fs₁, hlist, hshaders, htrace, hreports, hfinish⟩ :=
    run_eq_ok.mp h
  have hgated := gated_of_foldlM (foldlM_step_eq_ok.mpr ⟨stale, htrace, hreports⟩)
  obtain ⟨hreached, hprocessed, hupToDate, ⟨headers, hheaders, hdelivers⟩, hwork, huntouched⟩ := hgated
  rw [Nat.zero_add] at hprocessed hupToDate
  obtain rfl : progress.headers = headers := hheaders
  have hnone : progress.work.isEmpty = true ↔ options.headersOnly = true ∨
      ∀ v ∈ visits options ids {} fs shaders, UpToDate options ids v.1 v.2 :=
    hwork.trans (and_iff_right rfl)
  have htotal : progress.processed = progress.upToDate + progress.headers.length := by
    have hlength := congrArg List.length hreached
    have hsplit := List.length_eq_countP_add_countP (fun v => decide (UpToDate options ids v.1 v.2))
      (l := visits options ids {} fs shaders)
    rw [List.length_map] at hlength
    rw [hprocessed, hupToDate, ← hdelivers.length_eq, ← List.countP_eq_length_filter, ← hlength, hsplit]
    simp
  have hmanifest : progress.work.isEmpty = false ↔ options.headersOnly = false ∧
      ∃ v ∈ visits options ids {} fs shaders, ¬ UpToDate options ids v.1 v.2 := by
    rw [← Bool.not_eq_true, hnone]
    simp
  rcases finish_eq_ok.mp hfinish with ⟨hempty, rfl, rfl⟩ | ⟨hsome, -, rfl⟩
  · refine ⟨fileList, shaders, ⟨hlist, hshaders⟩, hreached, hprocessed, hupToDate, htotal, hdelivers, ?_,
      huntouched⟩
    rw [← hmanifest, hempty]
    simp
  · refine ⟨fileList, shaders, ⟨hlist, hshaders⟩, hreached, hprocessed, hupToDate, htotal, hdelivers, ?_,
      fun hall => ?_⟩
    · rw [← hmanifest, hsome]
      simp
    · have hempty := hnone.mpr (Or.inr hall)
      rw [hsome] at hempty
      cases hempty

/-- **The gate is exact.** A run that succeeds counts as up to date just the shaders that are so when the batch
    comes to them, and writes the headers of all others. A shader that is not up to date, for whatever
    reason, is prepared and noted, so no run fails because of the test.

    The run is one of a privileged user, to whom no permission bits matter, on a file system without links. A
    compiled file that is there can therefore be read unless a directory has its place. The source of
    identifiers, a helper program among them, looks at files and changes none. -/
theorem gate_of_run (options : Options) (ids : BuildIds) (fs : FileSystem) :
    (∀ summary fs', run options ids fs = (.ok summary, fs') →
      ∃ fileList shaders, Decided options ids fs fileList shaders summary fs') ∧
    ∀ progress fs₁ shader, ¬ UpToDate options ids fs₁ shader →
      step options ids progress shader fs₁ =
        (prepare shader options.model options.config.includeDirectory >>= fun prepared =>
          pure (progress.note options prepared.1 prepared.2)) fs₁ :=
  ⟨fun _ _ h => decided_of_run h, fun _ _ _ h => step_of_not_upToDate h⟩

end

/-! ## One shader of each kind

The list names two shaders, and what was compiled from the first holds its identifier. -/

namespace OneCurrent

def files : FileSystem where
  nodes := [(["list.txt"], .file "a_ps30.fxc\nb_ps30.fxc".toUTF8 newFileMode),
    (["a_ps30.fxc"], .file "".toUTF8 newFileMode), (["b_ps30.fxc"], .file "".toUTF8 newFileMode),
    (["shaders"], .directory newDirectoryMode), (["shaders", "fxc"], .directory newDirectoryMode),
    (["shaders", "fxc", "a_ps30.vcs"],
      .file ⟨(List.replicate 24 (0 : UInt8) ++ [0x78, 0x56, 0x34, 0x12]).toArray⟩ newFileMode)]

def options : Options where
  fileList := ⟨"list.txt"⟩
  model := .three

/-- All sources have one identifier. -/
def ids : BuildIds := fun _ _ => .ok 0x12345678

/-- What is read of the second shader. -/
def unit : ShaderUnit where
  name := "b_ps30"
  stage := .pixel
  model := .three
  version := "30"
  files := ["b_ps30.fxc"]

/-- The file system after the second shader. -/
def afterShaders : FileSystem :=
  (Header.write unit ⟨"/include"⟩ files).2

theorem lists : Lists options files ⟨"/list.txt"⟩ [⟨"/a_ps30.fxc"⟩, ⟨"/b_ps30.fxc"⟩] :=
  ⟨by decide +kernel, by decide +kernel⟩

theorem skips : Skips options ids files ⟨"/a_ps30.fxc"⟩ :=
  ⟨.pixel, "a_ps30", by decide +kernel, by decide +kernel⟩

theorem prepares :
    Prepares options ids files ⟨"/b_ps30.fxc"⟩ unit ⟨"/include/b_ps30.inc"⟩ afterShaders := by
  have hread : files.readTextAt ⟨"/b_ps30.fxc"⟩ = .ok (["b_ps30.fxc"], "") := by decide +kernel
  have hdirectory : Path.join (Path.directory ⟨"/b_ps30.fxc"⟩) options.config.includeDirectory
      = ⟨"/include"⟩ := by decide +kernel
  have hwritten : (Header.write unit ⟨"/include"⟩ files).1 = .ok ⟨"/include/b_ps30.inc"⟩ := by
    decide +kernel
  refine ⟨by decide +kernel, by decide +kernel, ?_, ?_⟩
  · have hname : Path.listedName ⟨"/b_ps30.fxc"⟩ = "b_ps30.fxc" := by decide +kernel
    have hunit := ShaderUnit.ofFile_of_empty hread "b_ps30" .pixel .three
    rw [hname] at hunit
    exact hunit
  · rw [hdirectory]
    exact Prod.ext hwritten rfl

/-- The progress after both shaders. -/
def progress : Progress :=
  Progress.note (Progress.skip {}) options unit ⟨"/include/b_ps30.inc"⟩

/-- What the run reports. -/
def summary : Summary :=
  ⟨2, 1, [⟨"/include/b_ps30.inc"⟩], some ⟨"/list_work.json"⟩⟩

/-- The file system after the run. -/
def afterRun : FileSystem :=
  (finish ⟨"/list.txt"⟩ progress afterShaders).2

theorem run_eq : run options ids files = (.ok summary, afterRun) := by
  have hfinish : (finish ⟨"/list.txt"⟩ progress afterShaders).1 = .ok summary := by decide +kernel
  rw [run_of_lists lists]
  unfold goOn
  rw [List.foldlM_cons, bind_assoc]
  refine (Action.bind_of_ok (step_eq_ok.mpr (Or.inl ⟨skips, rfl, rfl⟩)) _).trans ?_
  rw [List.foldlM_cons, bind_assoc]
  refine (Action.bind_of_ok (step_eq_ok.mpr (Or.inr ⟨unit, _, prepares, rfl⟩)) _).trans ?_
  exact Prod.ext hfinish rfl

end OneCurrent

theorem gate_of_run_one_current :
    (∃ fileList shaders, Decided OneCurrent.options OneCurrent.ids OneCurrent.files fileList shaders
        OneCurrent.summary OneCurrent.afterRun) ∧
      ¬ UpToDate OneCurrent.options OneCurrent.ids OneCurrent.files ⟨"/b_ps30.fxc"⟩ ∧
        step OneCurrent.options OneCurrent.ids {} ⟨"/b_ps30.fxc"⟩ OneCurrent.files =
          (prepare ⟨"/b_ps30.fxc"⟩ OneCurrent.options.model OneCurrent.options.config.includeDirectory
            >>= fun prepared => pure (Progress.note {} OneCurrent.options prepared.1 prepared.2))
            OneCurrent.files :=
  have hstale := not_upToDate_of_prepares OneCurrent.prepares
  ⟨(gate_of_run _ _ _).1 _ _ OneCurrent.run_eq, hstale, (gate_of_run _ _ OneCurrent.files).2 _ _ _ hstale⟩

end Batch

end ShaderCombos
