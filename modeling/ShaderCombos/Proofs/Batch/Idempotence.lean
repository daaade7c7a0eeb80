import Mathlib
import ShaderCombos.Proofs.Batch.Outputs

/-!
# `Proofs.Batch.Idempotence` — a batch that is run twice

The second of two runs starts where the first has ended: headers are there and read-only, the manifest is
there, and perhaps the first run has failed half-way. If nothing that the first run writes is read
(`Undisturbed`), the second run comes to the same verdict on every shader, writes the same again and ends as
the first (`run_run`).

The two runs go side by side. Where the first has come to a file system on its way to its end, the second
stands at one that holds, at every location, what the first has there at that moment or will have in the end
(`Follows`). Each step keeps that. When the first run ends, now and the end are one, so the second run holds
the same at every location. That is what makes even failures equal, whose causes may depend on files that
nobody reads.

## Contents
- **What a run writes.** `written`, `Undisturbed`.
- **Side by side.** `Follows` with `Follows.change` and `same_of_finish`.
- **Two runs.** `agreeOff_goOn`, `goOn_again`, `run_run`.
-/

namespace ShaderCombos.Batch

open FileSystem

section

variable {options : Options} {ids : BuildIds} {fs s s' t F : FileSystem} {shader fileList : Path}
  {shaders : List Path} {progress progress' : Progress} {W : Set Location} {r : Attempt Summary}

/-! ## What a run writes -/

/-- The locations that a run writes to. -/
def written (options : Options) (ids : BuildIds) (fs : FileSystem) : Set Location :=
  {loc | ∃ fileList shaders p, Lists options fs fileList shaders ∧
    Writes options ids fileList fs shaders {} p ∧ fs.place p = .ok loc}

/-- **A run reads nothing that it writes**: not its list, no source, no file that a source includes, no
    compiled shader, and nothing that an identifier is found out from. The directories of the headers are
    there. -/
structure Undisturbed (options : Options) (ids : BuildIds) (fs : FileSystem) : Prop where
  list : ∀ fileList shaders, Lists options fs fileList shaders →
    fs.Misses (written options ids fs) fileList
  shader : ∀ fileList shaders, Lists options fs fileList shaders → ∀ shader ∈ shaders,
    Unaffected options ids fs (written options ids fs) shader

/-- All that is written from here on goes to some locations. -/
def WritesWithin (options : Options) (ids : BuildIds) (fileList : Path) (W : Set Location)
    (s : FileSystem) (shaders : List Path) (progress : Progress) : Prop :=
  ∀ p loc, Writes options ids fileList s shaders progress p → s.place p = .ok loc → loc ∈ W

theorem WritesWithin.put? (h : WritesWithin options ids fileList W s (shader :: shaders) progress)
    {loc : Location} {node : Node} (hput : (judge options ids s shader).put? = some (loc, node)) :
    loc ∈ W := by
  obtain ⟨unit, content, hbuilds, hheader, -⟩ := builds_of_put? hput
  exact h _ loc (.header hbuilds) hheader

theorem WritesWithin.later (h : WritesWithin options ids fileList W s (shader :: shaders) progress)
    (hdirectory : s.isDirectoryAt (includeDirectory options shader) = true)
    (houtcome : (judge options ids s shader).outcome options progress = .ok progress') :
    WritesWithin options ids fileList W ((judge options ids s shader).change s) shaders progress' := by
  have hagree : AgreeOff W s _ := agreeOff_change fun _ _ => h.put?
  have hstep : step options ids progress shader s = _ := step_eq hdirectory
  rw [houtcome] at hstep
  exact fun p loc hwrites hplace => h p loc (.later hstep hwrites) (hagree.symm.place hplace)

/-! ## Side by side -/

/-- **The second run follows the first**, which has come to `s` and will end in `F`. -/
structure Follows (W : Set Location) (s t F : FileSystem) : Prop where
  agree : AgreeOff W s t
  node? : ∀ loc, t.node? loc = s.node? loc ∨ t.node? loc = F.node? loc

/-- At the end of the first run both runs hold the same. -/
theorem Follows.same (h : Follows W s t s) : Same s t :=
  ⟨h.agree.workingDirectory, fun loc => (h.node? loc).elim id id⟩

/-- Where both runs put the same, the second goes on following. -/
theorem Follows.put (h : Follows W s t F) (loc : Location) (node : Node) :
    Follows W (s.put loc node) (t.put loc node) F := by
  refine ⟨h.agree.congr_put loc node, fun other => ?_⟩
  by_cases hother : other = loc
  · subst hother
    exact Or.inl (by rw [node?_put_self, node?_put_self])
  · rw [node?_put_of_ne hother, node?_put_of_ne hother]
    exact h.node? other

/-- **A step keeps the second run following** as long as both runs come to one verdict. -/
theorem Follows.change (h : Follows W s t F) (verdict : Verdict) :
    Follows W (verdict.change s) (verdict.change t) F := by
  unfold Verdict.change
  cases verdict.put? with
  | none => exact h
  | some put => exact h.put put.1 put.2

/-- **The second run ends as the first.** A manifest that is there keeps its bits, which are those that the
    first run has left it with. -/
theorem same_of_finish (hfollows : Follows W s t F)
    (h : finish fileList progress s = (r, F)) : ∃ T, finish fileList progress t = (r, T) ∧ Same F T := by
  rw [finish_eq] at h
  rw [finish_eq]
  cases hmanifest : manifestPlace s fileList progress with
  | error e =>
      rw [hmanifest] at h
      cases h
      rw [manifestPlace_of_same hfollows.same, hmanifest]
      exact ⟨t, rfl, hfollows.same⟩
  | ok put =>
      rw [hmanifest] at h
      rw [manifestPlace_of_agreeOff hfollows.agree hmanifest]
      cases put with
      | none =>
          cases h
          exact ⟨t, rfl, hfollows.same⟩
      | some loc =>
          cases h
          have hmode : t.writtenMode loc = s.writtenMode loc := by
            unfold writtenMode
            rcases hfollows.node? loc with hnow | hend
            · rw [hnow]
            · rw [hend, node?_put_self]
              rfl
          simp only [hmode]
          exact ⟨_, rfl, (hfollows.put loc _).same⟩

/-! ## Two runs -/

/-- A run stays within what it writes. By induction on the shaders that are left. -/
theorem agreeOff_goOn (hunaffected : ∀ shader ∈ shaders, Unaffected options ids s W shader)
    (hwithin : WritesWithin options ids fileList W s shaders progress)
    (h : goOn options ids fileList shaders progress s = (r, F)) : AgreeOff W s F := by
  induction shaders generalizing progress s with
  | nil =>
      rw [goOn_nil, finish_eq] at h
      cases hmanifest : manifestPlace s fileList progress with
      | error e =>
          rw [hmanifest] at h
          cases h
          exact .refl _
      | ok put =>
          rw [hmanifest] at h
          cases put with
          | none =>
              cases h
              exact .refl _
          | some loc =>
              cases h
              obtain ⟨hwork, hplace, hfile⟩ := manifestPlace_eq_some hmanifest
              exact .put_file (hwithin _ loc (.manifest hwork) hplace) hfile
  | cons shader rest ih =>
      obtain ⟨hfirst, hrest⟩ := List.forall_mem_cons.mp hunaffected
      have hs : AgreeOff W s _ := agreeOff_change fun _ _ => hwithin.put?
      rw [goOn_cons hfirst.directory] at h
      cases houtcome : (judge options ids s shader).outcome options progress with
      | error e =>
          rw [houtcome] at h
          cases h
          exact hs
      | ok progress' =>
          rw [houtcome] at h
          exact hs.trans (ih (fun shader hshader => (hrest shader hshader).of_agreeOff hs)
            (hwithin.later hfirst.directory houtcome) h)

/-- **The second run goes through the same shaders to the same end.** By induction on the shaders that are
    left; the invariant is that the second run follows the first. -/
theorem goOn_again (hunaffected : ∀ shader ∈ shaders, Unaffected options ids s W shader)
    (hwithin : WritesWithin options ids fileList W s shaders progress) (hfollows : Follows W s t F)
    (h : goOn options ids fileList shaders progress s = (r, F)) :
    ∃ T, goOn options ids fileList shaders progress t = (r, T) ∧ Same F T := by
  induction shaders generalizing progress s t with
  | nil => exact same_of_finish hfollows h
  | cons shader rest ih =>
      obtain ⟨hfirst, hrest⟩ := List.forall_mem_cons.mp hunaffected
      rw [goOn_cons hfirst.directory] at h
      rw [goOn_cons (hfollows.agree.isDirectoryAt hfirst.directory)]
      by_cases hpass : ∀ e, judge options ids s shader ≠ .fails e
      · have hs : AgreeOff W s _ := agreeOff_change fun _ _ => hwithin.put?
        have hfollows' := hfollows.change (judge options ids s shader)
        rw [judge_of_agreeOff hfirst hfollows.agree hpass]
        cases houtcome : (judge options ids s shader).outcome options progress with
        | error e =>
            rw [houtcome] at h
            cases h
            exact ⟨_, rfl, hfollows'.same⟩
        | ok progress' =>
            rw [houtcome] at h
            exact ih (fun shader hshader => (hrest shader hshader).of_agreeOff hs)
              (hwithin.later hfirst.directory houtcome) hfollows' h
      · -- The shader fails and nothing has changed, so the first run has come to its end already.
        obtain ⟨e, hfails⟩ : ∃ e, judge options ids s shader = .fails e := by simpa using hpass
        rw [hfails] at h
        cases h
        have hids := hfirst.identifier t hfollows.agree
        have hverdict : judge options ids t shader = _ := judge_of_same hfollows.same hids
        rw [hverdict, hfails]
        exact ⟨t, rfl, hfollows.same⟩

theorem locate_of_agreeOff (h : AgreeOff W s t) (p : Path) : locate t p = locate s p := by
  unfold locate workingPath
  rw [h.workingDirectory]

/-- **A batch can be run again.** If a run reads nothing that it writes, a second run has the same outcome,
    be it a summary or a failure, and leaves everything as the first has left it. -/
theorem run_run (h : Undisturbed options ids fs) :
    (run options ids (run options ids fs).2).1 = (run options ids fs).1 ∧
      Same (run options ids fs).2 (run options ids (run options ids fs).2).2 := by
  by_cases hlists : ∃ fileList shaders, Lists options fs fileList shaders
  · obtain ⟨fileList, shaders, hlist⟩ := hlists
    have hunaffected := h.shader fileList shaders hlist
    have hwithin : WritesWithin options ids fileList (written options ids fs) fs shaders {} :=
      fun p loc hwrites hplace => ⟨fileList, shaders, p, hlist, hwrites, hplace⟩
    rcases hrun : run options ids fs with ⟨r, F⟩
    have hgo : goOn options ids fileList shaders {} fs = (r, F) := (run_of_lists hlist).symm.trans hrun
    have hagree := agreeOff_goOn hunaffected hwithin hgo
    -- The second run finds the same list and starts at the end of the first.
    have hlist' : Lists options F fileList shaders :=
      ⟨(locate_of_agreeOff hagree _).trans hlist.located,
        FileList.read_of_agreeOff hagree (h.list fileList shaders hlist) hlist.read⟩
    obtain ⟨T, hagain, hsame⟩ := goOn_again hunaffected hwithin ⟨hagree, fun _ => Or.inr rfl⟩ hgo
    have hrun' : run options ids F = (r, T) := (run_of_lists hlist').trans hagain
    simp only [hrun']
    exact ⟨trivial, hsame⟩
  · have hnone : ∀ fileList shaders, ¬ Lists options fs fileList shaders :=
      fun fileList shaders hlist => hlists ⟨fileList, shaders, hlist⟩
    obtain ⟨e, hrun⟩ : ∃ e, run options ids fs = (.error e, fs) := run_of_not_lists hnone
    rw [hrun]
    exact ⟨by rw [hrun], by rw [hrun]; exact .refl fs⟩

end

/-! A list that names a shader with a header and a shader that is missing. The first is written before the
second fails. -/

namespace SecondMissing

def files : FileSystem where
  nodes := [
    (["include"], .directory newDirectoryMode),
    (["list.txt"], .file "a_ps30.fxc\ngone_ps30.fxc\n".toUTF8 newFileMode),
    (["a_ps30.fxc"], .file "#include \"b.h\"\n".toUTF8 newFileMode),
    (["b.h"], .file "".toUTF8 newFileMode)]

def options : Options where
  fileList := ⟨"list.txt"⟩
  model := .three

def shaders : List Path :=
  [⟨"/a_ps30.fxc"⟩, ⟨"/gone_ps30.fxc"⟩]

theorem lists : Lists options files ⟨"/list.txt"⟩ shaders :=
  ⟨by decide +kernel, by decide +kernel⟩

theorem written_subset : written options BuildIds.hashing files ⊆
    {loc | loc ∈ outputLocations options files ⟨"/list.txt"⟩ shaders} := by
  rintro loc ⟨fileList, shaders', p, hlists, hwrites, hplace⟩
  obtain ⟨rfl, rfl⟩ := hlists.unique lists
  exact mem_outputLocations ⟨p, hwrites.output, hplace⟩

theorem identify_eq : identify ⟨"/a_ps30.fxc"⟩ options.model = .ok (.pixel, "a_ps30") ∧
    identify ⟨"/gone_ps30.fxc"⟩ options.model = .ok (.pixel, "gone_ps30") := by
  decide +kernel

theorem unaffected {shader : Path} (h : shader ∈ shaders) :
    Unaffected options BuildIds.hashing files
      {loc | loc ∈ outputLocations options files ⟨"/list.txt"⟩ shaders} shader := by
  have hclosed : ∀ p ∈ ⟨"/b.h"⟩ :: shaders, ∀ q ∈ Source.included files p, q ∈ ⟨"/b.h"⟩ :: shaders := by
    decide +kernel
  have hmiss : ∀ p ∈ ⟨"/b.h"⟩ :: shaders, ∀ loc ∈ outputLocations options files ⟨"/list.txt"⟩ shaders,
      files.locate p ≠ .ok loc ∧ files.place p ≠ .ok loc := by
    decide +kernel
  have hdirectory : ∀ shader ∈ shaders,
      files.isDirectoryAt (includeDirectory options shader) = true := by
    decide +kernel
  have hsource : Source.Misses files {loc | loc ∈ outputLocations options files ⟨"/list.txt"⟩ shaders}
      shader :=
    Source.misses_of_closed hclosed (fun p hp => misses_of_forall (hmiss p hp)) (List.mem_cons_of_mem _ h)
  refine ⟨hdirectory shader h, hsource, ?_, fun fs' hagree id => BuildIds.hashing_iff hagree hsource⟩
  intro stage name hidentified
  rcases List.mem_pair.mp h with rfl | rfl
  · cases identify_eq.1.symm.trans hidentified
    exact misses_of_forall (by decide +kernel)
  · cases identify_eq.2.symm.trans hidentified
    exact misses_of_forall (by decide +kernel)

theorem undisturbed : Undisturbed options BuildIds.hashing files := by
  constructor
  · intro fileList shaders' hlists
    obtain ⟨rfl, rfl⟩ := hlists.unique lists
    exact (misses_of_forall (by decide +kernel)).mono written_subset
  · intro fileList shaders' hlists shader hshader
    obtain ⟨rfl, rfl⟩ := hlists.unique lists
    exact (unaffected hshader).mono written_subset

/-- The missing shader stops the batch. -/
theorem passes_gone :
    (judge options BuildIds.hashing files ⟨"/gone_ps30.fxc"⟩).passes = false := by
  have hread : files.readTextAt ⟨"/gone_ps30.fxc"⟩ = .error .notFound := by decide +kernel
  have hassemble : Source.assemble files ⟨"/gone_ps30.fxc"⟩
      = .error (.unreadable ⟨"/gone_ps30.fxc"⟩ .notFound) := by
    unfold Source.assemble
    rw [hread]
  have hstale : ¬ options.config.artifacts.isCurrent BuildIds.hashing files ⟨"/gone_ps30.fxc"⟩
      "gone_ps30" = true := by
    rw [ArtifactPlace.isCurrent_iff]
    rintro ⟨id, -, hid⟩
    obtain ⟨source, hsource, -⟩ := except_map_eq_ok.mp hid
    cases hassemble.symm.trans hsource
  unfold judge ShaderUnit.ofFile
  simp only [identify_eq.2, if_neg hstale, hassemble]
  rfl

theorem run_fails : ∃ e F, run options BuildIds.hashing files = (.error e, F) := by
  rw [run_of_lists lists]
  refine goOn_of_not_passes (fun _ => unaffected) ?_ (.refl files) ⟨_, by decide, passes_gone⟩
  exact fun shader hshader loc node hput => mem_outputLocations (mem_outputPlaces_of_put? hshader hput)

end SecondMissing

theorem run_run_second_missing :
    Undisturbed SecondMissing.options BuildIds.hashing SecondMissing.files ∧
      (∃ e F, run SecondMissing.options BuildIds.hashing SecondMissing.files = (.error e, F)) ∧
        (run SecondMissing.options BuildIds.hashing
            (run SecondMissing.options BuildIds.hashing SecondMissing.files).2).1
          = (run SecondMissing.options BuildIds.hashing SecondMissing.files).1 ∧
        Same (run SecondMissing.options BuildIds.hashing SecondMissing.files).2
          (run SecondMissing.options BuildIds.hashing
            (run SecondMissing.options BuildIds.hashing SecondMissing.files).2).2 :=
  ⟨SecondMissing.undisturbed, SecondMissing.run_fails, run_run SecondMissing.undisturbed⟩

end ShaderCombos.Batch
