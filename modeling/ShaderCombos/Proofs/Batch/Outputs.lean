import ShaderCombos.Proofs.Batch.Verdict

/-!
# `Proofs.Batch.Outputs` — what a batch writes to

A batch writes the headers of stale shaders and, at its end, one manifest. Both have paths that are known
before the batch starts (`Output`), and in places that no two of them share. Which of them are written is
known only from the course of the batch (`Writes`).

A run is opened here from the front: it finds its list or ends (`run_of_lists`), it acts on the first shader and
goes on with the others (`goOn_cons`), and in the end it writes what work it has noted (`finish_eq`).

## Contents
- **File lists.** `FileList.read_eq_ok`.
- **Paths.** `Output`, `Writes`, `Writes.output`, `outputPlaces` and the same computed, `outputLocations`.
- **The course of a run.** `goOn`, `goOn_cons`, `manifestPlace`, `finish_eq`, `run_of_lists` and `run_of_not_lists`.
- **Verdicts in a row.** `goOn_of_passes` and `goOn_of_not_passes`: all shaders were judged beforehand.
-/

namespace ShaderCombos

open FileSystem

/-! ## File lists -/

/-- **What a list names** is read off its text, and it has to be something. -/
theorem FileList.read_eq_ok {fs : FileSystem} {fileList : Path} {shaders : List Path} :
    FileList.read fs fileList = .ok shaders ↔ shaders ≠ [] ∧
      ∃ loc text, fs.readTextAt fileList = .ok (loc, text) ∧
        (entries text).map fileList.directory.child = shaders := by
  unfold FileList.read FileSystem.readText
  simp only [except_bind_eq_ok, Attempt.ofFile_eq_ok, except_map_eq_ok]
  constructor
  · rintro ⟨text, ⟨⟨loc, text'⟩, hread, rfl⟩, h⟩
    split at h
    · cases h
    · next hsome =>
      obtain rfl := Except.ok.inj h
      exact ⟨by simpa using hsome, loc, text', hread, rfl⟩
  · rintro ⟨hsome, loc, text, hread, rfl⟩
    refine ⟨text, ⟨(loc, text), hread, rfl⟩, ?_⟩
    rw [if_neg (by simpa using hsome)]

theorem FileList.read_of_agreeOff {W : Set Location} {fs fs' : FileSystem} {fileList : Path}
    {shaders : List Path} (hagree : AgreeOff W fs fs') (hmiss : fs.Misses W fileList)
    (h : FileList.read fs fileList = .ok shaders) : FileList.read fs' fileList = .ok shaders := by
  obtain ⟨hsome, loc, text, hread, hnames⟩ := FileList.read_eq_ok.mp h
  exact FileList.read_eq_ok.mpr ⟨hsome, loc, text, (hagree.readTextAt_iff hmiss).mpr hread, hnames⟩

namespace Batch

variable {options : Options} {ids : BuildIds} {fs fs' s : FileSystem} {shader fileList : Path}
  {shaders rest : List Path} {progress : Progress} {W : Set Location}

/-! ## Paths -/

/-- The paths that a batch may write to. -/
inductive Output (options : Options) (fileList : Path) (shaders : List Path) : Path → Prop where
  | header {shader : Path} {stage : Stage} {name : String} (hlisted : shader ∈ shaders)
      (hidentified : identify shader options.model = .ok (stage, name)) :
      Output options fileList shaders ((includeDirectory options shader).child (name ++ ".inc"))
  | manifest : Output options fileList shaders (WorkManifest.path fileList)

/-- **The paths that a batch writes to** when it goes through some shaders, starting in a file system and
    with some progress. -/
inductive Writes (options : Options) (ids : BuildIds) (fileList : Path) :
    FileSystem → List Path → Progress → Path → Prop where
  /-- The header of the next shader, if the shader is stale. -/
  | header {fs : FileSystem} {shader : Path} {rest : List Path} {progress : Progress}
      {unit : ShaderUnit} {content : String} (hbuilds : Builds options ids fs shader unit content) :
      Writes options ids fileList fs (shader :: rest) progress
        (Header.path unit (includeDirectory options shader))
  /-- What is written later, if the batch gets past the next shader. -/
  | later {fs fs' : FileSystem} {shader p : Path} {rest : List Path} {progress progress' : Progress}
      (hstep : step options ids progress shader fs = (.ok progress', fs'))
      (hrest : Writes options ids fileList fs' rest progress' p) :
      Writes options ids fileList fs (shader :: rest) progress p
  /-- The manifest, if there is work. -/
  | manifest {fs : FileSystem} {progress : Progress} (hwork : progress.work.isEmpty = false) :
      Writes options ids fileList fs [] progress (WorkManifest.path fileList)

theorem Output.of_mem_cons {p : Path} (h : Output options fileList rest p) :
    Output options fileList (shader :: rest) p := by
  cases h with
  | header hlisted hidentified => exact .header (List.mem_cons_of_mem _ hlisted) hidentified
  | manifest => exact .manifest

theorem Writes.output {p : Path} (h : Writes options ids fileList fs shaders progress p) :
    Output options fileList shaders p := by
  induction h with
  | header hbuilds => exact .header List.mem_cons_self hbuilds.identified
  | later _ _ ih => exact ih.of_mem_cons
  | manifest => exact .manifest

/-- The places that a batch may write to. -/
def outputPlaces (options : Options) (fs : FileSystem) (fileList : Path) (shaders : List Path) :
    Set Location :=
  {loc | ∃ p, Output options fileList shaders p ∧ fs.place p = .ok loc}

theorem mem_outputPlaces_of_put? (hshader : shader ∈ shaders) {loc : Location} {node : Node}
    (hput : (judge options ids fs shader).put? = some (loc, node)) :
    loc ∈ outputPlaces options fs fileList shaders := by
  obtain ⟨unit, content, hbuilds, hplace, -⟩ := builds_of_put? hput
  exact ⟨_, .header hshader hbuilds.identified, hplace⟩

/-- The places that a batch may write to, one after another. -/
def outputLocations (options : Options) (fs : FileSystem) (fileList : Path) (shaders : List Path) :
    List Location :=
  shaders.filterMap (fun shader => do
    let (_, name) ← (identify shader options.model).toOption
    (fs.place ((includeDirectory options shader).child (name ++ ".inc"))).toOption)
  ++ (fs.place (WorkManifest.path fileList)).toOption.toList

theorem mem_outputLocations {loc : Location} (h : loc ∈ outputPlaces options fs fileList shaders) :
    loc ∈ outputLocations options fs fileList shaders := by
  obtain ⟨p, houtput, hplace⟩ := h
  unfold outputLocations
  rw [List.mem_append]
  cases houtput with
  | header hlisted hidentified =>
      refine Or.inl (List.mem_filterMap.mpr ⟨_, hlisted, ?_⟩)
      rw [hidentified]
      show (fs.place _).toOption = some loc
      rw [hplace]
      rfl
  | manifest =>
      rw [hplace]
      exact Or.inr (List.mem_singleton.mpr rfl)

/-! ## The course of a run -/

/-- What is left of a run when some shaders are left. -/
def goOn (options : Options) (ids : BuildIds) (fileList : Path) (shaders : List Path)
    (progress : Progress) : Action Summary :=
  shaders.foldlM (step options ids) progress >>= finish fileList

theorem goOn_nil : goOn options ids fileList [] progress fs = finish fileList progress fs :=
  rfl

/-- **A run acts on the first shader** and goes on with the others unless it has failed. -/
theorem goOn_cons (hdirectory : fs.isDirectoryAt (includeDirectory options shader) = true) :
    goOn options ids fileList (shader :: rest) progress fs =
      match (judge options ids fs shader).outcome options progress with
      | .ok progress' =>
        goOn options ids fileList rest progress' ((judge options ids fs shader).change fs)
      | .error e => (.error e, (judge options ids fs shader).change fs) := by
  have hstep : step options ids progress shader fs = _ := step_eq hdirectory
  unfold goOn
  rw [List.foldlM_cons, bind_assoc]
  cases houtcome : (judge options ids fs shader).outcome options progress with
  | error e =>
      rw [houtcome] at hstep
      exact Action.bind_of_error hstep _
  | ok progress' =>
      rw [houtcome] at hstep
      exact Action.bind_of_ok hstep _

/-- What a batch reports that has come to its end. -/
def Progress.summary (progress : Progress) (manifest : Option Path) : Summary :=
  ⟨progress.processed, progress.upToDate, progress.headers, manifest⟩

/-- The location at which the manifest is put in the end, if there is work. -/
def manifestPlace (fs : FileSystem) (fileList : Path) (progress : Progress) : Attempt (Option Location) :=
  if progress.work.isEmpty then .ok none
  else
    match fs.place (WorkManifest.path fileList) with
    | .error e => .error ⟨[.writeManifest (WorkManifest.path fileList)], .file e⟩
    | .ok loc =>
      if fs.isDirectory loc then
        .error ⟨[.writeManifest (WorkManifest.path fileList)], .file .isADirectory⟩
      else .ok (some loc)

theorem manifestPlace_eq_some {loc : Location} (h : manifestPlace fs fileList progress = .ok (some loc)) :
    progress.work.isEmpty = false ∧ fs.place (WorkManifest.path fileList) = .ok loc ∧
      fs.isDirectory loc = false := by
  unfold manifestPlace at h
  split at h
  · cases h
  · next hwork =>
    cases hplace : fs.place (WorkManifest.path fileList) with
    | error e =>
        rw [hplace] at h
        cases h
    | ok found =>
        rw [hplace] at h
        simp only at h
        split at h
        · cases h
        · next hdir =>
          cases h
          exact ⟨Bool.eq_false_iff.mpr hwork, rfl, Bool.eq_false_iff.mpr hdir⟩

theorem manifestPlace_of_agreeOff (hagree : AgreeOff W fs fs') {put : Option Location}
    (h : manifestPlace fs fileList progress = .ok put) :
    manifestPlace fs' fileList progress = .ok put := by
  unfold manifestPlace at h ⊢
  split at h
  · next hwork => rw [if_pos hwork, h]
  · next hwork =>
    rw [if_neg hwork]
    cases hplace : fs.place (WorkManifest.path fileList) with
    | error e =>
        rw [hplace] at h
        cases h
    | ok loc =>
        rw [hplace] at h
        simp only [hagree.place hplace, hagree.isDirectory]
        exact h

theorem manifestPlace_of_same (hsame : Same fs fs') :
    manifestPlace fs' fileList progress = manifestPlace fs fileList progress := by
  unfold manifestPlace
  simp only [hsame.place, hsame.isDirectory]

/-- **The end of a run**, whether it succeeds or fails. -/
theorem finish_eq :
    finish fileList progress fs =
      match manifestPlace fs fileList progress with
      | .error e => (.error e, fs)
      | .ok none => (.ok (progress.summary none), fs)
      | .ok (some loc) =>
        (.ok (progress.summary (some (WorkManifest.path fileList))),
          fs.put loc (.file progress.work.toJson.toUTF8 (fs.writtenMode loc))) := by
  unfold manifestPlace
  cases hwork : progress.work.isEmpty with
  | true => exact finish_eq_ok.mpr (Or.inl ⟨hwork, rfl, rfl⟩)
  | false =>
      have hwrite : fs.write (WorkManifest.path fileList) progress.work.toJson.toUTF8 = _ := write_eq _
      have hfails {e : FileError} (h : fs.write (WorkManifest.path fileList)
          progress.work.toJson.toUTF8 = .error e) : finish fileList progress fs
            = (.error ⟨[.writeManifest (WorkManifest.path fileList)], .file e⟩, fs) := by
        have hchange : progress.work.write (WorkManifest.path fileList) fs
            = (.error ⟨[.writeManifest (WorkManifest.path fileList)], .file e⟩, fs) :=
          Action.change_of_error h
        unfold finish
        simp only [hwork, Bool.false_eq_true, if_false]
        exact Action.bind_of_error hchange _
      rw [if_neg Bool.false_ne_true]
      cases hplace : fs.place (WorkManifest.path fileList) with
      | error e =>
          rw [hplace] at hwrite
          exact hfails hwrite
      | ok loc =>
          rw [hplace] at hwrite
          simp only [bind, Except.bind] at hwrite ⊢
          split at hwrite
          · next hdir =>
            rw [if_pos hdir]
            exact hfails hwrite
          · next hdir =>
            rw [if_neg hdir]
            exact finish_eq_ok.mpr (Or.inr ⟨hwork, hwrite, rfl⟩)

/-- The list of a batch with the shaders that it names. -/
structure Lists (options : Options) (fs : FileSystem) (fileList : Path) (shaders : List Path) : Prop where
  located : locate fs options.fileList = .ok fileList
  read : FileList.read fs fileList = .ok shaders

/-- A batch has one list, and the list names the shaders that it names. -/
theorem Lists.unique {fileList' : Path} {shaders' : List Path} (h : Lists options fs fileList shaders)
    (h' : Lists options fs fileList' shaders') : fileList = fileList' ∧ shaders = shaders' := by
  obtain rfl : fileList = fileList' := Except.ok.inj (h.located.symm.trans h'.located)
  exact ⟨rfl, Except.ok.inj (h.read.symm.trans h'.read)⟩

/-- **The start of a run.** It finds its list, or it ends and nothing has changed. -/
theorem run_of_lists (h : Lists options fs fileList shaders) :
    run options ids fs = goOn options ids fileList shaders {} fs := by
  unfold run
  rw [Action.bind_of_ok (Action.query_eq_ok.mpr ⟨h.located, rfl⟩)]
  exact Action.bind_of_ok (Action.query_eq_ok.mpr ⟨h.read, rfl⟩) _

theorem run_of_not_lists (h : ∀ fileList shaders, ¬ Lists options fs fileList shaders) :
    ∃ e, run options ids fs = (.error e, fs) := by
  unfold run
  cases hlocate : locate fs options.fileList with
  | error e =>
      exact ⟨e, Action.bind_of_error (Action.query_of_error hlocate) _⟩
  | ok fileList =>
      cases hread : FileList.read fs fileList with
      | error e =>
          refine ⟨e, (Action.bind_of_ok (Action.query_eq_ok.mpr ⟨hlocate, rfl⟩) _).trans ?_⟩
          exact Action.bind_of_error (Action.query_of_error hread) _
      | ok shaders => exact absurd ⟨hlocate, hread⟩ (h fileList shaders)

/-! ## Verdicts in a row -/

/-- Whether a batch goes on after a verdict. -/
def Verdict.passes : Verdict → Bool
  | .current => true
  | .writes .. => true
  | .blocked .. => false
  | .fails _ => false

/-- The progress after a verdict with which a batch goes on. -/
def Verdict.note (options : Options) (progress : Progress) : Verdict → Progress
  | .current => progress.skip
  | .writes unit header _ _ => Progress.note progress options unit header
  | .blocked .. => progress
  | .fails _ => progress

theorem outcome_of_passes {verdict : Verdict} (h : verdict.passes = true) :
    verdict.outcome options progress = .ok (verdict.note options progress) := by
  cases verdict with
  | current => rfl
  | writes => rfl
  | blocked => cases h
  | fails => cases h

theorem outcome_of_not_passes {verdict : Verdict} (h : verdict.passes = false) :
    ∃ e, verdict.outcome options progress = .error e := by
  cases verdict with
  | current => cases h
  | writes => cases h
  | blocked => exact ⟨_, rfl⟩
  | fails => exact ⟨_, rfl⟩

theorem judge_of_passes (h : Unaffected options ids fs W shader) (hagree : AgreeOff W fs s)
    (hpass : (judge options ids fs shader).passes = true) :
    judge options ids s shader = judge options ids fs shader := by
  refine judge_of_agreeOff h hagree fun e hfails => ?_
  rw [hfails] at hpass
  cases hpass

/-- Whether a batch goes on after a shader does not hang on what is written. -/
theorem passes_of_agreeOff (h : Unaffected options ids fs W shader) (hagree : AgreeOff W fs s) :
    (judge options ids s shader).passes = (judge options ids fs shader).passes := by
  cases hpass : (judge options ids fs shader).passes with
  | true => rw [judge_of_passes h hagree hpass, hpass]
  | false =>
      rw [Bool.eq_false_iff]
      intro hpass'
      rw [judge_of_passes (h.of_agreeOff hagree) hagree.symm hpass', hpass'] at hpass
      cases hpass

section

variable (hunaffected : ∀ shader ∈ shaders, Unaffected options ids fs W shader)
  (hputs : ∀ shader ∈ shaders, ∀ loc node, (judge options ids fs shader).put? = some (loc, node) →
    loc ∈ W)

include hunaffected hputs

/-- **A batch that nothing stops** does what was decided about its shaders in the beginning. -/
theorem goOn_of_passes (hagree : AgreeOff W fs s)
    (hpass : ∀ shader ∈ shaders, (judge options ids fs shader).passes = true) :
    goOn options ids fileList shaders progress s =
      finish fileList ((shaders.map (judge options ids fs)).foldl (Verdict.note options) progress)
        (s.putAll ((shaders.map (judge options ids fs)).filterMap Verdict.put?)) := by
  induction shaders generalizing progress s with
  | nil => rfl
  | cons shader rest ih =>
      obtain ⟨hfirst, hrest⟩ := List.forall_mem_cons.mp hunaffected
      obtain ⟨hput, hputs⟩ := List.forall_mem_cons.mp hputs
      obtain ⟨hpass, hpasses⟩ := List.forall_mem_cons.mp hpass
      have hverdict := judge_of_passes hfirst hagree hpass
      have hs : AgreeOff W s ((judge options ids fs shader).change s) := by
        rw [← hverdict] at hput ⊢
        exact agreeOff_change hput
      rw [goOn_cons (hagree.isDirectoryAt hfirst.directory), hverdict, outcome_of_passes hpass]
      refine (ih hrest hputs (hagree.trans hs) hpasses).trans ?_
      have hsplit : (judge options ids fs shader :: rest.map (judge options ids fs)).filterMap Verdict.put?
          = (judge options ids fs shader).put?.toList
            ++ (rest.map (judge options ids fs)).filterMap Verdict.put? := by
        rw [List.filterMap_cons]
        cases (judge options ids fs shader).put? <;> rfl
      rw [List.map_cons, hsplit, putAll_append, List.foldl_cons]
      rfl

/-- **A batch that something stops** fails, wherever in the list that is. -/
theorem goOn_of_not_passes (hagree : AgreeOff W fs s)
    (hstop : ∃ shader ∈ shaders, (judge options ids fs shader).passes = false) :
    ∃ e F, goOn options ids fileList shaders progress s = (.error e, F) := by
  induction shaders generalizing progress s with
  | nil =>
      obtain ⟨shader, hmem, -⟩ := hstop
      cases hmem
  | cons shader rest ih =>
      obtain ⟨hfirst, hrest⟩ := List.forall_mem_cons.mp hunaffected
      obtain ⟨hput, hputs⟩ := List.forall_mem_cons.mp hputs
      rw [goOn_cons (hagree.isDirectoryAt hfirst.directory)]
      cases hpass : (judge options ids fs shader).passes with
      | false =>
          rw [← passes_of_agreeOff hfirst hagree] at hpass
          obtain ⟨e, he⟩ := outcome_of_not_passes hpass
          rw [he]
          exact ⟨e, _, rfl⟩
      | true =>
          have hverdict := judge_of_passes hfirst hagree hpass
          have hs : AgreeOff W s ((judge options ids fs shader).change s) := by
            rw [← hverdict] at hput ⊢
            exact agreeOff_change hput
          rw [hverdict, outcome_of_passes hpass]
          refine ih hrest hputs (hagree.trans hs) ?_
          obtain ⟨other, hother, hfails⟩ := hstop
          rcases List.mem_cons.mp hother with rfl | hother
          · rw [hpass] at hfails
            cases hfails
          · exact ⟨other, hother, hfails⟩

end

end Batch

end ShaderCombos
