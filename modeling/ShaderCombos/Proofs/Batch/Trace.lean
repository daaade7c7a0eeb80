import ShaderCombos.Batch
import ShaderCombos.Proofs.Units

/-!
# `Proofs.Batch.Trace` — the course of a batch

A batch looks at every shader when its turn comes, in the file system that the shaders before it have
left behind. `Trace` records that course apart from the monad that runs it: which shaders were found
stale, which units were read for them, and how the file system went from one shader to the next. The
shaders of a list are gone through exactly if there is a trace (`foldlM_step_eq_ok`), and all that a run
reports is a function of it (`run_eq_ok`).

## Contents
- **One shader.** `step_eq_ok`: a step either finds the shader up to date and changes nothing, or reads
  it, writes its header and notes its work.
- **All shaders.** `Trace`, `Reports` and `foldlM_step_eq_ok`.
- **The whole run.** `finish_eq_ok`, `run_eq_ok`.
-/

namespace ShaderCombos

namespace Batch

variable {options : Options} {ids : BuildIds} {fs fs' : FileSystem}

/-! ## One shader -/

/-- The progress after a shader that is up to date. -/
def Progress.skip (progress : Progress) : Progress :=
  { progress with processed := progress.processed + 1, upToDate := progress.upToDate + 1 }

/-- The progress after a stale shader. -/
def Progress.note (progress : Progress) (options : Options) (unit : ShaderUnit) (header : Path) :
    Progress where
  processed := progress.processed + 1
  upToDate := progress.upToDate
  headers := progress.headers ++ [header]
  work := if options.headersOnly then progress.work else progress.work.insert unit

/-- The shader is up to date when it is looked at. -/
def Skips (options : Options) (ids : BuildIds) (fs : FileSystem) (shader : Path) : Prop :=
  ∃ stage name, identify shader options.model = .ok (stage, name) ∧
    options.config.artifacts.isCurrent ids fs shader name = true

/-- The shader is stale when it is looked at, its source is read into a unit, and the unit's header is
    written. -/
structure Prepares (options : Options) (ids : BuildIds) (fs : FileSystem) (shader : Path)
    (unit : ShaderUnit) (header : Path) (fs' : FileSystem) : Prop where
  identified : identify shader options.model = .ok (unit.stage, unit.name)
  stale : options.config.artifacts.isCurrent ids fs shader unit.name = false
  read : ShaderUnit.ofFile fs shader unit.name unit.stage options.model = .ok unit
  written : Header.write unit (shader.directory.join options.config.includeDirectory) fs
    = (.ok header, fs')

/-- What `prepare` does when it succeeds. -/
theorem prepare_eq_ok {shader directory : Path} {model : ShaderModel} {unit : ShaderUnit}
    {header : Path} :
    prepare shader model directory fs = (.ok (unit, header), fs') ↔
      identify shader model = .ok (unit.stage, unit.name) ∧
        ShaderUnit.ofFile fs shader unit.name unit.stage model = .ok unit ∧
          Header.write unit (shader.directory.join directory) fs = (.ok header, fs') := by
  unfold prepare
  rw [Action.bind_eq_ok]
  constructor
  · rintro ⟨⟨stage, name⟩, fs₁, hfirst, hrest⟩
    obtain ⟨hname, rfl⟩ := Action.query_eq_ok.mp hfirst
    obtain ⟨u, fs₂, hsecond, hthird⟩ := Action.bind_eq_ok.mp hrest
    obtain ⟨hfaulty, rfl⟩ := Action.query_eq_ok.mp hsecond
    have hunit := Attempt.ofFaulty_eq_ok.mp hfaulty
    obtain ⟨written, fs₃, hwrite, hlast⟩ := Action.bind_eq_ok.mp hthird
    obtain ⟨heq, rfl⟩ := Action.pure_eq_ok.mp hlast
    cases heq
    -- The unit bears the stage and the name that it was read for.
    obtain ⟨source, found, -, -, hu⟩ := ShaderUnit.ofFile_eq_ok.mp hunit
    have hstage : unit.stage = stage := by rw [hu]
    have hn : unit.name = name := by rw [hu]
    rw [hstage, hn]
    exact ⟨hname, hunit, hwrite⟩
  · rintro ⟨hname, hunit, hwrite⟩
    refine ⟨(unit.stage, unit.name), fs, Action.query_eq_ok.mpr ⟨hname, rfl⟩, ?_⟩
    refine Action.bind_eq_ok.mpr ⟨unit, fs, Action.query_eq_ok.mpr ⟨?_, rfl⟩, ?_⟩
    · exact Attempt.ofFaulty_eq_ok.mpr hunit
    · exact Action.bind_eq_ok.mpr ⟨header, fs', hwrite, Action.pure_eq_ok.mpr ⟨rfl, rfl⟩⟩

/-- **One step of a batch.** It finds the shader up to date and leaves all as it is, or it prepares the
    shader. -/
theorem step_eq_ok {progress progress' : Progress} {shader : Path} :
    step options ids progress shader fs = (.ok progress', fs') ↔
      (Skips options ids fs shader ∧ fs = fs' ∧ progress' = progress.skip) ∨
      ∃ unit header, Prepares options ids fs shader unit header fs' ∧
        progress' = progress.note options unit header := by
  unfold step
  rw [Action.bind_eq_ok]
  constructor
  · rintro ⟨current, fs₁, hfirst, h⟩
    obtain ⟨hquery, rfl⟩ := Action.query_eq_ok.mp hfirst
    obtain ⟨⟨stage, name⟩, hname, hanswer⟩ := except_bind_eq_ok.mp hquery
    cases hanswer
    cases hcurrent : options.config.artifacts.isCurrent ids fs shader name with
    | true =>
        rw [hcurrent] at h
        obtain ⟨rfl, rfl⟩ := Action.pure_eq_ok.mp h
        exact Or.inl ⟨⟨stage, name, hname, hcurrent⟩, rfl, rfl⟩
    | false =>
        rw [hcurrent] at h
        obtain ⟨⟨unit, header⟩, fs₂, hprepare, h⟩ := Action.bind_eq_ok.mp h
        obtain ⟨rfl, rfl⟩ := Action.pure_eq_ok.mp h
        obtain ⟨hunit, hread, hwrite⟩ := prepare_eq_ok.mp hprepare
        -- Both the question and the preparation ask the path, so they agree on stage and name.
        have heq : (stage, name) = (unit.stage, unit.name) := Except.ok.inj (hname.symm.trans hunit)
        cases heq
        exact Or.inr ⟨unit, header, ⟨hunit, hcurrent, hread, hwrite⟩, rfl⟩
  · rintro (⟨⟨stage, name, hname, hcurrent⟩, rfl, rfl⟩ | ⟨unit, header, hprepares, rfl⟩)
    · refine ⟨true, fs, Action.query_eq_ok.mpr ⟨?_, rfl⟩, Action.pure_eq_ok.mpr ⟨rfl, rfl⟩⟩
      exact except_bind_eq_ok.mpr ⟨(stage, name), hname, congrArg Except.ok hcurrent⟩
    · refine ⟨false, fs, Action.query_eq_ok.mpr ⟨?_, rfl⟩, Action.bind_eq_ok.mpr ?_⟩
      · exact except_bind_eq_ok.mpr
          ⟨(unit.stage, unit.name), hprepares.identified, congrArg Except.ok hprepares.stale⟩
      · exact ⟨(unit, header), fs',
          prepare_eq_ok.mpr ⟨hprepares.identified, hprepares.read, hprepares.written⟩,
          Action.pure_eq_ok.mpr ⟨rfl, rfl⟩⟩

/-! ## All shaders -/

/-- What a batch records of a stale shader: its path, where its source lies, the unit that was read and
    the header that was written for it. -/
structure Stale where
  path : Path
  location : Location
  unit : ShaderUnit
  header : Path

/-- **The course of a batch**: shaders are gone through in order, starting in one file system and ending
    in another, and some of them are found stale on the way. -/
inductive Trace (options : Options) (ids : BuildIds) :
    FileSystem → List Path → List Stale → FileSystem → Prop where
  | done {fs : FileSystem} : Trace options ids fs [] [] fs
  | skip {fs fs' : FileSystem} {shader : Path} {rest : List Path} {stale : List Stale}
      (hskips : Skips options ids fs shader) (hrest : Trace options ids fs rest stale fs') :
      Trace options ids fs (shader :: rest) stale fs'
  | prepare {fs fs₁ fs' : FileSystem} {shader header : Path} {rest : List Path} {stale : List Stale}
      {location : Location} {text : String} {unit : ShaderUnit}
      (hread : fs.readTextAt shader = .ok (location, text))
      (hprepares : Prepares options ids fs shader unit header fs₁)
      (hrest : Trace options ids fs₁ rest stale fs') :
      Trace options ids fs (shader :: rest) (⟨shader, location, unit, header⟩ :: stale) fs'

/-- What the progress of a batch tells of its course so far. -/
structure Reports (options : Options) (before : Progress) (shaders : List Path) (stale : List Stale)
    (after : Progress) : Prop where
  processed : after.processed = before.processed + shaders.length
  upToDate : after.upToDate + stale.length = before.upToDate + shaders.length
  headers : after.headers = before.headers ++ stale.map Stale.header
  work : after.work = if options.headersOnly then before.work
    else (stale.map Stale.unit).foldl WorkManifest.insert before.work

/-- Where there are no shaders, nothing is reported. -/
theorem reports_nil {before after : Progress} :
    Reports options before [] [] after ↔ after = before := by
  constructor
  · rintro ⟨hprocessed, hupToDate, hheaders, hwork⟩
    obtain ⟨processed, upToDate, headers, work⟩ := after
    simp only [List.length_nil, Nat.add_zero, List.map_nil, List.append_nil, List.foldl_nil, ite_self]
      at hprocessed hupToDate hheaders hwork
    subst hprocessed hupToDate hheaders hwork
    rfl
  · rintro rfl
    exact ⟨rfl, rfl, by simp, by simp⟩

/-- What is reported of a batch that starts with a shader that is up to date. -/
theorem reports_skip {before after : Progress} {shader : Path} {rest : List Path}
    {stale : List Stale} :
    Reports options before (shader :: rest) stale after ↔
      Reports options before.skip rest stale after := by
  have hprocessed : before.skip.processed = before.processed + 1 := rfl
  have hupToDate : before.skip.upToDate = before.upToDate + 1 := rfl
  constructor
  · rintro ⟨hp, hu, hheaders, hwork⟩
    rw [List.length_cons] at hp hu
    exact ⟨by omega, by omega, hheaders, hwork⟩
  · rintro ⟨hp, hu, hheaders, hwork⟩
    refine ⟨?_, ?_, hheaders, hwork⟩
    · rw [List.length_cons]
      omega
    · rw [List.length_cons]
      omega

/-- What is reported of a batch that starts with a stale shader. -/
theorem reports_note {before after : Progress} {shader : Path} {rest : List Path} {e : Stale}
    {stale : List Stale} :
    Reports options before (shader :: rest) (e :: stale) after ↔
      Reports options (before.note options e.unit e.header) rest stale after := by
  have hprocessed : (before.note options e.unit e.header).processed = before.processed + 1 := rfl
  have hupToDate : (before.note options e.unit e.header).upToDate = before.upToDate := rfl
  have hheaders : (before.note options e.unit e.header).headers ++ stale.map Stale.header
      = before.headers ++ (e :: stale).map Stale.header := by
    show (before.headers ++ [e.header]) ++ stale.map Stale.header = _
    rw [List.append_assoc]
    rfl
  have hwork : (if options.headersOnly then (before.note options e.unit e.header).work
      else (stale.map Stale.unit).foldl WorkManifest.insert
        (before.note options e.unit e.header).work)
      = if options.headersOnly then before.work
        else ((e :: stale).map Stale.unit).foldl WorkManifest.insert before.work := by
    -- With headers alone no work is noted; otherwise the first unit goes in before the others.
    unfold Progress.note
    cases options.headersOnly with
    | true => rfl
    | false => rfl
  constructor
  · rintro ⟨hp, hu, hh, hw⟩
    rw [List.length_cons] at hp hu
    rw [List.length_cons] at hu
    exact ⟨by omega, by omega, hh.trans hheaders.symm, hw.trans hwork.symm⟩
  · rintro ⟨hp, hu, hh, hw⟩
    refine ⟨?_, ?_, hh.trans hheaders, hw.trans hwork⟩
    · rw [List.length_cons]
      omega
    · rw [List.length_cons, List.length_cons]
      omega

/-- **A batch goes through exactly if it has a trace**, and its progress tells of the trace. Both ways by
    induction, on the shaders and on the trace, with one `step_eq_ok` for each shader. -/
theorem foldlM_step_eq_ok {shaders : List Path} {progress progress' : Progress} :
    (shaders.foldlM (step options ids) progress : Action Progress) fs = (.ok progress', fs') ↔
      ∃ stale, Trace options ids fs shaders stale fs' ∧
        Reports options progress shaders stale progress' := by
  constructor
  · intro h
    induction shaders generalizing progress fs with
    | nil =>
        obtain ⟨rfl, rfl⟩ := Action.pure_eq_ok.mp h
        exact ⟨[], .done, reports_nil.mpr rfl⟩
    | cons shader rest ih =>
        rw [List.foldlM_cons] at h
        obtain ⟨next, fs₁, hstep, hrest⟩ := Action.bind_eq_ok.mp h
        obtain ⟨stale, htrace, hreports⟩ := ih hrest
        rcases step_eq_ok.mp hstep with ⟨hskips, rfl, rfl⟩ | ⟨unit, header, hprepares, rfl⟩
        · exact ⟨stale, .skip hskips htrace, reports_skip.mpr hreports⟩
        · -- The trace also says where the source lies, and the unit was read from there.
          obtain ⟨source, -, hsource, -, -⟩ := ShaderUnit.ofFile_eq_ok.mp hprepares.read
          obtain ⟨location, text, hread⟩ := Source.readTextAt_of_assemble hsource
          exact ⟨⟨shader, location, unit, header⟩ :: stale, .prepare hread hprepares htrace,
            reports_note.mpr hreports⟩
  · rintro ⟨stale, htrace, hreports⟩
    induction htrace generalizing progress with
    | done =>
        exact Action.pure_eq_ok.mpr ⟨(reports_nil.mp hreports).symm, rfl⟩
    | skip hskips _ ih =>
        rw [List.foldlM_cons]
        exact Action.bind_eq_ok.mpr ⟨_, _, step_eq_ok.mpr (Or.inl ⟨hskips, rfl, rfl⟩),
          ih (reports_skip.mp hreports)⟩
    | prepare _ hprepares _ ih =>
        rw [List.foldlM_cons]
        exact Action.bind_eq_ok.mpr ⟨_, _, step_eq_ok.mpr (Or.inr ⟨_, _, hprepares, rfl⟩),
          ih (reports_note.mp hreports)⟩

/-! ## The whole run -/

/-- The compile work of stale shaders, noted in their order. -/
def workOf (stale : List Stale) : WorkManifest :=
  (stale.map Stale.unit).foldl WorkManifest.insert .empty

/-- **The end of a run.** Work is written to the manifest; where there is none, nothing is written. -/
theorem finish_eq_ok {fileList : Path} {progress : Progress} {summary : Summary} :
    finish fileList progress fs = (.ok summary, fs') ↔
      (progress.work.isEmpty = true ∧ fs = fs' ∧
        summary = ⟨progress.processed, progress.upToDate, progress.headers, none⟩) ∨
      (progress.work.isEmpty = false ∧
        fs.write (WorkManifest.path fileList) progress.work.toJson.toUTF8 = .ok fs' ∧
          summary = ⟨progress.processed, progress.upToDate, progress.headers,
            some (WorkManifest.path fileList)⟩) := by
  unfold finish
  cases progress.work.isEmpty with
  | true =>
      constructor
      · intro h
        obtain ⟨rfl, rfl⟩ := Action.pure_eq_ok.mp h
        exact Or.inl ⟨rfl, rfl, rfl⟩
      · rintro (⟨-, rfl, rfl⟩ | ⟨hfalse, -⟩)
        · exact Action.pure_eq_ok.mpr ⟨rfl, rfl⟩
        · cases hfalse
  | false =>
      constructor
      · intro h
        obtain ⟨u, fs₁, hwrite, hpure⟩ := Action.bind_eq_ok.mp h
        obtain ⟨rfl, rfl⟩ := Action.pure_eq_ok.mp hpure
        exact Or.inr ⟨rfl, Action.change_eq_ok.mp hwrite, rfl⟩
      · rintro (⟨htrue, -⟩ | ⟨-, hwrite, rfl⟩)
        · cases htrue
        · exact Action.bind_eq_ok.mpr
            ⟨(), fs', Action.change_eq_ok.mpr hwrite, Action.pure_eq_ok.mpr ⟨rfl, rfl⟩⟩

/-- **A run succeeds** exactly if it finds its file list, goes through the shaders of the list, and
    ends. -/
theorem run_eq_ok {summary : Summary} :
    run options ids fs = (.ok summary, fs') ↔
      ∃ fileList shaders stale progress fs₁, locate fs options.fileList = .ok fileList ∧
        FileList.read fs fileList = .ok shaders ∧ Trace options ids fs shaders stale fs₁ ∧
          Reports options {} shaders stale progress ∧
            finish fileList progress fs₁ = (.ok summary, fs') := by
  constructor
  · intro h
    obtain ⟨fileList, fs₁, hlocate, h⟩ := Action.bind_eq_ok.mp h
    obtain ⟨hlist, rfl⟩ := Action.query_eq_ok.mp hlocate
    obtain ⟨shaders, fs₂, hquery, hrun⟩ := Action.bind_eq_ok.mp h
    obtain ⟨hshaders, rfl⟩ := Action.query_eq_ok.mp hquery
    obtain ⟨progress, fs₃, hfold, hfinish⟩ := Action.bind_eq_ok.mp hrun
    obtain ⟨stale, htrace, hreports⟩ := foldlM_step_eq_ok.mp hfold
    exact ⟨fileList, shaders, stale, progress, fs₃, hlist, hshaders, htrace, hreports, hfinish⟩
  · rintro ⟨fileList, shaders, stale, progress, fs₁, hlist, hshaders, htrace, hreports, hfinish⟩
    have hfold := foldlM_step_eq_ok.mpr ⟨stale, htrace, hreports⟩
    refine Action.bind_eq_ok.mpr ⟨fileList, fs, Action.query_eq_ok.mpr ⟨hlist, rfl⟩, ?_⟩
    refine Action.bind_eq_ok.mpr ⟨shaders, fs, Action.query_eq_ok.mpr ⟨hshaders, rfl⟩, ?_⟩
    exact Action.bind_eq_ok.mpr ⟨progress, fs₁, hfold, hfinish⟩

end Batch

end ShaderCombos
