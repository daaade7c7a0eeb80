import ShaderCombos.Proofs.Batch.Trace
import ShaderCombos.Proofs.Header.Writing
import ShaderCombos.Proofs.Source.Agreement

/-!
# `Proofs.Batch.Verdict` — what is decided about a shader

When the turn of a shader comes, the batch first looks and then acts. All that it looks at is gathered in a
verdict (`judge`), a function of the file system that changes nothing; where the include directory of the
shader is there, a step does what the verdict says and no more (`step_eq`).

A verdict rests on the source of the shader, on what was compiled from it, on its identifier and on the
directories. A shader that has these apart from some locations (`Unaffected`) keeps its verdict while files
come and change there (`judge_of_agreeOff`). A shader that fails still fails then, but perhaps for another cause;
where the same stands everywhere, the cause is the same as well (`judge_of_same`).

## Contents
- **Verdicts.** `Verdict`, `judge`, what comes of a verdict and `step_eq`.
- **What a verdict rests on.** `Unaffected`, `isCurrent_eq`, `judge_of_agreeOff`, `judge_of_same`.
- **What a verdict changes.** `Builds`, `judge_cases`, `builds_of_put?`, `agreeOff_change`.
-/

namespace ShaderCombos

open FileSystem

/-! ## Identifiers in compiled files -/

section

variable {W : Set Location} {fs fs' : FileSystem} {p : Path} {offset : Nat} {id : UInt32}

theorem embeddedId_iff (h : AgreeOff W fs fs') (hmiss : fs.Misses W p) :
    embeddedId fs' p offset = .ok id ↔ embeddedId fs p offset = .ok id := by
  unfold embeddedId
  rw [except_bind_eq_ok, except_bind_eq_ok]
  constructor
  · rintro ⟨found, hfind, hid⟩
    exact ⟨found, (h.find_iff hmiss).mp hfind, hid⟩
  · rintro ⟨found, hfind, hid⟩
    exact ⟨found, (h.find_iff hmiss).mpr hfind, hid⟩

theorem FileSystem.Same.embeddedId (h : Same fs fs') (p : Path) (offset : Nat) :
    ShaderCombos.embeddedId fs' p offset = ShaderCombos.embeddedId fs p offset := by
  unfold ShaderCombos.embeddedId
  rw [h.find]

/-- A shader is up to date exactly if both identifiers can be had and are one. -/
theorem ArtifactPlace.isCurrent_iff {place : ArtifactPlace} {ids : BuildIds} {source : Path}
    {name : String} : place.isCurrent ids fs source name = true ↔
      ∃ id, ShaderCombos.embeddedId fs (place.artifact source name) place.offset = .ok id ∧
        ids fs source = .ok id := by
  unfold isCurrent
  cases ShaderCombos.embeddedId fs (place.artifact source name) place.offset with
  | error e =>
      constructor
      · rintro ⟨⟩
      · rintro ⟨id, ⟨⟩, -⟩
  | ok stored =>
      cases ids fs source with
      | error e =>
          constructor
          · rintro ⟨⟩
          · rintro ⟨id, -, ⟨⟩⟩
      | ok current =>
          constructor
          · intro hsame
            exact ⟨stored, rfl, congrArg Except.ok (beq_iff_eq.mp hsame).symm⟩
          · rintro ⟨id, hstored, hcurrent⟩
            cases hstored
            cases hcurrent
            exact beq_self_eq_true _

end

namespace Batch

variable {options : Options} {ids : BuildIds} {fs fs' : FileSystem} {shader : Path}
  {progress : Progress} {W : Set Location}

/-! ## Verdicts -/

/-- What becomes of a shader when its turn comes. -/
inductive Verdict where
  /-- It is up to date. -/
  | current
  /-- It is stale, and this text is to be put in the place of its header. -/
  | writes (unit : ShaderUnit) (header : Path) (place : Location) (content : String)
  /-- It is stale, and a directory stands in the place of its header. -/
  | blocked (header : Path) (place : Location)
  /-- The batch ends here. -/
  | fails (failure : Failure)

/-- The directory that the header of a shader is written to. -/
def includeDirectory (options : Options) (shader : Path) : Path :=
  shader.directory.join options.config.includeDirectory

/-- The verdict on a stale shader whose unit has been read. -/
def judgeUnit (fs : FileSystem) (unit : ShaderUnit) (header : Path) : Verdict :=
  match Header.text unit with
  | .error e => .fails (e.within (.generateHeader unit.name))
  | .ok content =>
    match fs.place header with
    | .error e => .fails ⟨[.writeHeader header], .file e⟩
    | .ok loc => if fs.isDirectory loc then .blocked header loc else .writes unit header loc content

/-- The verdict on a shader. -/
def judge (options : Options) (ids : BuildIds) (fs : FileSystem) (shader : Path) : Verdict :=
  match identify shader options.model with
  | .error e => .fails e
  | .ok (stage, name) =>
    if options.config.artifacts.isCurrent ids fs shader name then .current
    else
      match ShaderUnit.ofFile fs shader name stage options.model with
      | .error f => .fails ⟨[.parseSource shader], .fault f⟩
      | .ok unit => judgeUnit fs unit (Header.path unit (includeDirectory options shader))

/-- What a verdict makes of the progress of a batch. -/
def Verdict.outcome (options : Options) (progress : Progress) : Verdict → Attempt Progress
  | .current => .ok progress.skip
  | .writes unit header _ _ => .ok (progress.note options unit header)
  | .blocked header _ => .error ⟨[.writeHeader header], .file .isADirectory⟩
  | .fails failure => .error failure

/-- What is put somewhere about a verdict. A directory in the place of a header gets the bits of a header
    that can be replaced. -/
def Verdict.put? : Verdict → Option (Location × Node)
  | .current => none
  | .writes _ _ loc content => some (loc, .file content.toUTF8 Header.finishedMode)
  | .blocked _ loc => some (loc, .directory Header.replaceableMode)
  | .fails _ => none

/-- The file system after something has been done about a verdict. -/
def Verdict.change (verdict : Verdict) (fs : FileSystem) : FileSystem :=
  fs.putAll verdict.put?.toList

/-- A name that a path tells has no slashes. -/
theorem slash_notMem_of_identify {model : ShaderModel} {stage : Stage} {name : String}
    (h : identify shader model = .ok (stage, name)) : '/' ∉ name.toList := by
  obtain ⟨stage', -, hname⟩ := except_bind_eq_ok.mp h
  cases hname
  exact Naming.slash_notMem_outputName shader (model.slash_notMem_versionFor stage)

/-- A unit bears the stage and the name that it is read for. -/
theorem identify_of_ofFile {name : String} {stage : Stage} {unit : ShaderUnit}
    (hidentified : identify shader options.model = .ok (stage, name))
    (hread : ShaderUnit.ofFile fs shader name stage options.model = .ok unit) :
    identify shader options.model = .ok (unit.stage, unit.name) := by
  obtain ⟨source, found, -, -, rfl⟩ := ShaderUnit.ofFile_eq_ok.mp hread
  exact hidentified

section

variable {stage : Stage} {name : String} (hidentified : identify shader options.model = .ok (stage, name))

include hidentified

/-- The question with which a step begins. -/
theorem query_isCurrent : (Action.query fun fs => do
    let (_, name) ← identify shader options.model
    .ok (options.config.artifacts.isCurrent ids fs shader name)) fs
      = (.ok (options.config.artifacts.isCurrent ids fs shader name), fs) := by
  unfold Action.query
  rw [hidentified]
  rfl

theorem step_of_current (hcurrent : options.config.artifacts.isCurrent ids fs shader name = true) :
    step options ids progress shader fs = (.ok progress.skip, fs) := by
  refine (Action.bind_of_ok (query_isCurrent hidentified) _).trans ?_
  rw [hcurrent]
  rfl

theorem step_of_unprepared {e : Failure}
    (hstale : options.config.artifacts.isCurrent ids fs shader name = false)
    (hprepare : prepare shader options.model options.config.includeDirectory fs = (.error e, fs')) :
    step options ids progress shader fs = (.error e, fs') := by
  refine (Action.bind_of_ok (query_isCurrent hidentified) _).trans ?_
  rw [hstale]
  exact Action.bind_of_error hprepare _

theorem prepare_of_unread {f : Fault}
    (hread : ShaderUnit.ofFile fs shader name stage options.model = .error f) :
    prepare shader options.model options.config.includeDirectory fs
      = (.error ⟨[.parseSource shader], .fault f⟩, fs) := by
  have hunit : Action.query (fun fs => Attempt.ofFaulty [.parseSource shader]
      (ShaderUnit.ofFile fs shader name stage options.model)) fs
        = (.error ⟨[.parseSource shader], .fault f⟩, fs) := by
    refine Action.query_of_error ?_
    rw [hread]
    rfl
  refine (Action.bind_of_ok (a := (stage, name)) (Action.query_eq_ok.mpr ⟨hidentified, rfl⟩) _).trans ?_
  exact Action.bind_of_error hunit _

theorem prepare_of_unwritten {e : Failure} {unit : ShaderUnit}
    (hread : ShaderUnit.ofFile fs shader name stage options.model = .ok unit)
    (hwrite : Header.write unit (includeDirectory options shader) fs = (.error e, fs')) :
    prepare shader options.model options.config.includeDirectory fs = (.error e, fs') := by
  refine (Action.bind_of_ok (a := (stage, name)) (Action.query_eq_ok.mpr ⟨hidentified, rfl⟩) _).trans ?_
  refine (Action.bind_of_ok (a := unit)
    (Action.query_eq_ok.mpr ⟨Attempt.ofFaulty_eq_ok.mpr hread, rfl⟩) _).trans ?_
  exact Action.bind_of_error hwrite _

end

theorem step_of_unidentified {e : Failure} (h : identify shader options.model = .error e) :
    step options ids progress shader fs = (.error e, fs) := by
  refine Action.bind_of_error (Action.query_of_error ?_) _
  rw [h]
  rfl

/-- **A step does what the verdict says**, where the include directory of the shader is there. -/
theorem step_eq (hdirectory : fs.isDirectoryAt (includeDirectory options shader) = true) :
    step options ids progress shader fs =
      ((judge options ids fs shader).outcome options progress,
        (judge options ids fs shader).change fs) := by
  unfold judge
  cases hidentified : identify shader options.model with
  | error e => exact step_of_unidentified hidentified
  | ok told =>
      obtain ⟨stage, name⟩ := told
      cases hcurrent : options.config.artifacts.isCurrent ids fs shader name with
      | true =>
          rw [step_of_current hidentified hcurrent]
          simp only [hcurrent, if_true]
          rfl
      | false =>
          simp only [hcurrent, Bool.false_eq_true, if_false]
          cases hread : ShaderUnit.ofFile fs shader name stage options.model with
          | error f => exact step_of_unprepared hidentified hcurrent (prepare_of_unread hidentified hread)
          | ok unit =>
              have hunit := identify_of_ofFile hidentified hread
              have hwrite := Header.write_eq (u := unit) hdirectory
              have hfails {e : Failure} {fs' : FileSystem}
                  (h : Header.write unit (includeDirectory options shader) fs = (.error e, fs')) :
                  step options ids progress shader fs = (.error e, fs') :=
                step_of_unprepared hidentified hcurrent (prepare_of_unwritten hidentified hread h)
              obtain ⟨rfl, rfl⟩ : stage = unit.stage ∧ name = unit.name := by
                simpa using hidentified.symm.trans hunit
              simp only [judgeUnit]
              cases htext : Header.text unit with
              | error e =>
                  rw [htext] at hwrite
                  exact hfails hwrite
              | ok content =>
                  rw [htext] at hwrite
                  cases hplace : fs.place (Header.path unit (includeDirectory options shader)) with
                  | error e =>
                      rw [hplace] at hwrite
                      exact hfails hwrite
                  | ok loc =>
                      rw [hplace] at hwrite
                      cases hdir : fs.isDirectory loc with
                      | true =>
                          simp only [hdir, if_true] at hwrite ⊢
                          exact hfails hwrite
                      | false =>
                          simp only [hdir, Bool.false_eq_true, if_false] at hwrite ⊢
                          exact step_eq_ok.mpr (Or.inr ⟨unit, _, ⟨hunit, hcurrent, hread, hwrite⟩, rfl⟩)

/-! ## What a verdict rests on -/

/-- **A shader is apart from some locations**: the directory of its header is there, and neither its source
    nor what was compiled from it nor its identifier is found at one of them. -/
structure Unaffected (options : Options) (ids : BuildIds) (fs : FileSystem) (W : Set Location)
    (shader : Path) : Prop where
  directory : fs.isDirectoryAt (includeDirectory options shader) = true
  source : Source.Misses fs W shader
  artifact : ∀ stage name, identify shader options.model = .ok (stage, name) →
    fs.Misses W (options.config.artifacts.artifact shader name)
  identifier : ∀ fs', AgreeOff W fs fs' → ∀ id, ids fs' shader = .ok id ↔ ids fs shader = .ok id

theorem Unaffected.of_agreeOff (h : Unaffected options ids fs W shader) (hagree : AgreeOff W fs fs') :
    Unaffected options ids fs' W shader where
  directory := hagree.isDirectoryAt h.directory
  source := Source.misses_of_agreeOff hagree h.source
  artifact stage name hidentified := hagree.misses_iff.mpr (h.artifact stage name hidentified)
  identifier fs₁ hagree₁ id :=
    (h.identifier fs₁ (hagree.trans hagree₁) id).trans (h.identifier fs' hagree id).symm

theorem Unaffected.mono {V : Set Location} (h : Unaffected options ids fs W shader) (hsub : V ⊆ W) :
    Unaffected options ids fs V shader where
  directory := h.directory
  source p hp := (h.source p hp).mono hsub
  artifact stage name hidentified := (h.artifact stage name hidentified).mono hsub
  identifier fs' hagree := h.identifier fs' (hagree.mono hsub)

/-- Whether a shader is up to date rests on two identifiers. -/
theorem isCurrent_eq {name : String}
    (hembedded : ∀ id, embeddedId fs' (options.config.artifacts.artifact shader name)
        options.config.artifacts.offset = .ok id ↔
      embeddedId fs (options.config.artifacts.artifact shader name)
        options.config.artifacts.offset = .ok id)
    (hids : ∀ id, ids fs' shader = .ok id ↔ ids fs shader = .ok id) :
    options.config.artifacts.isCurrent ids fs' shader name
      = options.config.artifacts.isCurrent ids fs shader name := by
  rw [Bool.eq_iff_iff, ArtifactPlace.isCurrent_iff, ArtifactPlace.isCurrent_iff]
  exact exists_congr fun id => and_congr (hembedded id) (hids id)

theorem judgeUnit_of_agreeOff (hagree : AgreeOff W fs fs') {unit : ShaderUnit} {header : Path}
    (hpass : ∀ e, judgeUnit fs unit header ≠ .fails e) :
    judgeUnit fs' unit header = judgeUnit fs unit header := by
  unfold judgeUnit at hpass ⊢
  cases htext : Header.text unit with
  | error e => rfl
  | ok content =>
      rw [htext] at hpass
      cases hplace : fs.place header with
      | error e =>
          rw [hplace] at hpass
          exact absurd rfl (hpass _)
      | ok loc => simp only [hagree.place hplace, hagree.isDirectory]

/-- **A verdict stands while files come and change elsewhere**, unless it is that the shader fails. -/
theorem judge_of_agreeOff (h : Unaffected options ids fs W shader) (hagree : AgreeOff W fs fs')
    (hpass : ∀ e, judge options ids fs shader ≠ .fails e) :
    judge options ids fs' shader = judge options ids fs shader := by
  unfold judge at hpass ⊢
  cases hidentified : identify shader options.model with
  | error e => rfl
  | ok told =>
      obtain ⟨stage, name⟩ := told
      have hcurrent : options.config.artifacts.isCurrent ids fs' shader name
          = options.config.artifacts.isCurrent ids fs shader name :=
        isCurrent_eq (fun id => embeddedId_iff hagree (h.artifact stage name hidentified))
          (h.identifier fs' hagree)
      rw [hidentified] at hpass
      simp only [hcurrent] at hpass ⊢
      split
      · rfl
      · next hstale =>
        rw [if_neg hstale] at hpass
        cases hread : ShaderUnit.ofFile fs shader name stage options.model with
        | error f =>
            rw [hread] at hpass
            exact absurd rfl (hpass _)
        | ok unit =>
            rw [hread] at hpass
            simp only [(ShaderUnit.ofFile_iff hagree h.source).mpr hread]
            exact judgeUnit_of_agreeOff hagree hpass

/-- Where the same stands everywhere, failures are the same as well. -/
theorem judge_of_same (hsame : Same fs fs')
    (hids : ∀ id, ids fs' shader = .ok id ↔ ids fs shader = .ok id) :
    judge options ids fs' shader = judge options ids fs shader := by
  have hcurrent (name : String) : options.config.artifacts.isCurrent ids fs' shader name
      = options.config.artifacts.isCurrent ids fs shader name :=
    isCurrent_eq (fun id => by rw [hsame.embeddedId]) hids
  unfold judge judgeUnit
  simp only [hcurrent, hsame.ofFile, hsame.place, hsame.isDirectory]

/-! ## What a verdict changes -/

/-- A shader is stale, and the text of a header was made from its source. -/
structure Builds (options : Options) (ids : BuildIds) (fs : FileSystem) (shader : Path)
    (unit : ShaderUnit) (content : String) : Prop where
  identified : identify shader options.model = .ok (unit.stage, unit.name)
  stale : options.config.artifacts.isCurrent ids fs shader unit.name = false
  read : ShaderUnit.ofFile fs shader unit.name unit.stage options.model = .ok unit
  text : Header.text unit = .ok content

theorem judgeUnit_cases (fs : FileSystem) (unit : ShaderUnit) (header : Path) :
    (∃ e, judgeUnit fs unit header = .fails e) ∨
      ∃ content loc, Header.text unit = .ok content ∧ fs.place header = .ok loc ∧
        judgeUnit fs unit header =
          if fs.isDirectory loc then .blocked header loc else .writes unit header loc content := by
  unfold judgeUnit
  cases htext : Header.text unit with
  | error e => exact Or.inl ⟨_, rfl⟩
  | ok content =>
      cases hplace : fs.place header with
      | error e => exact Or.inl ⟨_, rfl⟩
      | ok loc => exact Or.inr ⟨content, loc, rfl, rfl, rfl⟩

/-- **What a verdict can be.** The shader is up to date, it fails, or the text of its header was made and the
    header has a place. -/
theorem judge_cases (options : Options) (ids : BuildIds) (fs : FileSystem) (shader : Path) :
    judge options ids fs shader = .current ∨ (∃ e, judge options ids fs shader = .fails e) ∨
      ∃ unit content loc, Builds options ids fs shader unit content ∧
        fs.place (Header.path unit (includeDirectory options shader)) = .ok loc ∧
          judge options ids fs shader =
            if fs.isDirectory loc then .blocked (Header.path unit (includeDirectory options shader)) loc
            else .writes unit (Header.path unit (includeDirectory options shader)) loc content := by
  unfold judge
  cases hidentified : identify shader options.model with
  | error e => exact Or.inr (Or.inl ⟨e, rfl⟩)
  | ok told =>
      obtain ⟨stage, name⟩ := told
      cases hcurrent : options.config.artifacts.isCurrent ids fs shader name with
      | true =>
          simp only [hcurrent, if_true]
          exact Or.inl trivial
      | false =>
          simp only [hcurrent, Bool.false_eq_true, if_false]
          cases hread : ShaderUnit.ofFile fs shader name stage options.model with
          | error f => exact Or.inr (Or.inl ⟨_, rfl⟩)
          | ok unit =>
              have hunit := identify_of_ofFile hidentified hread
              obtain ⟨rfl, rfl⟩ : stage = unit.stage ∧ name = unit.name := by
                simpa using hidentified.symm.trans hunit
              rcases judgeUnit_cases fs unit (Header.path unit (includeDirectory options shader)) with
                hfails | ⟨content, loc, htext, hplace, hverdict⟩
              · exact Or.inr (Or.inl hfails)
              · exact Or.inr (Or.inr ⟨unit, content, loc, ⟨hunit, hcurrent, hread, htext⟩, hplace, hverdict⟩)

/-- **A verdict puts something in the place of a header only**: a file, or a directory where a directory
    stands. -/
theorem builds_of_put? {loc : Location} {node : Node}
    (h : (judge options ids fs shader).put? = some (loc, node)) :
    ∃ unit content, Builds options ids fs shader unit content ∧
      fs.place (Header.path unit (includeDirectory options shader)) = .ok loc ∧
        judge options ids fs shader =
          if fs.isDirectory loc then .blocked (Header.path unit (includeDirectory options shader)) loc
          else .writes unit (Header.path unit (includeDirectory options shader)) loc content := by
  rcases judge_cases options ids fs shader with
    hcurrent | ⟨e, hfails⟩ | ⟨unit, content, found, hbuilds, hplace, hverdict⟩
  · rw [hcurrent] at h
    cases h
  · rw [hfails] at h
    cases h
  · obtain rfl : found = loc := by
      rw [hverdict] at h
      split at h
      · exact congrArg Prod.fst (Option.some.inj h)
      · exact congrArg Prod.fst (Option.some.inj h)
    exact ⟨unit, content, hbuilds, hplace, hverdict⟩

theorem builds_of_writes {unit : ShaderUnit} {header : Path} {loc : Location} {content : String}
    (h : judge options ids fs shader = .writes unit header loc content) :
    Builds options ids fs shader unit content ∧
      header = Header.path unit (includeDirectory options shader) ∧ fs.place header = .ok loc := by
  have hput : (judge options ids fs shader).put?
      = some (loc, .file content.toUTF8 Header.finishedMode) := by
    rw [h]
    rfl
  obtain ⟨unit', content', hbuilds, hplace, hverdict⟩ := builds_of_put? hput
  rw [h] at hverdict
  split at hverdict
  · cases hverdict
  · cases hverdict
    exact ⟨hbuilds, rfl, hplace⟩

/-- What is put at a location is of the kind that stands there. -/
theorem isDirectory_of_put? {loc : Location} {node : Node}
    (h : (judge options ids fs shader).put? = some (loc, node)) :
    node.isDirectory = fs.isDirectory loc := by
  obtain ⟨unit, content, -, -, hverdict⟩ := builds_of_put? h
  rw [hverdict] at h
  split at h
  · next hdir =>
    cases h
    exact hdir.symm
  · next hfile =>
    cases h
    exact (Bool.eq_false_iff.mpr hfile).symm

/-- **What is done about a verdict stays within the places of headers**, and no directory comes or goes. -/
theorem agreeOff_change
    (hplace : ∀ loc node, (judge options ids fs shader).put? = some (loc, node) → loc ∈ W) :
    AgreeOff W fs ((judge options ids fs shader).change fs) := by
  unfold Verdict.change
  cases hput : (judge options ids fs shader).put? with
  | none => exact .refl fs
  | some put => exact .put (hplace put.1 put.2 hput) (isDirectory_of_put? hput)

end Batch

end ShaderCombos
