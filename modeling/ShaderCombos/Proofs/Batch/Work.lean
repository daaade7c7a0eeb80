import Mathlib
import ShaderCombos.Proofs.Batch.Trace
import ShaderCombos.Proofs.FileSystem.ReadWrite
import ShaderCombos.Proofs.Manifest.Filing

/-!
# `Proofs.Batch.Work` — which compile work reaches the manifest

Work is filed under the name of what is built, and a name does not tell the directory, the extension or
the version of the source. Two shaders of one list can have one name. The manifest then keeps the work of
the later one (`WorkManifest.get?_foldl_insert`), so the work of a stale shader can be lost. This module says exactly
when nothing is lost (`manifest_of_run`).

## Contents
- **Names.** `Trace.identified` and `Trace.name_eq_of_location_eq`: a file has one name.
- **The manifest of a run.** `KeepsAll`, `manifest_of_run` and a run that loses work.
-/

namespace ShaderCombos

/-! ## Names of files -/

namespace Batch

section

variable {options : Options} {ids : BuildIds} {fs fs' : FileSystem} {shaders : List Path}
  {stale : List Stale}

/-- Only a path that ends in a file name tells a stage. -/
theorem exists_fileName?_of_identify {p : Path} {model : ShaderModel} {r : Stage × String}
    (h : identify p model = .ok r) : ∃ name, p.fileName? = some name := by
  cases hname : p.fileName? with
  | some name => exact ⟨name, rfl⟩
  | none =>
      have hstem : Naming.stem p = [] := by
        unfold Naming.stem Path.fileStem?
        rw [hname]
        rfl
      unfold identify Naming.stage at h
      rw [hstem] at h
      cases h

/-- What a path tells of its shader depends on its file name alone. -/
theorem identify_eq_of_fileName?_eq {p q : Path} {model : ShaderModel} {r r' : Stage × String}
    (hname : p.fileName? = q.fileName?) (hp : identify p model = .ok r)
    (hq : identify q model = .ok r') : r = r' := by
  have hstem : Naming.stem p = Naming.stem q := by
    unfold Naming.stem Path.fileStem?
    rw [hname]
  unfold identify Naming.stage Naming.outputName at hp hq
  rw [hstem] at hp
  cases hsplit : Naming.splitSuffix? (Naming.stem q) with
  | none =>
      rw [hsplit] at hp
      cases hp
  | some cut =>
      rw [hsplit] at hp hq
      cases hp
      cases hq
      rfl

/-- What the trace of a batch tells of each stale shader: its unit has the stage and the name that its
    path tells, and its source was read where it lies. -/
theorem Trace.identified (h : Trace options ids fs shaders stale fs') :
    ∀ e ∈ stale, identify e.path options.model = .ok (e.unit.stage, e.unit.name) ∧
      ∃ fs₁ : FileSystem, fs₁.locate e.path = .ok e.location := by
  induction h with
  | done => simp
  | skip _ _ ih => exact ih
  | @prepare fs fs₁ fs' shader header rest stale location text unit hread hprepares _ ih =>
      intro e he
      rcases List.mem_cons.mp he with rfl | he
      · exact ⟨hprepares.identified, fs, FileSystem.locate_of_readTextAt hread⟩
      · exact ih e he

/-- **A file has one name**, however its path is spelled. -/
theorem Trace.name_eq_of_location_eq (h : Trace options ids fs shaders stale fs') {e e' : Stale}
    (he : e ∈ stale) (he' : e' ∈ stale) (hlocation : e.location = e'.location) :
    e.unit.name = e'.unit.name := by
  obtain ⟨hid, fs₁, hlocate⟩ := h.identified e he
  obtain ⟨hid', fs₂, hlocate'⟩ := h.identified e' he'
  obtain ⟨name, hname⟩ := exists_fileName?_of_identify hid
  obtain ⟨name', hname'⟩ := exists_fileName?_of_identify hid'
  -- The location ends in the file name of either path, and a file name tells the name of the unit.
  have hlast := FileSystem.getLast?_of_locate hlocate hname
  have hlast' := FileSystem.getLast?_of_locate hlocate' hname'
  rw [hlocation, hlast'] at hlast
  have hfile : e.path.fileName? = e'.path.fileName? := by rw [hname, hname', hlast]
  exact congrArg Prod.snd (identify_eq_of_fileName?_eq hfile hid hid')

/-! ## The manifest of a run -/

/-- As many values as keys, where each key has one value, means that no two keys share a value. -/
theorem card_values_eq_card_keys_iff {ι α β : Type} [DecidableEq α] [DecidableEq β] {l : List ι}
    {key : ι → α} {value : ι → β} (h : ∀ x ∈ l, ∀ y ∈ l, key x = key y → value x = value y) :
    (l.map value).toFinset.card = (l.map key).toFinset.card ↔
      ∀ x ∈ l, ∀ y ∈ l, value x = value y → key x = key y := by
  -- Keys and values are the two projections of one set of pairs, and the first loses nothing.
  have hkeys : (l.map key).toFinset = (l.map fun x => (key x, value x)).toFinset.image Prod.fst := by
    ext k
    simp
  have hvalues :
      (l.map value).toFinset = (l.map fun x => (key x, value x)).toFinset.image Prod.snd := by
    ext v
    simp
  have hinj : Set.InjOn Prod.fst
      (((l.map fun x => (key x, value x)).toFinset : Finset (α × β)) : Set (α × β)) := by
    intro a ha b hb hab
    obtain ⟨x, hx, rfl⟩ := List.mem_map.mp (List.mem_toFinset.mp ha)
    obtain ⟨y, hy, rfl⟩ := List.mem_map.mp (List.mem_toFinset.mp hb)
    exact Prod.ext hab (h x hx y hy hab)
  rw [hvalues, hkeys, Finset.card_image_of_injOn hinj, Finset.card_image_iff]
  constructor
  · intro hsnd x hx y hy hxy
    have hpair := hsnd (List.mem_toFinset.mpr (List.mem_map_of_mem hx))
      (List.mem_toFinset.mpr (List.mem_map_of_mem hy)) hxy
    exact congrArg Prod.fst hpair
  · intro hall a ha b hb hab
    obtain ⟨x, hx, rfl⟩ := List.mem_map.mp (List.mem_toFinset.mp ha)
    obtain ⟨y, hy, rfl⟩ := List.mem_map.mp (List.mem_toFinset.mp hb)
    exact Prod.ext (hall x hx y hy hab) hab

/-- **Nothing is lost.** Under the name of each stale shader stands the work of that very shader, and there
    are as many entries as source files that were found stale. -/
def KeepsAll (work : WorkManifest) (stale : List Stale) : Prop :=
  (∀ e ∈ stale, work.get? e.unit.name = some (.ofUnit e.unit)) ∧
    work.size = (stale.map Stale.location).toFinset.card

/-- Two stale shaders of one name are one source file, and they gave the same work. -/
def NamesTellApart (stale : List Stale) : Prop :=
  ∀ e ∈ stale, ∀ e' ∈ stale, e.unit.name = e'.unit.name →
    e.location = e'.location ∧ WorkEntry.ofUnit e.unit = .ofUnit e'.unit

/-- Under a name stands the work of the last stale shader of that name. -/
theorem get?_workOf (stale : List Stale) (name : String) :
    (workOf stale).get? name =
      (stale.reverse.find? (·.unit.name == name)).map fun e => WorkEntry.ofUnit e.unit := by
  unfold workOf
  rw [WorkManifest.get?_foldl_insert, WorkManifest.get?_empty, Option.or_none, ← List.map_reverse,
    List.find?_map, Option.map_map]
  rfl

/-- What stands under the name of a stale shader is the work of some stale shader of that name. -/
theorem exists_get?_workOf {e : Stale} (he : e ∈ stale) :
    ∃ e' ∈ stale, e'.unit.name = e.unit.name ∧
      (workOf stale).get? e.unit.name = some (.ofUnit e'.unit) := by
  have hsome : (stale.reverse.find? (·.unit.name == e.unit.name)).isSome := by
    rw [List.find?_isSome]
    exact ⟨e, List.mem_reverse.mpr he, beq_self_eq_true _⟩
  obtain ⟨e', hfind⟩ := Option.isSome_iff_exists.mp hsome
  have hname : (e'.unit.name == e.unit.name) = true :=
    @List.find?_some Stale (fun e' => e'.unit.name == e.unit.name) _ _ hfind
  refine ⟨e', List.mem_reverse.mp (List.mem_of_find?_eq_some hfind), beq_iff_eq.mp hname, ?_⟩
  rw [get?_workOf, hfind]
  rfl

/-- There is work exactly if a shader was found stale. -/
theorem isEmpty_workOf (stale : List Stale) : (workOf stale).isEmpty = stale.isEmpty := by
  cases stale with
  | nil => rfl
  | cons e rest =>
      obtain ⟨e', -, -, hget⟩ := exists_get?_workOf (List.mem_cons_self (a := e) (l := rest))
      show (workOf (e :: rest)).entries.isEmpty = false
      cases hentries : (workOf (e :: rest)).entries with
      | cons head tail => rfl
      | nil =>
          unfold WorkManifest.get? at hget
          rw [hentries] at hget
          cases hget

/-- **Nothing is lost exactly if the names tell the stale source files apart.** -/
theorem Trace.keepsAll_iff (h : Trace options ids fs shaders stale fs') :
    KeepsAll (workOf stale) stale ↔ NamesTellApart stale := by
  -- Entries are counted by names and files by locations, and each location has one name.
  have hsize : (workOf stale).size = (stale.map fun e => e.unit.name).toFinset.card := by
    unfold workOf
    rw [WorkManifest.size_eq_card, List.map_map]
    rfl
  have hnames : ∀ e ∈ stale, ∀ e' ∈ stale, e.location = e'.location → e.unit.name = e'.unit.name :=
    fun e he e' he' => h.name_eq_of_location_eq he he'
  have hcard := card_values_eq_card_keys_iff hnames
  unfold KeepsAll
  rw [hsize, hcard]
  constructor
  · rintro ⟨hkept, hapart⟩ e he e' he' hname
    refine ⟨hapart e he e' he' hname, ?_⟩
    -- One entry cannot be the work of two shaders unless that is the same work.
    have hentry := hkept e he
    rw [hname, hkept e' he'] at hentry
    exact (Option.some.inj hentry).symm
  · intro hapart
    refine ⟨?_, fun e he e' he' hname => (hapart e he e' he' hname).1⟩
    intro e he
    obtain ⟨e', he', hname, hget⟩ := exists_get?_workOf he
    rw [hget, (hapart e' he' e he hname).2]

/-- What a run leaves behind: `stale` is the course of stale shaders that it went through, and `work` is
    what the manifest says of them. -/
structure Records (options : Options) (ids : BuildIds) (fs : FileSystem) (summary : Summary)
    (fs' : FileSystem) (fileList : Path) (stale : List Stale) (work : WorkManifest) : Prop where
  located : locate fs options.fileList = .ok fileList
  traced : ∃ shaders fs₁, FileList.read fs fileList = .ok shaders ∧
    Trace options ids fs shaders stale fs₁
  reported : summary.manifest = if stale = [] then none else some (WorkManifest.path fileList)
  written : stale ≠ [] → fs'.read (WorkManifest.path fileList) = .ok work.toJson.toUTF8
  latest : ∀ name, work.get? name =
    (stale.reverse.find? (·.unit.name == name)).map fun e => .ofUnit e.unit

theorem records_of_trace {summary : Summary} {fileList : Path} {progress : Progress}
    {fs₁ : FileSystem} (hwork : options.headersOnly = false)
    (hlist : locate fs options.fileList = .ok fileList)
    (hshaders : FileList.read fs fileList = .ok shaders)
    (htrace : Trace options ids fs shaders stale fs₁) (hreports : Reports options {} shaders stale progress)
    (hfinish : finish fileList progress fs₁ = (.ok summary, fs')) :
    Records options ids fs summary fs' fileList stale (workOf stale) := by
  have hnoted : progress.work = workOf stale := by
    rw [hreports.work, hwork]
    rfl
  have hempty : progress.work.isEmpty = stale.isEmpty := by rw [hnoted, isEmpty_workOf]
  refine ⟨hlist, ⟨shaders, fs₁, hshaders, htrace⟩, ?_, ?_, get?_workOf stale⟩
  · rcases finish_eq_ok.mp hfinish with ⟨hnone, -, rfl⟩ | ⟨hsome, -, rfl⟩
    · rw [hempty, List.isEmpty_iff] at hnone
      rw [if_pos hnone]
    · rw [hempty, List.isEmpty_eq_false_iff] at hsome
      rw [if_neg hsome]
  · intro hstale
    rcases finish_eq_ok.mp hfinish with ⟨hnone, -, -⟩ | ⟨-, hwrite, -⟩
    · rw [hempty, List.isEmpty_iff] at hnone
      exact absurd hnone hstale
    · rw [← hnoted]
      exact FileSystem.read_write hwrite

/-- **The manifest of a run.** A run that notes work writes a manifest for the stale shaders it went
    through, in which the last shader of a name stands for that name. So nothing is lost exactly if the
    names tell the stale source files apart. -/
theorem manifest_of_run {summary : Summary} (h : run options ids fs = (.ok summary, fs'))
    (hwork : options.headersOnly = false) :
    ∃ fileList stale work, Records options ids fs summary fs' fileList stale work ∧
      (KeepsAll work stale ↔ NamesTellApart stale) := by
  obtain ⟨fileList, shaders, stale, progress, fs₁, hlist, hshaders, htrace, hreports, hfinish⟩ :=
    run_eq_ok.mp h
  exact ⟨fileList, stale, workOf stale,
    records_of_trace hwork hlist hshaders htrace hreports hfinish, htrace.keepsAll_iff⟩

end

/-! ## A run that loses work

The list names a shader in its 2.0 and in its 3.0 version, and both are built for 3.0. -/

namespace TwoVersions

def files : FileSystem where
  nodes := [(["list.txt"], .file "a_ps20.fxc\na_ps30.fxc".toUTF8 newFileMode),
    (["a_ps20.fxc"], .file "".toUTF8 newFileMode), (["a_ps30.fxc"], .file "".toUTF8 newFileMode)]

def options : Options where
  fileList := ⟨"list.txt"⟩
  model := .three

def ids : BuildIds :=
  BuildIds.unavailable "no helper"

/-- What is read of a version, which is an empty file. -/
def version (file : String) : ShaderUnit where
  name := "a_ps30"
  stage := .pixel
  model := .three
  version := "30"
  files := [file]

/-- What is recorded of a version. Both have one header. -/
def found (file : String) : Stale :=
  ⟨⟨"/" ++ file⟩, [file], version file, ⟨"/include/a_ps30.inc"⟩⟩

/-- The file system after the header of a version has been written. -/
def withHeader (file : String) (fs : FileSystem) : FileSystem :=
  (Header.write (version file) ⟨"/include"⟩ fs).2

/-- The file system after both shaders. -/
def afterShaders : FileSystem :=
  withHeader "a_ps30.fxc" (withHeader "a_ps20.fxc" files)

/-- The progress after both shaders. -/
def progress : Progress where
  processed := 2
  headers := [⟨"/include/a_ps30.inc"⟩, ⟨"/include/a_ps30.inc"⟩]
  work := workOf [found "a_ps20.fxc", found "a_ps30.fxc"]

/-- A version is prepared where its file is read, stale and has its header written. -/
theorem prepares {file : String} {fs : FileSystem}
    (hread : fs.readTextAt ⟨"/" ++ file⟩ = .ok ([file], ""))
    (hname : Path.listedName ⟨"/" ++ file⟩ = file)
    (hdirectory : (Path.directory ⟨"/" ++ file⟩).join options.config.includeDirectory = ⟨"/include"⟩)
    (hidentified : identify ⟨"/" ++ file⟩ options.model = .ok (.pixel, "a_ps30"))
    (hstale : options.config.artifacts.isCurrent ids fs ⟨"/" ++ file⟩ "a_ps30" = false)
    (hwritten : (Header.write (version file) ⟨"/include"⟩ fs).1 = .ok ⟨"/include/a_ps30.inc"⟩) :
    Prepares options ids fs ⟨"/" ++ file⟩ (version file) ⟨"/include/a_ps30.inc"⟩
      (withHeader file fs) := by
  have hlines : ∀ line ∈ Text.lines "", includeTarget? line = none := by decide +kernel
  have hfound : Declarations.ofLines (Directive.Filter.forModel .pixel .three) (Text.lines "")
      = .ok {} := by decide +kernel
  refine ⟨hidentified, hstale, ?_, ?_⟩
  · have hunit := @ShaderUnit.ofFile_of_forall_none _ _ _ _ "a_ps30" _ _ _ hread hlines hfound
    rw [hname] at hunit
    exact hunit
  · rw [hdirectory]
    exact Prod.ext hwritten rfl

set_option maxRecDepth 4000 in
theorem trace : Trace options ids files [⟨"/" ++ "a_ps20.fxc"⟩, ⟨"/" ++ "a_ps30.fxc"⟩]
    [found "a_ps20.fxc", found "a_ps30.fxc"] afterShaders := by
  have hread : files.readTextAt ⟨"/" ++ "a_ps20.fxc"⟩ = .ok (["a_ps20.fxc"], "") := by
    decide +kernel
  have hread' : (withHeader "a_ps20.fxc" files).readTextAt ⟨"/" ++ "a_ps30.fxc"⟩
      = .ok (["a_ps30.fxc"], "") := by
    decide +kernel
  -- The second shader is looked at after the header of the first has been written.
  have hfirst := prepares hread (by decide +kernel) (by decide +kernel) (by decide +kernel)
    (by decide +kernel) (by decide +kernel)
  have hsecond := prepares hread' (by decide +kernel) (by decide +kernel) (by decide +kernel)
    (by decide +kernel) (by decide +kernel)
  exact .prepare hread hfirst (.prepare hread' hsecond .done)

/-- What the run reports. -/
def summary : Summary :=
  ⟨2, 0, progress.headers, some ⟨"/list_work.json"⟩⟩

/-- The file system after the run. -/
def afterRun : FileSystem :=
  (finish ⟨"/list.txt"⟩ progress afterShaders).2

theorem locate_eq : locate files options.fileList = .ok ⟨"/list.txt"⟩ := by
  decide +kernel

theorem read_eq :
    FileList.read files ⟨"/list.txt"⟩ = .ok [⟨"/" ++ "a_ps20.fxc"⟩, ⟨"/" ++ "a_ps30.fxc"⟩] := by
  decide +kernel

theorem reports : Reports options {} [⟨"/" ++ "a_ps20.fxc"⟩, ⟨"/" ++ "a_ps30.fxc"⟩]
    [found "a_ps20.fxc", found "a_ps30.fxc"] progress :=
  ⟨rfl, rfl, rfl, rfl⟩

set_option maxRecDepth 4000 in
theorem finish_eq : finish ⟨"/list.txt"⟩ progress afterShaders = (.ok summary, afterRun) := by
  have hanswer : (finish ⟨"/list.txt"⟩ progress afterShaders).1 = .ok summary := by decide +kernel
  exact Prod.ext hanswer rfl

theorem run_eq : run options ids files = (.ok summary, afterRun) :=
  run_eq_ok.mpr ⟨_, _, _, _, _, locate_eq, read_eq, trace, reports, finish_eq⟩

end TwoVersions

theorem manifest_of_run_two_versions :
    run TwoVersions.options TwoVersions.ids TwoVersions.files
        = (.ok TwoVersions.summary, TwoVersions.afterRun) ∧
      TwoVersions.options.headersOnly = false ∧
        ∃ fileList stale work, Records TwoVersions.options TwoVersions.ids TwoVersions.files
            TwoVersions.summary TwoVersions.afterRun fileList stale work ∧
          (KeepsAll work stale ↔ NamesTellApart stale) :=
  ⟨TwoVersions.run_eq, rfl, manifest_of_run TwoVersions.run_eq rfl⟩

/-- **Work can be lost**: the entry of the older version is replaced. -/
theorem not_forall_keepsAll :
    ¬ ∀ (options : Options) (ids : BuildIds) (fs fs' : FileSystem) (summary : Summary),
      run options ids fs = (.ok summary, fs') → options.headersOnly = false →
        ∀ fileList stale work, Records options ids fs summary fs' fileList stale work →
          KeepsAll work stale := by
  intro h
  have hrecords := records_of_trace rfl TwoVersions.locate_eq TwoVersions.read_eq TwoVersions.trace
    TwoVersions.reports TwoVersions.finish_eq
  have hkept := h _ _ _ _ _ TwoVersions.run_eq rfl _ _ _ hrecords
  -- What stands under the common name lists the newer file.
  have holder := hkept.1 (TwoVersions.found "a_ps20.fxc") List.mem_cons_self
  exact absurd holder (by decide +kernel)

end Batch

end ShaderCombos
