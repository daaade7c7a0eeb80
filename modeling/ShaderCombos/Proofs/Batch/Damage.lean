import ShaderCombos.Proofs.Batch.Outputs
import ShaderCombos.Proofs.FileSystem.Neighbour

/-!
# `Proofs.Batch.Damage` — what a failed batch leaves behind

A run that fails is not taken back: the headers of the shaders that it has gone through are there, and
directories may have come that were to hold headers. Here is the bound on that. A run fails before its list is
read, at one shader of the list, or at its end (`Stops`). In all cases the only files that are new or changed
are headers of stale shaders before the one that failed (`Damage.files`), and the failing shader leaves no
file at all (`Damage.turn`).

The manifest is not touched, with one exception that no check of the configuration excludes: where the include
directory has the path of the manifest, or leads through it, a directory may have come there
(`Damage.manifest`).

The proof follows the growth of the file system. A trace grows by headers and directories (`Trace.grows`), a
failing step by directories alone (`grows_of_failsAt`), and the manifest is no header.

## Contents
- **Failing.** `step_eq_error`, `FailsAt`, `goOn_eq_error`, `Stops`, `run_eq_error`.
- **Growth.** `Trace.grows`, `grows_of_failsAt`, `Stops.grows`.
- **Damage.** `Damage`, `damage_of_run`.
-/

namespace ShaderCombos.Batch

open FileSystem

section

variable {options : Options} {ids : BuildIds} {fs fs' fs₁ : FileSystem} {shader fileList : Path}
  {shaders before rest : List Path} {progress : Progress} {stale : List Stale} {e : Failure}

/-! ## Failing -/

/-- The source of a shader is read in one way. -/
theorem Builds.unit_eq {unit unit' : ShaderUnit} {content : String}
    (h : Builds options ids fs shader unit content)
    (hidentified : identify shader options.model = .ok (unit'.stage, unit'.name))
    (hread : ShaderUnit.ofFile fs shader unit'.name unit'.stage options.model = .ok unit') :
    unit = unit' := by
  obtain ⟨hstage, hname⟩ : unit.stage = unit'.stage ∧ unit.name = unit'.name := by
    simpa using h.identified.symm.trans hidentified
  have hread' := h.read
  rw [hstage, hname, hread] at hread'
  exact (Except.ok.inj hread').symm

/-- **How a step fails.** No header could be made of the shader, and nothing has changed; or the header
    could not be written. -/
theorem step_eq_error (h : step options ids progress shader fs = (.error e, fs')) :
    (fs' = fs ∧ ∀ unit content, ¬ Builds options ids fs shader unit content) ∨
      ∃ unit content, Builds options ids fs shader unit content ∧
        Header.write unit (includeDirectory options shader) fs = (.error e, fs') := by
  cases hidentified : identify shader options.model with
  | error e' =>
      rw [step_of_unidentified hidentified] at h
      cases h
      refine Or.inl ⟨rfl, fun unit content hbuilds => ?_⟩
      cases hidentified.symm.trans hbuilds.identified
  | ok told =>
      obtain ⟨stage, name⟩ := told
      cases hcurrent : options.config.artifacts.isCurrent ids fs shader name with
      | true =>
          rw [step_of_current hidentified hcurrent] at h
          cases h
      | false =>
          cases hread : ShaderUnit.ofFile fs shader name stage options.model with
          | error f =>
              rw [step_of_unprepared hidentified hcurrent (prepare_of_unread hidentified hread)] at h
              cases h
              refine Or.inl ⟨rfl, fun unit content hbuilds => ?_⟩
              cases hidentified.symm.trans hbuilds.identified
              cases hread.symm.trans hbuilds.read
          | ok unit =>
              have hunit := identify_of_ofFile hidentified hread
              obtain ⟨rfl, rfl⟩ : stage = unit.stage ∧ name = unit.name := by
                simpa using hidentified.symm.trans hunit
              rcases hwrite : Header.write unit (includeDirectory options shader) fs with ⟨outcome, fs₁⟩
              cases outcome with
              | ok header =>
                  have hstep : step options ids progress shader fs = _ :=
                    step_eq_ok.mpr (Or.inr ⟨unit, header, ⟨hunit, hcurrent, hread, hwrite⟩, rfl⟩)
                  rw [hstep] at h
                  cases h
              | error e' =>
                  have hprepare := prepare_of_unwritten hidentified hread hwrite
                  rw [step_of_unprepared hidentified hcurrent hprepare] at h
                  cases h
                  cases htext : Header.text unit with
                  | ok content =>
                      exact Or.inr ⟨unit, content, ⟨hunit, hcurrent, hread, htext⟩, hwrite⟩
                  | error e₁ =>
                      rw [Header.write_of_unmade htext] at hwrite
                      cases hwrite
                      refine Or.inl ⟨rfl, fun unit' content hbuilds => ?_⟩
                      obtain rfl := hbuilds.unit_eq hunit hread
                      cases htext.symm.trans hbuilds.text

/-- **Where a batch fails** with some shaders left: at the next of them, or at its end. -/
inductive FailsAt (options : Options) (ids : BuildIds) (fileList : Path) :
    List Path → Progress → FileSystem → Failure → FileSystem → Prop where
  | step {shader : Path} {rest : List Path} {progress : Progress} {fs fs' : FileSystem} {e : Failure}
      (hstep : Batch.step options ids progress shader fs = (.error e, fs')) :
      FailsAt options ids fileList (shader :: rest) progress fs e fs'
  | finish {progress : Progress} {fs fs' : FileSystem} {e : Failure}
      (hfinish : Batch.finish fileList progress fs = (.error e, fs')) :
      FailsAt options ids fileList [] progress fs e fs'

/-- **A batch that fails goes through some shaders first.** By induction on the shaders that are left. -/
theorem goOn_eq_error (h : goOn options ids fileList shaders progress fs = (.error e, fs')) :
    ∃ before rest progress₁ fs₁, shaders = before ++ rest ∧
      (before.foldlM (step options ids) progress : Action Progress) fs = (.ok progress₁, fs₁) ∧
        FailsAt options ids fileList rest progress₁ fs₁ e fs' := by
  induction shaders generalizing progress fs with
  | nil => exact ⟨[], [], progress, fs, rfl, rfl, .finish h⟩
  | cons shader shaders ih =>
      unfold goOn at h
      rw [List.foldlM_cons, bind_assoc] at h
      rcases Action.bind_eq_error.mp h with hstep | ⟨next, fs₁, hstep, hrest⟩
      · exact ⟨[], shader :: shaders, progress, fs, rfl, rfl, .step hstep⟩
      · obtain ⟨before, rest, progress₁, fs₂, rfl, hbefore, hfails⟩ := ih hrest
        refine ⟨shader :: before, rest, progress₁, fs₂, rfl, ?_, hfails⟩
        rw [List.foldlM_cons]
        exact Action.bind_eq_ok.mpr ⟨next, fs₁, hstep, hbefore⟩

/-- **The course of a run that fails** after it has found its list: it goes through some shaders and fails
    with the rest of them left. -/
structure Stops (options : Options) (ids : BuildIds) (fs : FileSystem) (fileList : Path)
    (before rest : List Path) (stale : List Stale) (fs₁ : FileSystem) (e : Failure)
    (fs' : FileSystem) : Prop where
  lists : Lists options fs fileList (before ++ rest)
  trace : Trace options ids fs before stale fs₁
  fails : ∃ progress, Reports options {} before stale progress ∧
    FailsAt options ids fileList rest progress fs₁ e fs'

/-- **How a run fails**: it does not find its list and changes nothing, or it stops on the way. -/
theorem run_eq_error (h : run options ids fs = (.error e, fs')) :
    (fs' = fs ∧ ∀ fileList shaders, ¬ Lists options fs fileList shaders) ∨
      ∃ fileList before rest stale fs₁, Stops options ids fs fileList before rest stale fs₁ e fs' := by
  by_cases hlists : ∃ fileList shaders, Lists options fs fileList shaders
  · obtain ⟨fileList, shaders, hlist⟩ := hlists
    rw [run_of_lists hlist] at h
    obtain ⟨before, rest, progress, fs₁, rfl, hbefore, hfails⟩ := goOn_eq_error h
    obtain ⟨stale, htrace, hreports⟩ := foldlM_step_eq_ok.mp hbefore
    exact Or.inr ⟨fileList, before, rest, stale, fs₁, hlist, htrace, progress, hreports, hfails⟩
  · have hnone : ∀ fileList shaders, ¬ Lists options fs fileList shaders :=
      fun fileList shaders hlist => hlists ⟨fileList, shaders, hlist⟩
    obtain ⟨e', hrun⟩ : ∃ e, run options ids fs = (.error e, fs) := run_of_not_lists hnone
    rw [hrun] at h
    cases h
    exact Or.inl ⟨rfl, hnone⟩

/-! ## Growth -/

/-- The paths of the directories that are created where they are missing before the header of one of some
    shaders is written. -/
def headerDirectories (options : Options) (shaders : List Path) : List Path :=
  shaders.flatMap fun shader => (includeDirectory options shader).ancestors

theorem Trace.header_eq (h : Trace options ids fs shaders stale fs') {x : Stale} (hx : x ∈ stale) :
    x.path ∈ shaders ∧ '/' ∉ x.unit.name.toList ∧
      x.header = Header.path x.unit (includeDirectory options x.path) := by
  induction h with
  | done => cases hx
  | skip _ _ ih =>
      obtain ⟨hlisted, hheader⟩ := ih hx
      exact ⟨List.mem_cons_of_mem _ hlisted, hheader⟩
  | prepare _ hprepares _ ih =>
      rcases List.mem_cons.mp hx with rfl | hx
      · have hname := slash_notMem_of_identify hprepares.identified
        obtain ⟨hheader, -⟩ := Header.find_of_write hprepares.written
        exact ⟨List.mem_cons_self, hname, hheader⟩
      · obtain ⟨hlisted, hheader⟩ := ih hx
        exact ⟨List.mem_cons_of_mem _ hlisted, hheader⟩

/-- **What a batch adds while nothing fails**: the headers of the stale shaders and directories for them. By
    induction on the trace; where the paths lead is read off in the end, and what led somewhere on the way
    still does. -/
theorem Trace.grows (h : Trace options ids fs shaders stale fs') :
    Grows (fs'.ledTo (stale.map Stale.header))
      (fs'.ledTo (headerDirectories options (stale.map Stale.path))) fs fs' := by
  induction h with
  | done => exact .refl _
  | skip _ _ ih => exact ih
  | prepare _ hprepares _ ih =>
      have hwrite := Header.grows_write hprepares.written
      obtain ⟨hheader, -⟩ := Header.find_of_write hprepares.written
      rw [← hheader] at hwrite
      refine (hwrite.mono ?_ ?_).trans (ih.mono ?_ ?_)
      · exact ih.ledTo_subset.trans (ledTo_mono (by simp))
      · exact ih.ledTo_subset.trans (ledTo_mono (List.subset_append_left _ _))
      · exact ledTo_mono (by simp)
      · exact ledTo_mono (List.subset_append_right _ _)

/-- The locations that paths of headers lead to. -/
def headerLocations (fs : FileSystem) : Set Location :=
  {loc | ∃ u directory, '/' ∉ u.name.toList ∧ fs.locate (Header.path u directory) = .ok loc}

theorem finish_eq_error (h : finish fileList progress fs = (.error e, fs')) : fs' = fs := by
  rw [finish_eq] at h
  split at h
  · cases h
    rfl
  · cases h
  · cases h

/-- **What a failure adds**: directories. No file comes or changes. -/
theorem grows_of_failsAt (h : FailsAt options ids fileList rest progress fs e fs') :
    Grows {loc | loc ∈ headerLocations fs' ∧ fs'.isDirectory loc = true}
      (fs'.ledTo (headerDirectories options (rest.take 1))) fs fs' := by
  cases h with
  | finish hfinish =>
      rw [finish_eq_error hfinish]
      exact .refl fs
  | step hstep =>
      rcases step_eq_error hstep with ⟨rfl, -⟩ | ⟨unit, content, hbuilds, hwrite⟩
      · exact .refl _
      · have hname := slash_notMem_of_identify hbuilds.identified
        refine (Header.grows_write_of_error hwrite).mono ?_ ?_
        · rintro loc ⟨⟨p, hp, hlocate⟩, hdir⟩
          obtain rfl := List.mem_singleton.mp hp
          exact ⟨⟨unit, _, hname, hlocate⟩, hdir⟩
        · exact ledTo_mono (List.subset_append_left _ _)

theorem Trace.headers_subset (h : Trace options ids fs shaders stale fs₁) :
    fs'.ledTo (stale.map Stale.header) ⊆ headerLocations fs' := by
  rintro loc ⟨p, hp, hlocate⟩
  obtain ⟨x, hx, rfl⟩ := List.mem_map.mp hp
  obtain ⟨-, hname, hheader⟩ := h.header_eq hx
  rw [hheader] at hlocate
  exact ⟨x.unit, _, hname, hlocate⟩

/-- **What a run that fails adds** on its way and when it fails. -/
theorem Stops.grows (h : Stops options ids fs fileList before rest stale fs₁ e fs') :
    Grows (fs'.ledTo (stale.map Stale.header) ∪
        {loc | loc ∈ headerLocations fs' ∧ fs'.isDirectory loc = true})
      (fs'.ledTo (headerDirectories options (stale.map Stale.path ++ rest.take 1))) fs fs' := by
  obtain ⟨progress, -, hfails⟩ := h.fails
  have hend := grows_of_failsAt hfails
  have hdirectories : headerDirectories options (stale.map Stale.path ++ rest.take 1)
      = headerDirectories options (stale.map Stale.path) ++ headerDirectories options (rest.take 1) :=
    List.flatMap_append
  rw [hdirectories]
  refine (h.trace.grows.mono ?_ ?_).trans (hend.mono ?_ ?_)
  · exact hend.ledTo_subset.trans Set.subset_union_left
  · exact hend.ledTo_subset.trans (ledTo_mono (List.subset_append_left _ _))
  · exact Set.subset_union_right
  · exact ledTo_mono (List.subset_append_right _ _)

/-! ## Damage -/

/-- **What a run that fails leaves behind.** The run has gone through the shaders `before`, of which it found
    some stale, and has come to `fs₁`; it failed with `rest` left and ended in `fs'`. -/
structure Damage (options : Options) (ids : BuildIds) (fs : FileSystem) (fileList : Path)
    (before rest : List Path) (stale : List Stale) (fs₁ fs' : FileSystem) : Prop where
  /-- The manifest is as it was, unless nothing stood there and a directory for headers has come. -/
  manifest : fs'.find (WorkManifest.path fileList) = fs.find (WorkManifest.path fileList) ∨
    ∃ loc mode, fs.find (WorkManifest.path fileList) = .error .notFound ∧
      fs'.find (WorkManifest.path fileList) = .ok (loc, .directory mode) ∧
        loc ∈ fs'.ledTo (headerDirectories options (stale.map Stale.path ++ rest.take 1))
  /-- A file that is new or changed is the header of a stale shader before the one that failed. -/
  files : ∀ loc content mode, fs'.node? loc = some (.file content mode) →
    fs.node? loc = some (.file content mode) ∨
      ∃ x ∈ stale, x.path ∈ before ∧ x.header = Header.path x.unit (includeDirectory options x.path) ∧
        fs'.locate x.header = .ok loc
  /-- No file is gone. -/
  kept : ∀ loc content mode, fs.node? loc = some (.file content mode) →
    ∃ content' mode', fs'.node? loc = some (.file content' mode')
  /-- The turn of the shader that fails, and the end of the run, change no file. -/
  turn : ∀ loc content mode,
    fs'.node? loc = some (.file content mode) ↔ fs₁.node? loc = some (.file content mode)
  /-- A shader of which no header could be made changes nothing. -/
  unmade : ∀ shader, rest.head? = some shader →
    (∀ unit content, ¬ Builds options ids fs₁ shader unit content) → fs' = fs₁

/-- No path of a header leads to where a manifest would stand. -/
theorem notMem_headerLocations {dir : Location} {stem : String} :
    dir ++ [stem ++ "_work.json"] ∉ headerLocations fs := by
  rintro ⟨u, directory, hname, hlocate⟩
  obtain ⟨before, hend⟩ := Header.exists_lastName_path u directory hname
  have hlast := Header.getLast?_of_place_path hname (place_of_locate hend hlocate)
  rw [List.getLast?_concat, Option.some.injEq] at hlast
  exact Header.name_ne_manifest _ _ hlast.symm

/-- **The manifest while headers and directories come.** Its directory is there because the list was read, so
    what is found of it is what stands in one location. -/
theorem manifest_of_grows {W D : Set Location} (hgrows : Grows W D fs fs')
    (hW : W ⊆ headerLocations fs') (hlist : FileList.read fs fileList = .ok shaders) :
    fs'.find (WorkManifest.path fileList) = fs.find (WorkManifest.path fileList) ∨
      ∃ loc mode, fs.find (WorkManifest.path fileList) = .error .notFound ∧
        fs'.find (WorkManifest.path fileList) = .ok (loc, .directory mode) ∧ loc ∈ D := by
  obtain ⟨before, hend⟩ := WorkManifest.exists_lastName_path fileList
  obtain ⟨-, place, text, hread, -⟩ := FileList.read_eq_ok.mp hlist
  obtain ⟨dir, hway⟩ : ∃ dir, Way fs (WorkManifest.path fileList) dir _ :=
    exists_way_neighbour (locate_of_readTextAt hread) (isDirectory_of_readTextAt hread)
      (WorkManifest.slash_notMem_name fileList) hend
  have hfind := hway.find_eq
  have hfind' := (hway.grows hgrows).find_eq
  rw [String.ofList_toList] at hfind hfind'
  rcases hgrows.node?_of_notMem fun hmem => notMem_headerLocations (hW hmem) with
    hsame | ⟨hloc, hnone, hdir⟩
  · rw [hsame] at hfind'
    exact Or.inl (hfind'.trans hfind.symm)
  · obtain ⟨node, hnode⟩ := Option.isSome_iff_exists.mp (isSome_of_isDirectory hdir)
    rw [isDirectory_of_node? hnode] at hdir
    cases node with
    | file content mode => cases hdir
    | directory mode =>
        rw [hnone] at hfind
        rw [hnode] at hfind'
        -- A path that is not looked up at all, or whose name is too long, fails as before.
        cases hcheck : checkPath (WorkManifest.path fileList) with
        | error e =>
            rw [hcheck] at hfind hfind'
            exact Or.inl (hfind'.trans hfind.symm)
        | ok u =>
            rw [hcheck] at hfind hfind'
            by_cases hlong : isNameTooLong (fileList.fileStem?.getD "" ++ "_work.json") = true
            · simp only [hlong, if_true] at hfind hfind'
              exact Or.inl (hfind'.trans hfind.symm)
            · simp only [hlong, Bool.false_eq_true, if_false] at hfind hfind'
              exact Or.inr ⟨_, mode, hfind, hfind', hloc⟩

theorem Stops.damage (h : Stops options ids fs fileList before rest stale fs₁ e fs') :
    Damage options ids fs fileList before rest stale fs₁ fs' := by
  obtain ⟨progress, -, hfails⟩ := h.fails
  have hgrows := h.grows
  have hend := grows_of_failsAt hfails
  have hfile {loc : Location} {content : ByteArray} {mode : Nat}
      (hnode : fs'.node? loc = some (.file content mode)) :
      loc ∉ {loc | loc ∈ headerLocations fs' ∧ fs'.isDirectory loc = true} := by
    rintro ⟨-, hdir⟩
    rw [isDirectory_of_node? hnode] at hdir
    cases hdir
  refine ⟨?_, fun loc content mode hnode => ?_, fun loc content mode hnode => ?_,
    fun loc content mode => ⟨fun hnode => hend.node?_of_file (hfile hnode) hnode, fun hnode => ?_⟩,
    fun shader hshader hunmade => ?_⟩
  · refine manifest_of_grows hgrows ?_ h.lists.read
    exact Set.union_subset h.trace.headers_subset fun loc hloc => hloc.1
  · by_cases hheader : loc ∈ fs'.ledTo (stale.map Stale.header)
    · obtain ⟨p, hp, hlocate⟩ := hheader
      obtain ⟨x, hx, rfl⟩ := List.mem_map.mp hp
      obtain ⟨hlisted, -, heq⟩ := h.trace.header_eq hx
      exact Or.inr ⟨x, hx, hlisted, heq, hlocate⟩
    · exact Or.inl (hgrows.node?_of_file (fun hmem => hmem.elim hheader (hfile hnode)) hnode)
  · exact hgrows.exists_file hnode
  · obtain ⟨content', mode', hnode'⟩ := hend.exists_file hnode
    have hback := hend.node?_of_file (hfile hnode') hnode'
    rw [hnode', ← hback, hnode]
  · cases hfails with
    | finish => cases hshader
    | step hstep =>
        cases hshader
        rcases step_eq_error hstep with ⟨hsame, -⟩ | ⟨unit, content, hbuilds, -⟩
        · exact hsame
        · exact absurd hbuilds (hunmade unit content)

/-- **The damage of a failed run is bounded.** A run that fails has found no list and changed nothing, or it
    leaves behind headers of stale shaders that come before the one that failed, and directories for
    headers.

    It is assumed that a file is written as a whole or not at all, so that no header is left half written;
    that the file system has no links; that the user is a privileged one, to whom no permission bits matter;
    and that the source of identifiers looks at files and changes none. -/
theorem damage_of_run (h : run options ids fs = (.error e, fs')) :
    (fs' = fs ∧ ∀ fileList shaders, ¬ Lists options fs fileList shaders) ∨
      ∃ fileList before rest stale fs₁, Stops options ids fs fileList before rest stale fs₁ e fs' ∧
        Damage options ids fs fileList before rest stale fs₁ fs' := by
  rcases run_eq_error h with hnone | ⟨fileList, before, rest, stale, fs₁, hstops⟩
  · exact Or.inl hnone
  · exact Or.inr ⟨fileList, before, rest, stale, fs₁, hstops, hstops.damage⟩

end

/-! ## A failure that leaves something

The list names two versions of a shader that are built under one name, and the second has a directive that
cannot be read. The include directory has the path of the manifest. -/

namespace SecondMalformed

def files : FileSystem where
  nodes := [(["list.txt"], .file "a_ps20.fxc\na_ps30.fxc".toUTF8 newFileMode),
    (["a_ps20.fxc"], .file "".toUTF8 newFileMode),
    (["a_ps30.fxc"], .file "// STATIC: bad".toUTF8 newFileMode)]

def options : Options where
  fileList := ⟨"list.txt"⟩
  model := .three
  config := { includeDirectory := ⟨"list_work.json"⟩ }

def ids : BuildIds :=
  BuildIds.unavailable "no helper"

/-- What is read of the first shader. -/
def unit : ShaderUnit where
  name := "a_ps30"
  stage := .pixel
  model := .three
  version := "30"
  files := ["a_ps20.fxc"]

/-- The file system after the first shader, and after the run. -/
def afterFirst : FileSystem :=
  (Header.write unit ⟨"/list_work.json"⟩ files).2

/-- The failure of the run. -/
def failure : Failure :=
  ⟨[.parseSource ⟨"/a_ps30.fxc"⟩], .fault (.malformed (.combo .static) "// STATIC: bad")⟩

theorem lists : Lists options files ⟨"/list.txt"⟩ [⟨"/a_ps20.fxc"⟩, ⟨"/a_ps30.fxc"⟩] :=
  ⟨by decide +kernel, by decide +kernel⟩

theorem identify_eq : identify ⟨"/a_ps30.fxc"⟩ options.model = .ok (.pixel, "a_ps30") := by
  decide +kernel

theorem prepares :
    Prepares options ids files ⟨"/a_ps20.fxc"⟩ unit ⟨"/list_work.json/a_ps30.inc"⟩ afterFirst := by
  have hread : files.readTextAt ⟨"/a_ps20.fxc"⟩ = .ok (["a_ps20.fxc"], "") := by decide +kernel
  have hdirectory : Path.join (Path.directory ⟨"/a_ps20.fxc"⟩) options.config.includeDirectory
      = ⟨"/list_work.json"⟩ := by decide +kernel
  have hwritten : (Header.write unit ⟨"/list_work.json"⟩ files).1
      = .ok ⟨"/list_work.json/a_ps30.inc"⟩ := by decide +kernel
  refine ⟨by decide +kernel, by decide +kernel, ?_, ?_⟩
  · have hname : Path.listedName ⟨"/a_ps20.fxc"⟩ = "a_ps20.fxc" := by decide +kernel
    have hunit := ShaderUnit.ofFile_of_empty hread "a_ps30" .pixel .three
    rw [hname] at hunit
    exact hunit
  · rw [hdirectory]
    exact Prod.ext hwritten rfl

/-- The second shader cannot be read. -/
theorem ofFile_eq (name : String) :
    ShaderUnit.ofFile afterFirst ⟨"/a_ps30.fxc"⟩ name .pixel options.model
      = .error (.malformed (.combo .static) "// STATIC: bad") := by
  have hread : afterFirst.readTextAt ⟨"/a_ps30.fxc"⟩ = .ok (["a_ps30.fxc"], "// STATIC: bad") := by
    decide +kernel
  have hlines : ∀ line ∈ Text.lines "// STATIC: bad", includeTarget? line = none := by decide +kernel
  have hfound : Declarations.ofLines (Directive.Filter.forModel .pixel .three)
      (Text.lines "// STATIC: bad") = .error (.malformed (.combo .static) "// STATIC: bad") := by
    decide +kernel
  refine except_bind_eq_error.mpr (Or.inr ⟨_, Source.assemble_of_forall_none hread hlines, ?_⟩)
  exact except_bind_eq_error.mpr (Or.inl hfound)

/-- No header can be made of the second shader. -/
theorem not_builds (u : ShaderUnit) (content : String) :
    ¬ Builds options ids afterFirst ⟨"/a_ps30.fxc"⟩ u content := by
  intro hbuilds
  obtain ⟨hstage, hname⟩ : u.stage = .pixel ∧ u.name = "a_ps30" := by
    simpa [eq_comm] using identify_eq.symm.trans hbuilds.identified
  have hread := hbuilds.read
  rw [hstage, ofFile_eq] at hread
  cases hread

theorem step_eq (progress : Progress) :
    step options ids progress ⟨"/a_ps30.fxc"⟩ afterFirst = (.error failure, afterFirst) := by
  have hstale : options.config.artifacts.isCurrent ids afterFirst ⟨"/a_ps30.fxc"⟩ "a_ps30" = false := by
    decide +kernel
  exact step_of_unprepared identify_eq hstale (prepare_of_unread identify_eq (ofFile_eq "a_ps30"))

theorem stops : Stops options ids files ⟨"/list.txt"⟩ [⟨"/a_ps20.fxc"⟩] [⟨"/a_ps30.fxc"⟩]
    [⟨⟨"/a_ps20.fxc"⟩, ["a_ps20.fxc"], unit, ⟨"/list_work.json/a_ps30.inc"⟩⟩] afterFirst failure
    afterFirst where
  lists := lists
  trace := .prepare (show files.readTextAt ⟨"/a_ps20.fxc"⟩ = .ok (["a_ps20.fxc"], "") by decide +kernel)
    prepares .done
  fails := ⟨Progress.note {} options unit ⟨"/list_work.json/a_ps30.inc"⟩, ⟨rfl, rfl, rfl, rfl⟩,
    .step (step_eq _)⟩

theorem run_eq : run options ids files = (.error failure, afterFirst) := by
  rw [run_of_lists lists]
  unfold goOn
  rw [List.foldlM_cons, bind_assoc]
  refine (Action.bind_of_ok (step_eq_ok.mpr (Or.inr ⟨unit, _, prepares, rfl⟩)) _).trans ?_
  rw [List.foldlM_cons, bind_assoc]
  exact Action.bind_of_error (step_eq _) _

end SecondMalformed

theorem damage_of_run_second_malformed :
    run SecondMalformed.options SecondMalformed.ids SecondMalformed.files
        = (.error SecondMalformed.failure, SecondMalformed.afterFirst) ∧
      ((SecondMalformed.afterFirst = SecondMalformed.files ∧ ∀ fileList shaders,
          ¬ Lists SecondMalformed.options SecondMalformed.files fileList shaders) ∨
        ∃ fileList before rest stale fs₁,
          Stops SecondMalformed.options SecondMalformed.ids SecondMalformed.files fileList before rest
              stale fs₁ SecondMalformed.failure SecondMalformed.afterFirst ∧
            Damage SecondMalformed.options SecondMalformed.ids SecondMalformed.files fileList before rest
              stale fs₁ SecondMalformed.afterFirst) :=
  ⟨SecondMalformed.run_eq, damage_of_run SecondMalformed.run_eq⟩

/-- **The bound is sharp.** A failed run can leave a directory where a manifest would stand, and a header of
    the failing shader's name, which is that of a shader before it. -/
theorem not_forall_untouched :
    (¬ ∀ (options : Options) (ids : BuildIds) (fs fs' : FileSystem) (e : Failure) (fileList : Path)
        (shaders : List Path), run options ids fs = (.error e, fs') → Lists options fs fileList shaders →
      fs'.find (WorkManifest.path fileList) = fs.find (WorkManifest.path fileList)) ∧
    ¬ ∀ (options : Options) (ids : BuildIds) (fs fs₁ fs' : FileSystem) (e : Failure)
        (fileList shader : Path) (before rest : List Path) (stale : List Stale) (stage : Stage)
        (name : String), run options ids fs = (.error e, fs') →
      Stops options ids fs fileList before (shader :: rest) stale fs₁ e fs' →
      (∀ unit content, ¬ Builds options ids fs₁ shader unit content) →
      identify shader options.model = .ok (stage, name) →
      fs'.find ((includeDirectory options shader).child (name ++ ".inc"))
        = fs.find ((includeDirectory options shader).child (name ++ ".inc")) := by
  constructor
  · intro h
    have hsame := h _ _ _ _ _ _ _ SecondMalformed.run_eq SecondMalformed.lists
    have hbefore : SecondMalformed.files.isPresent (WorkManifest.path ⟨"/list.txt"⟩) = false := by
      decide +kernel
    have hafter : SecondMalformed.afterFirst.isPresent (WorkManifest.path ⟨"/list.txt"⟩) = true := by
      decide +kernel
    have hboth := congrArg Except.isOk hsame
    exact absurd (hafter.symm.trans (hboth.trans hbefore)) (by decide)
  · intro h
    have hsame := h _ _ _ _ _ _ _ _ _ _ _ _ _ SecondMalformed.run_eq SecondMalformed.stops
      SecondMalformed.not_builds SecondMalformed.identify_eq
    have hbefore : SecondMalformed.files.isPresent
        ((includeDirectory SecondMalformed.options ⟨"/a_ps30.fxc"⟩).child ("a_ps30" ++ ".inc")) = false := by
      decide +kernel
    have hafter : SecondMalformed.afterFirst.isPresent
        ((includeDirectory SecondMalformed.options ⟨"/a_ps30.fxc"⟩).child ("a_ps30" ++ ".inc")) = true := by
      decide +kernel
    have hboth := congrArg Except.isOk hsame
    exact absurd (hafter.symm.trans (hboth.trans hbefore)) (by decide)

end ShaderCombos.Batch
