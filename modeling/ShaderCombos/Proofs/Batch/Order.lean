import Mathlib
import ShaderCombos.Proofs.Batch.Outputs
import ShaderCombos.Proofs.Batch.Work

/-!
# `Proofs.Batch.Order` — the order of a file list

A batch goes through its list from the first shader to the last, but it makes no difference where in the list a
shader stands. If the shaders have nothing to do with each other (`Independent`), their verdicts can all be
found out before the first is acted on, and what is put somewhere about them goes to different places. In
another order the same is put in the same places and the same work is filed, so a run has the same outcome
(`run_of_sameLines`).

The order is that of lines in a file, so the second run starts from another file system than the first, one in
which the list has been replaced. The shaders must not read the list for that. A list that is one of its own
shaders passes every other condition, and its order shows in its own header (`not_forall_sameOutcome`).

## Contents
- **What a batch reports.** `foldl_note`: the report, counted over the verdicts.
- **Different names.** `NamesApart`, `NamesApart.nodup_places`.
- **The same lines.** `SameLines`, `Independent`, `Alike`, `SameOutcome`.
- **The end of both runs.** `sameOutcome_finish`.
- **Both runs.** `alike_of_perm`, `sameOutcome_of_passes`, `sameOutcome_of_not_passes`, `run_of_sameLines`.
-/

namespace ShaderCombos

open FileSystem

/-! ## Replaced lists -/

/-- A text is read where a file with its bytes has been put. -/
theorem FileSystem.readTextAt_put {fs : FileSystem} {p : Path} {loc : Location} {old text : String}
    {mode : Nat} (h : fs.readTextAt p = .ok (loc, old)) :
    (fs.put loc (.file text.toUTF8 mode)).readTextAt p = .ok (loc, text) := by
  obtain ⟨content, hread, -⟩ := readTextAt_eq_ok.mp h
  obtain ⟨oldMode, hfind⟩ := readAt_eq_ok.mp hread
  obtain ⟨hlocate, -⟩ := find_eq_ok.mp hfind
  obtain ⟨u, hcheck, hfollow⟩ := except_bind_eq_ok.mp hlocate
  have hfile : fs.isDirectory loc = false := isDirectory_of_readTextAt h
  have hdecode : String.fromUTF8? text.toUTF8 = some text := dif_pos text.isValidUTF8
  refine readTextAt_eq_ok.mpr ⟨text.toUTF8, readAt_eq_ok.mpr ⟨mode, find_eq_ok.mpr ⟨?_, ?_⟩⟩, hdecode⟩
  · exact except_bind_eq_ok.mpr ⟨u, hcheck, follow_put hfile hfollow⟩
  · exact node?_put_self fs loc _

namespace Batch

section

variable {options : Options} {ids : BuildIds} {fs s : FileSystem} {fileList shader : Path}
  {shaders shaders' : List Path} {progress : Progress} {W : Set Location}

/-! ## What a batch reports -/

/-- The unit and the header of a shader that is written. -/
def Verdict.written? : Verdict → Option (ShaderUnit × Path)
  | .writes unit header _ _ => some (unit, header)
  | _ => none

/-- What a batch reports that nothing stops. -/
theorem foldl_note {verdicts : List Verdict} (hpass : ∀ v ∈ verdicts, v.passes = true) :
    verdicts.foldl (Verdict.note options) progress =
      { processed := progress.processed + verdicts.length
        upToDate := progress.upToDate + verdicts.countP (·.written?.isNone)
        headers := progress.headers ++ (verdicts.filterMap Verdict.written?).map Prod.snd
        work := if options.headersOnly then progress.work
          else ((verdicts.filterMap Verdict.written?).map Prod.fst).foldl WorkManifest.insert
            progress.work } := by
  induction verdicts generalizing progress with
  | nil => simp
  | cons v rest ih =>
      obtain ⟨hfirst, hrest⟩ := List.forall_mem_cons.mp hpass
      rw [List.foldl_cons, ih hrest]
      cases v with
      | current =>
          have hnone : Verdict.current.written? = none := rfl
          rw [List.filterMap_cons_none hnone, List.countP_cons_of_pos (by rw [hnone]; rfl),
            List.length_cons]
          simp [Verdict.note, Progress.skip, Nat.add_assoc, Nat.add_comm 1]
      | writes unit header loc content =>
          have hwritten : (Verdict.writes unit header loc content).written? = some (unit, header) := rfl
          rw [List.filterMap_cons_some hwritten, List.countP_cons_of_neg (by simp [hwritten]),
            List.length_cons]
          unfold Verdict.note Progress.note
          cases options.headersOnly with
          | true => simp [Nat.add_assoc, Nat.add_comm 1]
          | false => simp [Nat.add_assoc, Nat.add_comm 1]
      | blocked => cases hfirst
      | fails => cases hfirst

/-! ## Shaders of different names -/

/-- No two shaders of a list have one name. -/
def NamesApart (options : Options) (shaders : List Path) : Prop :=
  shaders.Pairwise fun p q => ∀ r r', identify p options.model = .ok r →
    identify q options.model = .ok r' → r.2 ≠ r'.2

theorem NamesApart.perm (h : NamesApart options shaders) (hperm : shaders'.Perm shaders) :
    NamesApart options shaders' := by
  refine (hperm.pairwise_iff ?_).mpr h
  intro p q hpq r r' hr hr'
  exact (hpq r' r hr' hr).symm

theorem exists_writes_of_written? {verdict : Verdict} {unit : ShaderUnit} {header : Path}
    (h : verdict.written? = some (unit, header)) :
    ∃ loc content, verdict = .writes unit header loc content := by
  cases verdict with
  | writes u hd loc content =>
      cases h
      exact ⟨loc, content, rfl⟩
  | current => cases h
  | blocked => cases h
  | fails => cases h

theorem NamesApart.nodup_names (h : NamesApart options shaders) :
    (((shaders.map (judge options ids fs)).filterMap Verdict.written?).map fun e => e.1.name).Nodup := by
  unfold List.Nodup
  rw [List.pairwise_map, List.filterMap_map, List.pairwise_filterMap]
  refine h.imp ?_
  rintro p q hpq ⟨u, hd⟩ hu ⟨u', hd'⟩ hu'
  obtain ⟨loc, content, hwrites⟩ := exists_writes_of_written? hu
  obtain ⟨loc', content', hwrites'⟩ := exists_writes_of_written? hu'
  exact hpq _ _ (builds_of_writes hwrites).1.identified (builds_of_writes hwrites').1.identified

/-- **Shaders of different names are written to different places.** -/
theorem NamesApart.nodup_places (h : NamesApart options shaders) :
    (((shaders.map (judge options ids fs)).filterMap Verdict.put?).map Prod.fst).Nodup := by
  unfold List.Nodup
  rw [List.pairwise_map, List.filterMap_map, List.pairwise_filterMap]
  refine h.imp ?_
  rintro p q hpq ⟨loc, node⟩ hput ⟨loc', node'⟩ hput'
  obtain ⟨unit, content, hbuilds, hplace, -⟩ := builds_of_put? hput
  obtain ⟨unit', content', hbuilds', hplace', -⟩ := builds_of_put? hput'
  exact Header.place_ne_of_name_ne (slash_notMem_of_identify hbuilds.identified)
    (slash_notMem_of_identify hbuilds'.identified)
    (hpq _ _ hbuilds.identified hbuilds'.identified) hplace hplace'

/-! ## Lists with the same lines -/

/-- Two texts have the same lines, in some order each. Blanks around a line do not count, nor does how a
    line ends. -/
def SameLines (text text' : String) : Prop :=
  ((Text.lines text').map fun line => Text.trim line.toList).Perm
    ((Text.lines text).map fun line => Text.trim line.toList)

/-- The shaders that a list names. -/
def listed (fileList : Path) (text : String) : List Path :=
  (FileList.entries text).map fileList.directory.child

theorem SameLines.listed_perm {text text' : String} (h : SameLines text text') :
    (listed fileList text').Perm (listed fileList text) :=
  ((h.filter FileList.isEntry).map String.ofList).map fileList.directory.child

/-- **The shaders of a list have nothing to do with each other**, nor with the locations of `unread`: no two
    have one name, the directories of their headers are there, and nothing that a batch may write to, and
    none of `unread`, is a source, a compiled shader or something that an identifier is found out from. The
    list itself is not written to either. -/
structure Independent (options : Options) (ids : BuildIds) (fs : FileSystem) (fileList : Path)
    (loc : Location) (text : String) (unread : Set Location) : Prop where
  located : locate fs options.fileList = .ok fileList
  read : fs.readTextAt fileList = .ok (loc, text)
  unwritten : fs.Misses (outputPlaces options fs fileList (listed fileList text)) fileList
  apart : NamesApart options (listed fileList text)
  shader : ∀ shader ∈ listed fileList text,
    Unaffected options ids fs (unread ∪ outputPlaces options fs fileList (listed fileList text)) shader

/-- **Two runs end alike** but for the list at a location: they report the same, the headers in some order,
    and everything else in the file systems is the same, above all the headers and the manifest. -/
structure Alike (loc : Location) (summary summary' : Summary) (F F' : FileSystem) : Prop where
  processed : summary'.processed = summary.processed
  upToDate : summary'.upToDate = summary.upToDate
  headers : summary'.headers.Perm summary.headers
  manifest : summary'.manifest = summary.manifest
  written : ∀ p, p ∈ summary.headers ∨ summary.manifest = some p →
    ∃ found, F.find p = .ok found ∧ F'.find p = .ok found
  elsewhere : ∀ l, l ≠ loc → F'.node? l = F.node? l

/-- **Two runs have the same outcome**: both fail, for whatever reasons, or both succeed and end alike. -/
inductive SameOutcome (loc : Location) :
    Attempt Summary × FileSystem → Attempt Summary × FileSystem → Prop where
  | fail (e e' : Failure) (F F' : FileSystem) : SameOutcome loc (.error e, F) (.error e', F')
  | succeed {summary summary' : Summary} {F F' : FileSystem} (h : Alike loc summary summary' F F') :
    SameOutcome loc (.ok summary, F) (.ok summary', F')

/-! ## The end of both runs -/

/-- Two batches have done the same in another order. -/
structure Progress.Alike (progress progress' : Progress) : Prop where
  processed : progress'.processed = progress.processed
  upToDate : progress'.upToDate = progress.upToDate
  headers : progress'.headers.Perm progress.headers
  work : progress'.work = progress.work

/-- What stands elsewhere is found by its path in both file systems. -/
theorem exists_find_of_agreeOff {F F' : FileSystem} {p : Path} {l : Location} (hagree : AgreeOff W F F')
    (hplace : F.place p = .ok l) (hl : l ∉ W) (hsome : (F.node? l).isSome) :
    ∃ found, F.find p = .ok found ∧ F'.find p = .ok found := by
  obtain ⟨node, hnode⟩ := Option.isSome_iff_exists.mp hsome
  exact ⟨(l, node), find_of_place hplace hnode,
    find_of_place (hagree.place hplace) ((hagree.node? l hl).trans hnode)⟩

/-- **The same outcome in the end**, when both runs have done the same so far and what stands elsewhere is
    the same. -/
theorem sameOutcome_finish {t : FileSystem} {progress' : Progress} {loc : Location}
    (hprogress : progress.Alike progress') (hagree : AgreeOff {loc} s t)
    (hmanifest : ∀ l, s.place (WorkManifest.path fileList) = .ok l → l ≠ loc)
    (hheaders : ∀ p ∈ progress.headers, ∃ l, s.place p = .ok l ∧ l ≠ loc ∧ (s.node? l).isSome) :
    SameOutcome loc (finish fileList progress s) (finish fileList progress' t) := by
  have hsame (fs : FileSystem) :
      manifestPlace fs fileList progress' = manifestPlace fs fileList progress := by
    unfold manifestPlace
    rw [hprogress.work]
  rw [finish_eq, finish_eq, hsame, hprogress.work]
  cases hput : manifestPlace s fileList progress with
  | error e =>
      cases hput' : manifestPlace t fileList progress with
      | error e' => exact .fail e e' s t
      | ok put' =>
          rw [manifestPlace_of_agreeOff hagree.symm hput'] at hput
          cases hput
  | ok put =>
      rw [manifestPlace_of_agreeOff hagree hput]
      cases put with
      | none =>
          refine .succeed ⟨hprogress.processed, hprogress.upToDate, hprogress.headers, rfl, ?_, hagree.node?⟩
          rintro p (hheader | hnone)
          · obtain ⟨l, hplace, hne, hsome⟩ := hheaders p hheader
            exact exists_find_of_agreeOff hagree hplace hne hsome
          · cases hnone
      | some l =>
          obtain ⟨-, hplace, hfile⟩ := manifestPlace_eq_some hput
          have hmode : t.writtenMode l = s.writtenMode l := by
            unfold writtenMode
            rw [hagree.node? l (hmanifest l hplace)]
          simp only [hmode]
          have hs : AgreeOff Set.univ s
              (s.put l (.file progress.work.toJson.toUTF8 (s.writtenMode l))) := .put_file trivial hfile
          have hend := hagree.congr_put l (.file progress.work.toJson.toUTF8 (s.writtenMode l))
          refine .succeed ⟨hprogress.processed, hprogress.upToDate, hprogress.headers, rfl, ?_, hend.node?⟩
          rintro p (hheader | hmanifested)
          · obtain ⟨l', hplace', hne, hsome⟩ := hheaders p hheader
            exact exists_find_of_agreeOff hend (hs.place hplace') hne (isSome_node?_put hsome)
          · cases hmanifested
            refine exists_find_of_agreeOff hend (hs.place hplace) (hmanifest l hplace) ?_
            rw [node?_put_self]
            rfl

/-! ## Both runs -/

/-- **The same verdicts in another order** make the same progress. -/
theorem alike_of_perm (hperm : shaders'.Perm shaders) (hapart : NamesApart options shaders)
    (hpass : ∀ shader ∈ shaders, (judge options ids fs shader).passes = true) :
    Progress.Alike ((shaders.map (judge options ids fs)).foldl (Verdict.note options) {})
      ((shaders'.map (judge options ids fs)).foldl (Verdict.note options) {}) := by
  have hverdicts := hperm.map (judge options ids fs)
  have hwritten := hverdicts.filterMap Verdict.written?
  have hnames : ((((shaders'.map (judge options ids fs)).filterMap Verdict.written?).map Prod.fst).map
      ShaderUnit.name).Nodup := by
    rw [List.map_map]
    exact (hapart.perm hperm).nodup_names
  have hpass₁ : ∀ v ∈ shaders.map (judge options ids fs), v.passes = true :=
    List.forall_mem_map.mpr hpass
  have hpass₂ : ∀ v ∈ shaders'.map (judge options ids fs), v.passes = true :=
    fun v hv => hpass₁ v (hverdicts.mem_iff.mp hv)
  rw [foldl_note hpass₁, foldl_note hpass₂]
  refine ⟨congrArg (0 + ·) hverdicts.length_eq, congrArg (0 + ·) (hverdicts.countP_eq _),
    (hwritten.map Prod.snd).append_left [], ?_⟩
  show (if options.headersOnly then _ else _) = (if options.headersOnly then _ else _)
  rw [WorkManifest.foldl_insert_perm (hwritten.map Prod.fst) hnames]

/-- The headers that a batch reports are those that it has written. -/
theorem exists_put_of_mem_headers
    (hpass : ∀ shader ∈ shaders, (judge options ids fs shader).passes = true) {p : Path}
    (hp : p ∈ ((shaders.map (judge options ids fs)).foldl (Verdict.note options) {}).headers) :
    ∃ shader ∈ shaders, ∃ e, (judge options ids fs shader).put? = some e ∧ fs.place p = .ok e.1 := by
  rw [foldl_note (List.forall_mem_map.mpr hpass)] at hp
  obtain ⟨⟨unit, header⟩, hmem, rfl⟩ := List.mem_map.mp ((List.mem_append.mp hp).resolve_left List.not_mem_nil)
  obtain ⟨verdict, hverdict, hwritten⟩ := List.mem_filterMap.mp hmem
  obtain ⟨shader, hshader, rfl⟩ := List.mem_map.mp hverdict
  obtain ⟨loc, content, hwrites⟩ := exists_writes_of_written? hwritten
  exact ⟨shader, hshader, _, by rw [hwrites]; rfl, (builds_of_writes hwrites).2.2⟩

theorem agreeOff_puts (hputs : ∀ shader ∈ shaders, ∀ loc node,
      (judge options ids fs shader).put? = some (loc, node) → loc ∈ W) :
    AgreeOff W fs (fs.putAll ((shaders.map (judge options ids fs)).filterMap Verdict.put?)) := by
  refine .putAll fun e he => ?_
  obtain ⟨verdict, hverdict, hput⟩ := List.mem_filterMap.mp he
  obtain ⟨shader, hshader, rfl⟩ := List.mem_map.mp hverdict
  exact ⟨hputs shader hshader e.1 e.2 hput, isDirectory_of_put? hput⟩

section

variable {loc : Location} {text text' : String} {mode : Nat}

theorem Independent.ne_of_mem_outputPlaces {unread : Set Location}
    (h : Independent options ids fs fileList loc text unread) {l : Location}
    (hl : l ∈ outputPlaces options fs fileList (listed fileList text)) : l ≠ loc := by
  rintro rfl
  exact h.unwritten l hl (Or.inl (locate_of_readTextAt h.read))

theorem run_of_listed {s : FileSystem} (hlocated : locate s options.fileList = .ok fileList)
    (hread : s.readTextAt fileList = .ok (loc, text)) (hsome : listed fileList text ≠ []) :
    run options ids s = goOn options ids fileList (listed fileList text) {} s :=
  run_of_lists ⟨hlocated, FileList.read_eq_ok.mpr ⟨hsome, loc, text, hread, rfl⟩⟩

theorem run_of_nothing_listed {s : FileSystem} (hlocated : locate s options.fileList = .ok fileList)
    (hread : s.readTextAt fileList = .ok (loc, text)) (hnone : listed fileList text = []) :
    ∃ e, run options ids s = (.error e, s) := by
  refine run_of_not_lists fun fileList' shaders hlists => ?_
  obtain rfl : fileList = fileList' := Except.ok.inj (hlocated.symm.trans hlists.located)
  obtain ⟨hsome, loc', text', hread', hnames⟩ := FileList.read_eq_ok.mp hlists.read
  cases hread.symm.trans hread'
  exact hsome (hnames.symm.trans hnone)

/-- What a batch puts somewhere is not put at its list, nor outside its outputs. -/
theorem Independent.mem_of_put? {unread : Set Location}
    (h : Independent options ids fs fileList loc text unread) (hshader : shader ∈ listed fileList text)
    {l : Location} {node : Node} (hput : (judge options ids fs shader).put? = some (l, node)) :
    l ∈ unread ∪ outputPlaces options fs fileList (listed fileList text) ∧ l ≠ loc :=
  have hmem := mem_outputPlaces_of_put? hshader hput
  ⟨Or.inr hmem, h.ne_of_mem_outputPlaces hmem⟩

section

variable (h : Independent options ids fs fileList loc text {loc})
  (hperm : shaders'.Perm (listed fileList text))
  (hagree : AgreeOff {loc} fs s)

include h hperm hagree

/-- Nothing stops the batch: the same is put in the same places, in another order. -/
theorem sameOutcome_of_passes
    (hpass : ∀ shader ∈ listed fileList text, (judge options ids fs shader).passes = true) :
    SameOutcome loc (goOn options ids fileList (listed fileList text) {} fs)
      (goOn options ids fileList shaders' {} s) := by
  have hmem' {shader : Path} (hshader : shader ∈ shaders') : shader ∈ listed fileList text :=
    hperm.mem_iff.mp hshader
  have hputs : ∀ shader ∈ listed fileList text, ∀ l node,
      (judge options ids fs shader).put? = some (l, node) →
        l ∈ {loc} ∪ outputPlaces options fs fileList (listed fileList text) :=
    fun shader hshader l node hput => (h.mem_of_put? hshader hput).1
  have hs : AgreeOff _ fs _ := agreeOff_puts hputs
  have hplaces : (((listed fileList text).map (judge options ids fs)).filterMap Verdict.put? |>.map
      Prod.fst).Nodup := h.apart.nodup_places
  have hend := hagree.putAll_perm ((hperm.map (judge options ids fs)).filterMap Verdict.put?) hplaces
  rw [goOn_of_passes h.shader hputs (.refl fs) hpass,
    goOn_of_passes (fun shader hshader => h.shader shader (hmem' hshader))
      (fun shader hshader => hputs shader (hmem' hshader)) (hagree.mono Set.subset_union_left)
      fun shader hshader => hpass shader (hmem' hshader)]
  refine sameOutcome_finish (alike_of_perm hperm h.apart hpass) hend ?_ ?_
  · intro l hl
    exact h.ne_of_mem_outputPlaces ⟨_, .manifest, hs.symm.place hl⟩
  · intro p hp
    obtain ⟨shader, hshader, e, hput, hplace⟩ := exists_put_of_mem_headers hpass hp
    refine ⟨e.1, hs.place hplace, (h.mem_of_put? hshader hput).2, ?_⟩
    have hmem : e ∈ ((listed fileList text).map (judge options ids fs)).filterMap Verdict.put? :=
      List.mem_filterMap.mpr ⟨_, List.mem_map_of_mem hshader, hput⟩
    rw [node?_putAll_of_mem hplaces hmem]
    rfl

/-- Some shader stops the batch, each time when its turn comes. -/
theorem sameOutcome_of_not_passes
    (hstop : ∃ shader ∈ listed fileList text, (judge options ids fs shader).passes = false) :
    SameOutcome loc (goOn options ids fileList (listed fileList text) {} fs)
      (goOn options ids fileList shaders' {} s) := by
  have hmem' {shader : Path} (hshader : shader ∈ shaders') : shader ∈ listed fileList text :=
    hperm.mem_iff.mp hshader
  obtain ⟨shader, hshader, hstop⟩ := hstop
  obtain ⟨e, F, hfails⟩ : ∃ e F, goOn options ids fileList (listed fileList text) {} fs = (.error e, F) :=
    goOn_of_not_passes h.shader (fun _ hmem _ _ hput => (h.mem_of_put? hmem hput).1) (.refl fs)
      ⟨shader, hshader, hstop⟩
  obtain ⟨e', F', hfails'⟩ : ∃ e F, goOn options ids fileList shaders' {} s = (.error e, F) :=
    goOn_of_not_passes (fun _ hmem => h.shader _ (hmem' hmem))
      (fun _ hmem _ _ hput => (h.mem_of_put? (hmem' hmem) hput).1)
      (hagree.mono Set.subset_union_left) ⟨shader, hperm.mem_iff.mpr hshader, hstop⟩
  rw [hfails, hfails']
  exact .fail e e' F F'

end

/-- **The order of a list does not matter** for shaders that have nothing to do with each other and do not
    read the list: with the lines in another order, a run fails or succeeds as before, reports the same and
    leaves the same headers and the same manifest. -/
theorem run_of_sameLines (h : Independent options ids fs fileList loc text {loc})
    (hlines : SameLines text text') (mode : Nat) :
    SameOutcome loc (run options ids fs) (run options ids (fs.put loc (.file text'.toUTF8 mode))) := by
  have hperm : (listed fileList text').Perm (listed fileList text) := hlines.listed_perm
  have hread' : (fs.put loc (.file text'.toUTF8 mode)).readTextAt fileList = .ok (loc, text') :=
    readTextAt_put h.read
  by_cases hnone : listed fileList text = []
  · have hnone' : listed fileList text' = [] := by
      rw [hnone] at hperm
      exact hperm.eq_nil
    obtain ⟨e, hrun⟩ : ∃ e, run options ids fs = (.error e, fs) :=
      run_of_nothing_listed h.located h.read hnone
    obtain ⟨e', hrun'⟩ : ∃ e, run options ids (fs.put loc (.file text'.toUTF8 mode)) = (.error e, _) :=
      run_of_nothing_listed h.located hread' hnone'
    rw [hrun, hrun']
    exact .fail ..
  · have hnone' : listed fileList text' ≠ [] := fun hnil => hnone (by rw [hnil] at hperm; exact hperm.nil_eq.symm)
    have hagree : AgreeOff {loc} fs (fs.put loc (.file text'.toUTF8 mode)) :=
      .put_file rfl (isDirectory_of_readTextAt h.read)
    have hlocated' : locate (fs.put loc (.file text'.toUTF8 mode)) options.fileList = .ok fileList := h.located
    rw [run_of_listed h.located h.read hnone, run_of_listed hlocated' hread' hnone']
    by_cases hpass : ∀ shader ∈ listed fileList text, (judge options ids fs shader).passes = true
    · exact sameOutcome_of_passes h hperm hagree hpass
    · exact sameOutcome_of_not_passes h hperm hagree (by simpa using hpass)

end

end

/-! Two shaders, of which one includes a file, in either order. -/

namespace Swapped

def text : String :=
  "a_ps30.fxc\nb_vs30.fxc\n"

def text' : String :=
  "b_vs30.fxc\na_ps30.fxc\n"

def files : FileSystem where
  nodes := [
    (["include"], .directory newDirectoryMode),
    (["list.txt"], .file text.toUTF8 newFileMode),
    (["a_ps30.fxc"], .file "#include \"c.h\"\n".toUTF8 newFileMode),
    (["b_vs30.fxc"], .file "".toUTF8 newFileMode),
    (["c.h"], .file "".toUTF8 newFileMode)]

def options : Options where
  fileList := ⟨"list.txt"⟩
  model := .three

def shaders : List Path :=
  [⟨"/a_ps30.fxc"⟩, ⟨"/b_vs30.fxc"⟩]

/-- The list and all that the batch may write to. -/
def locations : List Location :=
  ["list.txt"] :: outputLocations options files ⟨"/list.txt"⟩ shaders

theorem identify_eq : identify ⟨"/a_ps30.fxc"⟩ options.model = .ok (.pixel, "a_ps30") ∧
    identify ⟨"/b_vs30.fxc"⟩ options.model = .ok (.vertex, "b_vs30") := by
  decide +kernel

theorem apart : NamesApart options shaders := by
  refine List.pairwise_pair.mpr fun r r' hr hr' => ?_
  cases identify_eq.1.symm.trans hr
  cases identify_eq.2.symm.trans hr'
  decide

theorem unaffected {shader : Path} (h : shader ∈ shaders) :
    Unaffected options BuildIds.hashing files {loc | loc ∈ locations} shader := by
  have hclosed : ∀ p ∈ ⟨"/c.h"⟩ :: shaders, ∀ q ∈ Source.included files p, q ∈ ⟨"/c.h"⟩ :: shaders := by
    decide +kernel
  have hmiss : ∀ p ∈ ⟨"/c.h"⟩ :: shaders, ∀ loc ∈ locations,
      files.locate p ≠ .ok loc ∧ files.place p ≠ .ok loc := by
    decide +kernel
  have hdirectory : ∀ shader ∈ shaders,
      files.isDirectoryAt (includeDirectory options shader) = true := by
    decide +kernel
  have hsource : Source.Misses files {loc | loc ∈ locations} shader :=
    Source.misses_of_closed hclosed (fun p hp => misses_of_forall (hmiss p hp)) (List.mem_cons_of_mem _ h)
  refine ⟨hdirectory shader h, hsource, ?_, fun fs' hagree id => BuildIds.hashing_iff hagree hsource⟩
  intro stage name hidentified
  rcases List.mem_pair.mp h with rfl | rfl
  · cases identify_eq.1.symm.trans hidentified
    exact misses_of_forall (by decide +kernel)
  · cases identify_eq.2.symm.trans hidentified
    exact misses_of_forall (by decide +kernel)

theorem independent :
    Independent options BuildIds.hashing files ⟨"/list.txt"⟩ ["list.txt"] text {["list.txt"]} := by
  have hlisted : listed ⟨"/list.txt"⟩ text = shaders := by decide +kernel
  have hmiss : files.Misses {loc | loc ∈ outputLocations options files ⟨"/list.txt"⟩ shaders}
      ⟨"/list.txt"⟩ := misses_of_forall (by decide +kernel)
  refine ⟨by decide +kernel, by decide +kernel, ?_, ?_, ?_⟩
  · rw [hlisted]
    exact hmiss.mono fun _ => mem_outputLocations
  · rw [hlisted]
    exact apart
  · rw [hlisted]
    refine fun shader hshader => (unaffected hshader).mono ?_
    rintro loc (rfl | hloc)
    · exact List.mem_cons_self
    · exact List.mem_cons_of_mem _ (mem_outputLocations hloc)

theorem sameLines : SameLines text text' := by
  unfold SameLines
  decide +kernel

end Swapped

theorem run_of_sameLines_swapped :
    Independent Swapped.options BuildIds.hashing Swapped.files ⟨"/list.txt"⟩ ["list.txt"] Swapped.text
        {["list.txt"]} ∧
      SameLines Swapped.text Swapped.text' ∧
        SameOutcome ["list.txt"] (run Swapped.options BuildIds.hashing Swapped.files)
          (run Swapped.options BuildIds.hashing
            (Swapped.files.put ["list.txt"] (.file Swapped.text'.toUTF8 newFileMode))) :=
  ⟨Swapped.independent, Swapped.sameLines,
    run_of_sameLines Swapped.independent Swapped.sameLines newFileMode⟩

/-! A list that names itself. Its lines are the lines of a source, and the order of its rules is that of the
comments in its header. -/

namespace SelfListed

def text : String :=
  "// SKIP: A\n// SKIP: B\nlist_ps30.fxc\n"

def text' : String :=
  "// SKIP: B\n// SKIP: A\nlist_ps30.fxc\n"

def files : FileSystem where
  nodes := [
    (["include"], .directory newDirectoryMode),
    (["list_ps30.fxc"], .file text.toUTF8 newFileMode)]

def files' : FileSystem :=
  files.put ["list_ps30.fxc"] (.file text'.toUTF8 newFileMode)

def options : Options where
  fileList := ⟨"list_ps30.fxc"⟩
  model := .three
  headersOnly := true

def ids : BuildIds :=
  BuildIds.unavailable "boom"

def shader : Path :=
  ⟨"/list_ps30.fxc"⟩

def header : Path :=
  ⟨"/include/list_ps30.inc"⟩

def place : Location :=
  ["include", "list_ps30.inc"]

/-- The unit of a list with some rules. -/
def unit (rules : List String) : ShaderUnit where
  name := "list_ps30"
  stage := .pixel
  model := .three
  version := "30"
  skipRules := rules
  files := ["list_ps30.fxc"]

theorem exists_text (rules : List String) : ∃ content, Header.text (unit rules) = .ok content :=
  ⟨_, rfl⟩

/-- The list lies in a file system with some rules, and its header has not been written yet. -/
structure Stands (fs : FileSystem) (text : String) (rules : List String) : Prop where
  lists : Lists options fs shader [shader]
  directory : fs.isDirectoryAt (includeDirectory options shader) = true
  stale : options.config.artifacts.isCurrent ids fs shader "list_ps30" = false
  read : fs.readTextAt shader = .ok (["list_ps30.fxc"], text)
  includes : ∀ line ∈ Text.lines text, includeTarget? line = none
  found : Declarations.ofLines (Directive.Filter.forModel .pixel .three) (Text.lines text)
    = .ok { skipRules := rules }
  header : fs.place header = .ok place
  file : fs.isDirectory place = false

theorem stands : Stands files text ["A", "B"] :=
  ⟨⟨by decide +kernel, by decide +kernel⟩, by decide +kernel, by decide +kernel, by decide +kernel,
    by decide +kernel, by decide +kernel, by decide +kernel, by decide +kernel⟩

theorem stands' : Stands files' text' ["B", "A"] :=
  ⟨⟨by decide +kernel, by decide +kernel⟩, by decide +kernel, by decide +kernel, by decide +kernel,
    by decide +kernel, by decide +kernel, by decide +kernel, by decide +kernel⟩

theorem identify_eq : identify shader options.model = .ok (.pixel, "list_ps30") ∧
    (includeDirectory options shader).child ("list_ps30" ++ ".inc") = header := by
  decide +kernel

section

variable {fs : FileSystem} {text content : String} {rules : List String}

/-- The rules stand in the header as they stand in the list. -/
theorem run_eq (h : Stands fs text rules) (htext : Header.text (unit rules) = .ok content) :
    run options ids fs = (.ok ⟨1, 0, [header], none⟩,
      fs.put place (.file content.toUTF8 Header.finishedMode)) := by
  have hunit : ShaderUnit.ofFile fs shader "list_ps30" .pixel options.model = .ok (unit rules) :=
    ShaderUnit.ofFile_of_forall_none h.read h.includes h.found
  have hheader : Header.path (unit rules) (includeDirectory options shader) = header := identify_eq.2
  have hjudge : judge options ids fs shader = .writes (unit rules) header place content := by
    unfold judge judgeUnit
    simp only [identify_eq.1, h.stale, Bool.false_eq_true, if_false, hunit, htext, hheader, h.header,
      h.file]
  rw [run_of_lists h.lists, goOn_cons h.directory, hjudge]
  rfl

theorem find_header (h : Stands fs text rules) :
    (fs.put place (.file content.toUTF8 Header.finishedMode)).find header
      = .ok (place, .file content.toUTF8 Header.finishedMode) := by
  have hagree : AgreeOff Set.univ fs (fs.put place (.file content.toUTF8 Header.finishedMode)) :=
    .put_file trivial h.file
  exact find_of_place (hagree.place h.header) (node?_put_self fs _ _)

end

theorem independent : Independent options ids files shader ["list_ps30.fxc"] text ∅ := by
  have hlisted : listed shader text = [shader] := by decide +kernel
  have hmiss : files.Misses {loc | loc ∈ outputLocations options files shader [shader]} shader :=
    misses_of_forall (by decide +kernel)
  have hclosed : ∀ p ∈ [shader], ∀ q ∈ Source.included files p, q ∈ [shader] := by decide +kernel
  have hsource : Source.Misses files {loc | loc ∈ outputLocations options files shader [shader]} shader :=
    Source.misses_of_closed hclosed (List.forall_mem_singleton.mpr hmiss) List.mem_cons_self
  refine ⟨stands.lists.located, stands.read, ?_, ?_, ?_⟩
  · rw [hlisted]
    exact hmiss.mono fun _ => mem_outputLocations
  · rw [hlisted]
    exact List.pairwise_singleton _ _
  · rw [hlisted, Set.empty_union]
    intro shader' hshader'
    obtain rfl : shader' = shader := List.mem_singleton.mp hshader'
    refine Unaffected.mono ⟨stands.directory, hsource, ?_, fun _ _ _ => Iff.rfl⟩
      fun _ => mem_outputLocations
    intro stage name hidentified
    cases identify_eq.1.symm.trans hidentified
    exact misses_of_forall (by decide +kernel)

theorem sameLines : SameLines text text' := by
  unfold SameLines
  decide +kernel

theorem text_ne : Header.text (unit ["A", "B"]) ≠ Header.text (unit ["B", "A"]) := by
  decide +kernel

theorem not_sameOutcome :
    ¬ SameOutcome ["list_ps30.fxc"] (run options ids files) (run options ids files') := by
  obtain ⟨content, htext⟩ := exists_text ["A", "B"]
  obtain ⟨content', htext'⟩ := exists_text ["B", "A"]
  rw [run_eq stands htext, run_eq stands' htext']
  rintro (_ | halike)
  obtain ⟨found, hfound, hfound'⟩ := halike.written header (Or.inl List.mem_cons_self)
  have hsame := (find_header stands).symm.trans (hfound.trans (hfound'.symm.trans (find_header stands')))
  injection hsame with hsame
  injection hsame with hplace hnode
  injection hnode with hbytes hmode
  rw [String.toByteArray_inj.mp hbytes, ← htext'] at htext
  exact text_ne htext

end SelfListed

/-- **The order of a list can matter** if the list is one of its shaders. -/
theorem not_forall_sameOutcome :
    ¬ ∀ options ids fs fileList loc text text' mode,
      Independent options ids fs fileList loc text ∅ → SameLines text text' →
        SameOutcome loc (run options ids fs) (run options ids (fs.put loc (.file text'.toUTF8 mode))) :=
  fun h => SelfListed.not_sameOutcome
    (h SelfListed.options SelfListed.ids SelfListed.files SelfListed.shader ["list_ps30.fxc"]
      SelfListed.text SelfListed.text' newFileMode SelfListed.independent SelfListed.sameLines)

end Batch

end ShaderCombos
