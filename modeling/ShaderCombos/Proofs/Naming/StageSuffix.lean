import Mathlib
import ShaderCombos.Proofs.Directive.Filtering
import ShaderCombos.Proofs.Naming

/-!
# `Proofs.Naming.StageSuffix` — the stage that a name tells, and the name that tells it

The name of a source ends in a stage suffix, such as `_ps2x`. The stage is read off it, and the name of what is
built has a suffix in its place that holds the version that was built for. The two agree if the name that comes
out tells the stage that was read, and gives itself again when it is built from.

A name has one stage suffix at most: the scan from the left finds the only place where one reaches to the end
(`StageSuffix.front_unique`, `splitSuffix?_eq_some_iff`). A name that was built is in lower case already, so
reading it again finds the same suffix (`stem_outputName`). What does not hold is that the suffix is spelled with
the letters of the stage that was read. A long s counts as an s in a suffix and stays what it is in lower case;
with it any suffix is read as the pixel stage, that of a vertex shader as well (`stage_and_outputName`).

## Contents
- **Suffixes.** `StageSuffix`, `StageSuffix.front_unique`.
- **Scanning.** `version?_chars`, `suffixLetters?_eq_some_iff`, `splitSuffix?_eq_some_iff`.
- **Extensions.** `Path.fileStem?_named`, `stem_named`.
- **Stages.** `StageSuffix.read`, `stage_of_stem`, `outputName_of_stem`, `StageSuffix.letters_cases`.
- **Agreement.** `outputName_cases`, `stem_outputName`, `stage_and_outputName`, `not_forall_outputName_eq_letters`.
-/

namespace ShaderCombos

namespace Naming

open Text Directive

/-! ## Suffixes -/

/-- **A stage suffix**: an underscore, the two letters of a stage in either case, and a version. -/
structure StageSuffix where
  stage : Stage
  first : Char
  second : Char
  letters : isStage stage first second = true
  version : Version

namespace StageSuffix

variable {x y : StageSuffix} {front front' : List Char}

/-- The suffix as it is spelled. -/
def text (x : StageSuffix) : List Char :=
  '_' :: x.first :: x.second :: x.version.chars

/-- The first letter of a suffix, in either case. -/
theorem first_eq (x : StageSuffix) : (x.first = 'v' ∨ x.first = 'V') ∨ x.first = 'p' ∨ x.first = 'P' := by
  have hfirst := first_of_isStage x.letters
  cases hstage : x.stage with
  | vertex =>
      rw [hstage] at hfirst
      exact Or.inl hfirst
  | pixel =>
      rw [hstage] at hfirst
      exact Or.inr hfirst

theorem underscore_ne_first (x : StageSuffix) : '_' ≠ x.first := by
  intro h
  have hfirst := x.first_eq
  rw [← h] at hfirst
  exact absurd hfirst (by decide)

theorem underscore_ne_second (x : StageSuffix) : '_' ≠ x.second := by
  intro h
  have hsecond := second_of_isStage x.letters
  rw [← h] at hsecond
  exact absurd hsecond (by decide)

/-- No suffix ends in a shorter one: the underscore of that would stand among letters and digits, or last. -/
theorem eq_nil_of_text_eq {z : List Char} (h : x.text = z ++ y.text) : z = [] := by
  obtain ⟨digits, more, hchars, -, hdigits, hmore⟩ := x.version.spelled
  cases z with
  | nil => rfl
  | cons c z =>
      exfalso
      have hplain : '_' ∉ x.first :: x.second :: digits := by
        simp only [List.mem_cons, not_or]
        refine ⟨x.underscore_ne_first, x.underscore_ne_second, fun hdigit => ?_⟩
        exact absurd (hdigits _ hdigit) (by decide)
      have hlength : more.length ≤ 1 := by
        rcases hmore with rfl | ⟨d, rfl, -⟩
        · exact Nat.zero_le 1
        · exact Nat.le_refl 1
      have hrest : (x.first :: x.second :: digits) ++ more = z ++ y.text := by
        have htail := congrArg List.tail h
        simpa [text, hchars] using htail
      have htext : 3 ≤ y.text.length := by
        simp [text]
      rcases List.append_eq_append_iff.mp hrest with ⟨a, -, hshort⟩ | ⟨a, hlong, hend⟩
      · have hsize := congrArg List.length hshort
        rw [List.length_append] at hsize
        omega
      · cases a with
        | nil =>
            have hsize := congrArg List.length hend
            rw [List.nil_append] at hsize
            omega
        | cons b a =>
            have hb : b = '_' := by
              have hhead := congrArg List.head? hend
              simpa [text] using hhead.symm
            rw [hlong, hb] at hplain
            simp at hplain

/-- **A name has one stage suffix at most.** -/
theorem front_unique (h : front ++ x.text = front' ++ y.text) : front = front' := by
  rcases List.append_eq_append_iff.mp h with ⟨z, hfront, htext⟩ | ⟨z, hfront, htext⟩
  · rw [hfront, eq_nil_of_text_eq htext, List.append_nil]
  · rw [hfront, eq_nil_of_text_eq htext, List.append_nil]

end StageSuffix

/-! ## Scanning -/

/-- A version that reaches to the end. -/
theorem version?_chars (v : Version) : version? List.isEmpty v.chars = some v.chars := by
  have hread : version? List.isEmpty (v.chars ++ []) = some v.chars :=
    version?_append v (fun _ hc => nomatch hc) rfl fun _ _ => rfl
  rwa [List.append_nil] at hread

theorem suffixLetters?_eq_some_iff {s letters : List Char} :
    suffixLetters? s = some letters ↔ ∃ x : StageSuffix, s = x.text ∧ letters = [x.first, x.second] := by
  constructor
  · intro h
    unfold suffixLetters? at h
    split at h
    · next first second rest =>
      split at h
      · next hletters =>
        obtain ⟨v, hversion, rfl⟩ := Option.map_eq_some_iff.mp h
        obtain ⟨version, rest', hchars, hsplit, hend⟩ := exists_version_of_version? hversion
        -- Nothing follows the version, so it is all that stands behind the letters.
        rw [List.isEmpty_iff.mp hend, List.append_nil] at hsplit
        obtain ⟨stage, hstage⟩ : ∃ stage, isStage stage first second = true := by
          rcases Bool.or_eq_true_iff.mp hletters with hvertex | hpixel
          · exact ⟨.vertex, hvertex⟩
          · exact ⟨.pixel, hpixel⟩
        refine ⟨⟨stage, first, second, hstage, version⟩, ?_, rfl⟩
        rw [hsplit, ← hchars]
        rfl
      · cases h
    · cases h
  · rintro ⟨x, rfl, rfl⟩
    have hletters : (isStage .vertex x.first x.second || isStage .pixel x.first x.second) = true := by
      have hstage := x.letters
      cases hcase : x.stage with
      | vertex =>
          rw [hcase] at hstage
          rw [hstage, Bool.true_or]
      | pixel =>
          rw [hcase] at hstage
          rw [hstage, Bool.or_true]
    show (if _ then _ else _) = _
    rw [if_pos hletters, version?_chars]
    rfl

/-- What the scan finds is a stage suffix at the end. -/
theorem exists_of_splitSuffix? {s before letters : List Char} (h : splitSuffix? s = some (before, letters)) :
    ∃ x : StageSuffix, s = before ++ x.text ∧ letters = [x.first, x.second] := by
  induction s generalizing before letters with
  | nil => cases h
  | cons c rest ih =>
      unfold splitSuffix? at h
      split at h
      · next found hfound =>
        cases h
        exact suffixLetters?_eq_some_iff.mp hfound
      · obtain ⟨⟨before', letters'⟩, hrest, heq⟩ := Option.map_eq_some_iff.mp h
        cases heq
        obtain ⟨x, rfl, hletters⟩ := ih hrest
        exact ⟨x, rfl, hletters⟩

/-- **The scan finds the stage suffix** at the end, and nothing else. By induction on what stands in front of the
    suffix, where no other begins. -/
theorem splitSuffix?_eq_some_iff {s before letters : List Char} :
    splitSuffix? s = some (before, letters) ↔
      ∃ x : StageSuffix, s = before ++ x.text ∧ letters = [x.first, x.second] := by
  refine ⟨exists_of_splitSuffix?, ?_⟩
  rintro ⟨x, rfl, rfl⟩
  induction before with
  | nil =>
      have hfound : suffixLetters? x.text = some [x.first, x.second] :=
        suffixLetters?_eq_some_iff.mpr ⟨x, rfl, rfl⟩
      rw [StageSuffix.text] at hfound ⊢
      rw [List.nil_append, splitSuffix?, hfound]
  | cons c before ih =>
      have hnone : suffixLetters? (c :: before ++ x.text) = none := by
        rw [Option.eq_none_iff_forall_ne_some]
        intro letters hfound
        obtain ⟨y, hy, -⟩ := suffixLetters?_eq_some_iff.mp hfound
        have hfront : c :: before ++ x.text = [] ++ y.text := hy
        exact List.cons_ne_nil c before (StageSuffix.front_unique hfront)
      rw [List.cons_append] at hnone ⊢
      rw [splitSuffix?, hnone, ih]
      rfl

/-! ## Extensions -/

theorem lowered_of_mem_stem {p : Path} {c : Char} (h : c ∈ stem p) : Lowered c :=
  lowered_of_mem_lowerFrom h

end Naming

namespace Path

/-- The extension of a name is what follows its last dot. -/
theorem stemOfName_append {name ext : List Char} (hname : name ≠ []) (hdot : '.' ∉ ext) :
    stemOfName (name ++ '.' :: ext) = name := by
  have hreverse : (name ++ '.' :: ext).reverse = ext.reverse ++ '.' :: name.reverse := by
    simp
  have hdrop : (ext.reverse ++ '.' :: name.reverse).dropWhile (· ≠ '.') = '.' :: name.reverse :=
    Text.dropWhile_ne (by rwa [List.mem_reverse]) name.reverse
  have hsome : name.reverse.isEmpty = false := by
    simpa using hname
  unfold stemOfName
  rw [hreverse, hdrop]
  simp only [hsome, Bool.false_eq_true, if_false, List.reverse_reverse]

/-- A text without slashes that ends in a letter is a name. -/
theorem fileName?_of_notMem {name : String} {c : Char} (hslash : '/' ∉ name.toList)
    (hend : name.toList.getLast? = some c) (hc : c ≠ '.') : fileName? ⟨name⟩ = some name := by
  obtain ⟨hvoid, hup⟩ := names_of_getLast? hend hc
  have hnamed : namedFromLast ⟨name⟩ = [name.toList] := by
    unfold namedFromLast
    rw [segments_of_notMem hslash, List.reverse_singleton, List.dropWhile_cons_of_neg (by rw [hvoid]; decide)]
  unfold fileName?
  rw [hnamed]
  simp only [hup, Bool.false_eq_true, if_false, String.ofList_toList]

/-- A name to which an extension was given is the stem again. -/
theorem fileStem?_named {name ext : String} (hname : '/' ∉ name.toList) (hne : name ≠ "")
    (hslash : '/' ∉ ext.toList) (hdot : '.' ∉ ext.toList) (hext : ext ≠ "") :
    fileStem? ⟨name ++ "." ++ ext⟩ = some name := by
  have hchars : (name ++ "." ++ ext).toList = name.toList ++ '.' :: ext.toList := by
    simp [String.toList_append]
  have hsome {s : String} (hs : s ≠ "") : s.toList ≠ [] := fun h => hs (String.toList_eq_nil_iff.mp h)
  have hfile : fileName? ⟨name ++ "." ++ ext⟩ = some (name ++ "." ++ ext) := by
    refine fileName?_of_notMem (c := ext.toList.getLast (hsome hext)) ?_ ?_ ?_
    · rw [hchars, List.mem_append, List.mem_cons, not_or, not_or]
      exact ⟨hname, by decide, hslash⟩
    · rw [String.toList_append, List.getLast?_append, List.getLast?_eq_some_getLast (hsome hext)]
      rfl
    · intro hlast
      exact hdot (hlast ▸ List.getLast_mem (hsome hext))
  unfold fileStem?
  rw [hfile, Option.map_some, hchars, stemOfName_append (hsome hne) hdot, String.ofList_toList]

end Path

namespace Naming

open Text Directive

variable {p : Path} {before : List Char} {x : StageSuffix}

/-- A name in lower case is read back as it is, whatever extension it was given. -/
theorem stem_named {name ext : String} (hname : '/' ∉ name.toList) (hne : name ≠ "")
    (hlowered : ∀ c ∈ name.toList, Lowered c)
    (hslash : '/' ∉ ext.toList) (hdot : '.' ∉ ext.toList) (hext : ext ≠ "") :
    stem ⟨name ++ "." ++ ext⟩ = name.toList := by
  unfold stem
  rw [Path.fileStem?_named hname hne hslash hdot hext, Option.getD_some]
  exact lowerFrom_eq_self hlowered

/-! ## Stages -/

/-- The stage that a suffix is read as: the vertex stage if its letters are exactly those, the pixel stage
    otherwise. -/
def StageSuffix.read (x : StageSuffix) : Stage :=
  if [x.first, x.second] = Stage.vertex.letters.toList then .vertex else .pixel

/-- **A source with a stage suffix** has its stage read from it. -/
theorem stage_of_stem (hstem : stem p = before ++ x.text) : stage p = .ok x.read := by
  have hsplit : splitSuffix? (stem p) = some (before, [x.first, x.second]) :=
    splitSuffix?_eq_some_iff.mpr ⟨x, hstem, rfl⟩
  unfold stage
  rw [hsplit]
  rfl

/-- **The name of what is built** has the version behind the letters of the suffix, whatever they are. -/
theorem outputName_of_stem (hstem : stem p = before ++ x.text) (version : String) :
    outputName p version = String.ofList before ++ "_" ++ String.ofList [x.first, x.second] ++ version := by
  have hsplit : splitSuffix? (stem p) = some (before, [x.first, x.second]) :=
    splitSuffix?_eq_some_iff.mpr ⟨x, hstem, rfl⟩
  unfold outputName
  rw [hsplit]
  apply String.toList_injective
  simp [String.toList_append]

/-- A source without a stage suffix has no stage, and its name is not changed. -/
theorem cases_stem (p : Path) :
    (∃ before, ∃ x : StageSuffix, stem p = before ++ x.text) ∨
      stage p = .error (.unknownStage p) ∧ ∀ version, outputName p version = String.ofList (stem p) := by
  cases hsplit : splitSuffix? (stem p) with
  | some cut =>
      obtain ⟨before, letters⟩ := cut
      obtain ⟨x, hstem, -⟩ := splitSuffix?_eq_some_iff.mp hsplit
      exact Or.inl ⟨before, x, hstem⟩
  | none =>
      refine Or.inr ⟨?_, fun version => ?_⟩
      · unfold stage
        rw [hsplit]
      · unfold outputName
        rw [hsplit]

/-- In lower case the stage of a suffix is read and spelled by its letters, unless they hold a long s. -/
theorem StageSuffix.letters_cases (hfirst : Lowered x.first) (hsecond : Lowered x.second) :
    x.second = 's' ∧ x.read = x.stage ∧ [x.first, x.second] = x.stage.letters.toList ∨
      x.second = 'ſ' ∧ x.read = .pixel := by
  rcases second_of_isStage x.letters with h | h | h
  · have hletters : [x.first, x.second] = x.stage.letters.toList := by
      have hstage := first_of_isStage x.letters
      rw [h]
      cases hcase : x.stage with
      | vertex =>
          rw [hcase] at hstage
          rcases hstage with hv | hv
          · rw [hv]
            rfl
          · rw [hv] at hfirst
            exact absurd hfirst (by decide +kernel)
      | pixel =>
          rw [hcase] at hstage
          rcases hstage with hp | hp
          · rw [hp]
            rfl
          · rw [hp] at hfirst
            exact absurd hfirst (by decide +kernel)
    refine Or.inl ⟨h, ?_, hletters⟩
    unfold read
    rw [hletters]
    cases x.stage with
    | vertex => rfl
    | pixel => rfl
  · rw [h] at hsecond
    exact absurd hsecond (by decide +kernel)
  · refine Or.inr ⟨h, ?_⟩
    unfold read
    rw [h, if_neg]
    intro heq
    exact absurd (List.cons.inj (List.cons.inj heq).2).1 (by decide)

/-! ## Agreement -/

/-- **The letters in a name** are those of the stage that was read, unless there is a long s among them. -/
theorem outputName_cases (hstem : stem p = before ++ x.text) (version : String) :
    x.second = 's' ∧ x.read = x.stage ∧
        outputName p version = String.ofList before ++ "_" ++ x.read.letters ++ version ∨
      x.second = 'ſ' ∧ x.read = .pixel ∧
        outputName p version = String.ofList before ++ "_" ++ String.ofList [x.first, 'ſ'] ++ version := by
  have hlowered {c : Char} (hc : c ∈ x.text) : Lowered c := by
    refine lowered_of_mem_stem (p := p) ?_
    rw [hstem]
    exact List.mem_append_right _ hc
  have hname := outputName_of_stem hstem version
  rcases x.letters_cases (hlowered (by simp [StageSuffix.text])) (hlowered (by simp [StageSuffix.text]))
    with ⟨hsecond, hread, hletters⟩ | ⟨hsecond, hpixel⟩
  · refine Or.inl ⟨hsecond, hread, ?_⟩
    rw [hname, hletters, String.ofList_toList, hread]
  · refine Or.inr ⟨hsecond, hpixel, ?_⟩
    rw [hname, hsecond]

/-- **Reading the name again** finds the suffix that was read, with the version that was built for. -/
theorem stem_outputName (hstem : stem p = before ++ x.text) {version : String} {w : Version}
    (hversion : version.toList = w.chars) (hlowered : ∀ c ∈ w.chars, Lowered c) {ext : String}
    (hext : ext ≠ "") (hdot : '.' ∉ ext.toList) (hslash : '/' ∉ ext.toList) :
    stem ⟨outputName p version ++ "." ++ ext⟩ = before ++ { x with version := w : StageSuffix }.text := by
  have hname : (outputName p version).toList = before ++ { x with version := w : StageSuffix }.text := by
    rw [outputName_of_stem hstem, String.toList_append, hversion]
    simp [String.toList_append, StageSuffix.text]
  have hsource {c : Char} (hc : c ∈ before ++ x.text) : Lowered c := by
    rw [← hstem] at hc
    exact lowered_of_mem_stem hc
  rw [stem_named (slash_notMem_outputName p ?_) ?_ ?_ hslash hdot hext, hname]
  · rw [hversion]
    exact fun h => w.ne_of_mem h (by decide) (by decide) rfl
  · intro hempty
    rw [hempty] at hname
    simp [StageSuffix.text] at hname
  · rw [hname]
    intro c hc
    rcases List.mem_append.mp hc with hbefore | htext
    · exact hsource (List.mem_append_left _ hbefore)
    · simp only [StageSuffix.text, List.mem_cons] at htext
      rcases htext with rfl | rfl | rfl | hw
      · exact hsource (by simp [StageSuffix.text])
      · exact hsource (by simp [StageSuffix.text])
      · exact hsource (by simp [StageSuffix.text])
      · exact hlowered c hw

/-- The version tokens are versions in lower case. -/
theorem exists_version_of_token {version : String} (h : version ∈ ["20", "20b", "30"]) :
    ∃ w : Version, version.toList = w.chars ∧ ∀ c ∈ w.chars, Lowered c := by
  have hdigits (ten : Char) (hten : ten.isDigit = true) : ∀ c ∈ [ten, '0'], isDigit c = true := by
    simp only [List.forall_mem_cons]
    exact ⟨isDigit_of_ascii hten, isDigit_of_ascii rfl, List.forall_mem_nil _⟩
  have hnought : Lowered '0' := by decide +kernel
  have htwo : Lowered '2' := by decide +kernel
  simp only [List.mem_cons, List.not_mem_nil, or_false] at h
  rcases h with rfl | rfl | rfl
  · refine ⟨⟨['2', '0'], ['2', '0'], [], rfl, by decide, hdigits '2' rfl, Or.inl rfl⟩, rfl, ?_⟩
    simp only [List.forall_mem_cons]
    exact ⟨htwo, hnought, List.forall_mem_nil _⟩
  · have hletter : Lowered 'b' := by decide +kernel
    refine ⟨⟨['2', '0', 'b'], ['2', '0'], ['b'], rfl, by decide, hdigits '2' rfl,
      Or.inr ⟨'b', rfl, by decide +kernel⟩⟩, rfl, ?_⟩
    simp only [List.forall_mem_cons]
    exact ⟨htwo, hnought, hletter, List.forall_mem_nil _⟩
  · have hthree : Lowered '3' := by decide +kernel
    refine ⟨⟨['3', '0'], ['3', '0'], [], rfl, by decide, hdigits '3' rfl, Or.inl rfl⟩, rfl, ?_⟩
    simp only [List.forall_mem_cons]
    exact ⟨hthree, hnought, List.forall_mem_nil _⟩

/-- **The stage of a source and the name of what is built from it.** A source with a stage has one stage suffix,
    and what is built from it has the same name up to there in lower case. If the suffix is spelled with an s,
    its stage is the one that is read, and the letters of that and the version stand behind it. With a long s the
    pixel stage is read, whatever the stage of the suffix is, and the long s stays in the name. Either way the
    name, with an extension, tells the same stage and gives itself again. A source without a stage keeps its name
    in lower case. -/
theorem stage_and_outputName {p : Path} {version : String} (hversion : version ∈ ["20", "20b", "30"]) :
    (∀ s, stage p = .ok s → ∃ before, ∃ x : StageSuffix,
      stem p = before ++ x.text ∧
      (∀ front, ∀ y : StageSuffix, stem p = front ++ y.text → front = before) ∧
      (x.second = 's' ∧ s = x.stage ∧
          outputName p version = String.ofList before ++ "_" ++ s.letters ++ version ∨
        x.second = 'ſ' ∧ s = .pixel ∧
          outputName p version = String.ofList before ++ "_" ++ String.ofList [x.first, 'ſ'] ++ version) ∧
      ∀ ext, ext ≠ "" → '.' ∉ ext.toList → '/' ∉ ext.toList →
        stage ⟨outputName p version ++ "." ++ ext⟩ = .ok s ∧
          outputName ⟨outputName p version ++ "." ++ ext⟩ version = outputName p version) ∧
    ∀ f, stage p = .error f → outputName p version = String.ofList (stem p) := by
  rcases cases_stem p with ⟨before, x, hstem⟩ | ⟨hstage, hname⟩
  · have hstage := stage_of_stem hstem
    refine ⟨fun s hs => ?_, fun f hf => ?_⟩
    · obtain rfl : x.read = s := by
        rw [hstage] at hs
        exact Except.ok.inj hs
      refine ⟨before, x, hstem, fun front y hy => ?_, ?_, fun ext hext hdot hslash => ?_⟩
      · rw [hstem] at hy
        exact (StageSuffix.front_unique hy).symm
      · exact outputName_cases hstem version
      · obtain ⟨w, hw, hlowered⟩ := exists_version_of_token hversion
        have hagain := stem_outputName hstem hw hlowered hext hdot hslash
        refine ⟨stage_of_stem (x := { x with version := w }) hagain, ?_⟩
        rw [outputName_of_stem hagain, outputName_of_stem hstem]
    · rw [hstage] at hf
      cases hf
  · refine ⟨fun s hs => ?_, fun f hf => hname version⟩
    rw [hstage] at hs
    cases hs

theorem stage_and_outputName_two_suffixes :
    "20b" ∈ ["20", "20b", "30"] ∧ stage ⟨"shaders/Wäter_PS20_vs2x.fxc"⟩ = .ok .vertex ∧
      outputName ⟨"shaders/Wäter_PS20_vs2x.fxc"⟩ "20b" = "wäter_ps20_vs20b" ∧
      stage ⟨"wäter_ps20_vs20b" ++ "." ++ "fxc"⟩ = .ok .vertex ∧
      outputName ⟨"wäter_ps20_vs20b" ++ "." ++ "fxc"⟩ "20b" = "wäter_ps20_vs20b" := by
  have htoken : "20b" ∈ ["20", "20b", "30"] := by decide
  have hstage : stage ⟨"shaders/Wäter_PS20_vs2x.fxc"⟩ = .ok .vertex := by rfl
  have hname : outputName ⟨"shaders/Wäter_PS20_vs2x.fxc"⟩ "20b" = "wäter_ps20_vs20b" := by rfl
  obtain ⟨before, x, -, -, -, hagain⟩ := (stage_and_outputName htoken).1 .vertex hstage
  rw [hname] at hagain
  exact ⟨htoken, hstage, hname, hagain "fxc" (by decide) (by decide) (by decide)⟩

/-- The name does not always hold the letters of the stage that was read. A vertex shader whose suffix is spelled
    with a long s is read as a pixel shader, and its name has neither suffix. -/
theorem not_forall_outputName_eq_letters :
    ¬ ∀ (p : Path) (version : String), version ∈ ["20", "20b", "30"] → ∀ s, stage p = .ok s →
      ∃ before, ∃ x : StageSuffix, stem p = before ++ x.text ∧
        outputName p version = String.ofList before ++ "_" ++ s.letters ++ version := by
  intro hall
  have hpixel : stage ⟨"a_vſ20.fxc"⟩ = .ok .pixel := by rfl
  obtain ⟨before, x, -, hname⟩ := hall ⟨"a_vſ20.fxc"⟩ "30" (by decide) .pixel hpixel
  have hbuilt : outputName ⟨"a_vſ20.fxc"⟩ "30" = "a_vſ30" := by rfl
  have hsuffix : "_ps30".toList <:+ "a_vſ30".toList := by
    refine ⟨before, ?_⟩
    rw [← hbuilt, hname]
    simp [String.toList_append, Stage.letters]
  exact absurd hsuffix (by decide)

end Naming

end ShaderCombos
