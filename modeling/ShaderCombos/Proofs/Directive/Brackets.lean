import Mathlib
import ShaderCombos.Proofs.Directive.Written
import ShaderCombos.Proofs.Text.Blanks
import ShaderCombos.Proofs.Text.Marks

/-!
# `Proofs.Directive.Brackets` — the markers of a trail, read as marks

Five recognisers run over the line of a directive: for the versions of either stage, for the console mark,
for the initial expression, and for the desktop mark. Each has to find its own markers in a trail, all of
them and in order, and must not stumble over the others. The first four begin with a bracket, so the
character behind the bracket tells the markers apart. The desktop mark also takes the blanks around it
along, and is treated on its own in `Proofs.Directive.Desktop`.

## Contents
- **Characters.** What stage letters, blanks and the parts of a marker are not.
- **One marker.** `reads_version`, `reads_opposite`, `reads_console`, `reads_init`.
- **Initial expressions.** `cleanInit_initText`.
- **A trail.** `marks_line` for any of the recognisers; `accepts_line`, `init_line`.
-/

namespace ShaderCombos.Directive

open Text

variable {α : Type} {stage : Stage} {rest : List Char}

/-! ## Characters -/

/-- But for `s` and `k`, a letter in either case is one of two characters. -/
theorem eq_or_eq_of_isLetter {letter c : Char} (hs : letter ≠ 's') (hk : letter ≠ 'k')
    (h : isLetter letter c = true) : c = letter ∨ c = letter.toUpper := by
  simp only [isLetter, Bool.or_eq_true, Bool.and_eq_true, beq_iff_eq] at h
  rcases h with ((hlower | hupper) | ⟨hletter, -⟩) | ⟨hletter, -⟩
  · exact Or.inl hlower
  · exact Or.inr hupper
  · exact absurd hletter hs
  · exact absurd hletter hk

/-- The first letter of a stage, in either case. -/
def IsFirstLetter (stage : Stage) (c : Char) : Prop :=
  match stage with
  | .vertex => c = 'v' ∨ c = 'V'
  | .pixel => c = 'p' ∨ c = 'P'

theorem first_of_isStage {first second : Char} (h : isStage stage first second = true) :
    IsFirstLetter stage first := by
  cases stage with
  | vertex => exact eq_or_eq_of_isLetter (by decide) (by decide) (Bool.and_eq_true_iff.mp h).1
  | pixel => exact eq_or_eq_of_isLetter (by decide) (by decide) (Bool.and_eq_true_iff.mp h).1

theorem second_of_isStage {first second : Char} (h : isStage stage first second = true) :
    second = 's' ∨ second = 'S' ∨ second = 'ſ' := by
  have hletter : isLetter 's' second = true := by
    cases stage with
    | vertex => exact (Bool.and_eq_true_iff.mp h).2
    | pixel => exact (Bool.and_eq_true_iff.mp h).2
  simp only [isLetter, Bool.or_eq_true, Bool.and_eq_true, beq_iff_eq] at hletter
  rcases hletter with ((hlower | hupper) | ⟨-, hlong⟩) | ⟨hfalse, -⟩
  · exact Or.inl hlower
  · exact Or.inr (Or.inl hupper)
  · exact Or.inr (Or.inr hlong)
  · exact absurd hfalse (by decide)

/-- The first letter of a stage is not blank, and it is no sign of the grammar. -/
theorem IsFirstLetter.plain {c : Char} (h : IsFirstLetter stage c) :
    isBlank c = false ∧ c ≠ '[' ∧ c ≠ '=' ∧ c ≠ 'X' ∧ c ≠ '\n' := by
  cases stage with
  | vertex => rcases h with rfl | rfl <;> decide
  | pixel => rcases h with rfl | rfl <;> decide

/-- The letters of one stage are not those of the other. -/
theorem isStage_opposite {first second : Char} (h : isStage stage first second = true) :
    isStage stage.opposite first second = false := by
  cases stage with
  | vertex =>
      have hletter : isLetter 'p' first = false := by
        rcases first_of_isStage h with rfl | rfl <;> decide
      exact Bool.and_eq_false_iff.mpr (Or.inl hletter)
  | pixel =>
      have hletter : isLetter 'v' first = false := by
        rcases first_of_isStage h with rfl | rfl <;> decide
      exact Bool.and_eq_false_iff.mpr (Or.inl hletter)

theorem Gap.isBlank_of_mem (g : Gap) : ∀ c ∈ g.chars, isBlank c = true :=
  fun c hc => (g.blank c hc).1

theorem Gap.ne_of_mem (g : Gap) {c d : Char} (hc : c ∈ g.chars) (hd : isBlank d = false) : c ≠ d := by
  rintro rfl
  rw [g.isBlank_of_mem c hc] at hd
  cases hd

theorem Version.ne_of_mem (v : Version) {c d : Char} (hc : c ∈ v.chars) (hdigit : isDigit d = false)
    (hword : isWord d = false) : c ≠ d := by
  obtain ⟨digits, suffix, hchars, -, hdigits, hsuffix⟩ := v.spelled
  rintro rfl
  rw [hchars] at hc
  rcases List.mem_append.mp hc with hc | hc
  · rw [hdigits c hc] at hdigit
    cases hdigit
  · rcases hsuffix with rfl | ⟨w, rfl, hw⟩
    · cases hc
    · rw [List.mem_singleton.mp hc, hw] at hword
      cases hword

namespace Marker

/-- The text of an initial expression holds no sign that would end it early. -/
theorem plain_of_mem_initText {before after : Gap} {expression : Expression} {semicolon : Option Gap}
    {c : Char} (hc : c ∈ initText before expression after semicolon) :
    c ≠ '[' ∧ c ≠ ']' ∧ c ≠ '\n' := by
  have hgap : ∀ g : Gap, c ∈ g.chars → c ≠ '[' ∧ c ≠ ']' ∧ c ≠ '\n' := fun g hg =>
    ⟨g.ne_of_mem hg (by decide), g.ne_of_mem hg (by decide), (g.blank c hg).2⟩
  have hinner : c ∈ before.chars ++ expression.chars ++ after.chars →
      c ≠ '[' ∧ c ≠ ']' ∧ c ≠ '\n' := by
    intro h
    rcases List.mem_append.mp h with h | h
    · rcases List.mem_append.mp h with h | h
      · exact hgap before h
      · obtain ⟨hopen, hclose, -, hfeed⟩ := expression.plain c h
        exact ⟨hopen, hclose, hfeed⟩
    · exact hgap after h
  cases semicolon with
  | none => exact hinner hc
  | some gap =>
      rcases List.mem_append.mp hc with h | h
      · exact hinner h
      · rcases List.mem_cons.mp h with rfl | h
        · decide
        · exact hgap gap h

/-- A marker is a bracket and a text without brackets of its kind, which ends in the other bracket. -/
theorem text_eq (m : Marker stage) : ∃ inner, m.text = '[' :: (inner ++ [']']) ∧
    ∀ c ∈ inner, c ≠ '[' ∧ c ≠ '\n' := by
  cases m with
  | desktop =>
      refine ⟨['P', 'C'], rfl, ?_⟩
      intro c hc
      rcases List.mem_pair.mp hc with rfl | rfl <;> decide
  | version first second letters v =>
      refine ⟨first :: second :: v.chars, rfl, ?_⟩
      intro c hc
      rcases List.mem_cons.mp hc with rfl | hc
      · obtain ⟨-, hopen, -, -, hfeed⟩ := (first_of_isStage letters).plain
        exact ⟨hopen, hfeed⟩
      · rcases List.mem_cons.mp hc with rfl | hc
        · rcases second_of_isStage letters with rfl | rfl | rfl <;> decide
        · exact ⟨v.ne_of_mem hc (by decide) (by decide), v.ne_of_mem hc (by decide) (by decide)⟩
  | init lead before expression after semicolon =>
      refine ⟨lead.chars ++ '=' :: initText before expression after semicolon, ?_, ?_⟩
      · unfold text
        rw [List.append_assoc]
        rfl
      · intro c hc
        rcases List.mem_append.mp hc with hc | hc
        · exact ⟨lead.ne_of_mem hc (by decide), (lead.blank c hc).2⟩
        · rcases List.mem_cons.mp hc with rfl | hc
          · decide
          · obtain ⟨hopen, -, hfeed⟩ := plain_of_mem_initText hc
            exact ⟨hopen, hfeed⟩

end Marker

/-! ## One marker -/

theorem bracketed_versionMark (stage : Stage) : Bracketed (versionMark stage) := by
  intro c rest hc
  unfold versionMark
  split
  · next heq => exact absurd (List.cons.inj heq).1 hc
  · rfl

theorem bracketed_consoleMark : Bracketed consoleMark := by
  intro c rest hc
  apply literalMark_eq_none
  intro tail htext
  exact hc (List.cons.inj htext).1

theorem bracketed_initMark : Bracketed initMark := by
  intro c rest hc
  unfold initMark
  split
  · next heq => exact absurd (List.cons.inj heq).1 hc
  · rfl

theorem versionMark_eq (stage : Stage) (first second : Char) (rest : List Char) :
    versionMark stage ('[' :: first :: second :: rest) =
      if isStage stage first second then
        (version? (·.head? = some ']') rest).map fun version => (version, version.length + 4)
      else none :=
  rfl

/-- A bracket that no letter of a stage follows begins no version. -/
theorem versionMark_eq_none {c : Char} (hc : ¬ IsFirstLetter stage c) :
    versionMark stage ('[' :: c :: rest) = none := by
  cases rest with
  | nil => rfl
  | cons second rest =>
      rw [versionMark_eq, if_neg fun h => hc (first_of_isStage h)]

/-- A bracket that no `X` follows does not begin the console mark. -/
theorem consoleMark_eq_none {c : Char} (hc : c ≠ 'X') : consoleMark ('[' :: c :: rest) = none := by
  apply literalMark_eq_none
  intro tail htext
  exact hc (List.cons.inj (List.cons.inj htext).2).1

/-- A bracket that neither a blank nor an equals sign follows begins no initial expression. -/
theorem initMark_eq_none {c : Char} (hblank : isBlank c = false) (hc : c ≠ '=') :
    initMark ('[' :: c :: rest) = none := by
  have hdrop : (c :: rest).dropWhile isBlank = c :: rest := dropBlanks_cons_of_notBlank hblank rest
  unfold initMark
  simp only [hdrop]
  split
  · next heq => exact absurd (List.cons.inj heq).1 hc
  · rfl

/-- What stands behind the bracket of a marker. -/
theorem Marker.exists_second (m : Marker stage) (rest : List Char) :
    ∃ c t, m.text ++ rest = '[' :: c :: t ∧ match m with
      | .desktop => c = 'P'
      | .version first _ _ _ => c = first
      | .init .. => isBlank c = true ∨ c = '=' := by
  cases m with
  | desktop => exact ⟨'P', 'C' :: ']' :: rest, rfl, rfl⟩
  | version first second letters v => exact ⟨first, second :: (v.chars ++ [']'] ++ rest), rfl, rfl⟩
  | init lead before expression after semicolon =>
      have htext : (init lead before expression after semicolon : Marker stage).text
          = '[' :: (lead.chars ++ '=' :: (initText before expression after semicolon ++ [']'])) := rfl
      cases hlead : lead.chars with
      | nil =>
          refine ⟨'=', initText before expression after semicolon ++ [']'] ++ rest, ?_, Or.inr rfl⟩
          rw [htext, hlead]
          rfl
      | cons c t =>
          have hc : c ∈ lead.chars := by
            rw [hlead]
            exact List.mem_cons_self
          refine ⟨c, t ++ '=' :: (initText before expression after semicolon ++ [']']) ++ rest, ?_,
            Or.inl (lead.isBlank_of_mem c hc)⟩
          rw [htext, hlead]
          rfl

/-- A marker that does not begin a mark passes. -/
theorem passes_marker {mark : Mark α} (hmark : Bracketed mark) (m : Marker stage)
    (hnone : mark (m.text ++ rest) = none) : Passes mark m.text rest := by
  obtain ⟨inner, htext, hinner⟩ := m.text_eq
  have hbracket : '[' ∉ inner ++ [']'] := by
    intro h
    rcases List.mem_append.mp h with h | h
    · exact (hinner _ h).1 rfl
    · exact absurd (List.mem_singleton.mp h) (by decide)
  rw [htext] at hnone ⊢
  exact hmark.passes_bracket hbracket hnone

/-- Digits up to what closes a version are one. -/
theorem version?_of_digits {closes : List Char → Bool} {digits rest : List Char} (hne : digits ≠ [])
    (hdigits : ∀ c ∈ digits, isDigit c = true) (hrest : ∀ c ∈ rest.head?, isDigit c = false)
    (hcloses : closes rest = true) : version? closes (digits ++ rest) = some digits := by
  have htake : (digits ++ rest).takeWhile isDigit = digits := by
    cases rest with
    | nil =>
        rw [List.append_nil]
        exact List.takeWhile_eq_self_iff.mpr hdigits
    | cons c behind => exact takeWhile_run hdigits (hrest c rfl) behind
  have hdrop : (digits ++ rest).dropWhile isDigit = rest := by
    cases rest with
    | nil =>
        rw [List.append_nil]
        exact List.dropWhile_eq_nil_iff.mpr hdigits
    | cons c behind => exact dropWhile_run hdigits (hrest c rfl) behind
  have hempty : digits.isEmpty = false := List.isEmpty_eq_false_iff.mpr hne
  unfold version?
  simp only [htake, hdrop, hempty, hcloses]
  rfl

/-- **A version up to what closes it is read as it is spelled.** A word character behind the digits
    counts as one of them if it is a digit. -/
theorem version?_append {closes : List Char → Bool} (v : Version) {rest : List Char}
    (hrest : ∀ c ∈ rest.head?, isDigit c = false) (hcloses : closes rest = true)
    (hword : ∀ c, isWord c = true → closes (c :: rest) = false) :
    version? closes (v.chars ++ rest) = some v.chars := by
  obtain ⟨digits, suffix, hchars, hne, hdigits, hsuffix⟩ := v.spelled
  rw [hchars]
  rcases hsuffix with rfl | ⟨c, rfl, hc⟩
  · rw [List.append_nil]
    exact version?_of_digits hne hdigits hrest hcloses
  · -- The last character may itself be a digit, of any script; then all are digits.
    by_cases hdigit : isDigit c = true
    · refine version?_of_digits (List.append_ne_nil_of_left_ne_nil hne _) (fun d hd => ?_) hrest hcloses
      rcases List.mem_append.mp hd with hd | hd
      · exact hdigits d hd
      · rw [List.mem_singleton.mp hd]
        exact hdigit
    · have hassoc : digits ++ [c] ++ rest = digits ++ c :: rest := by
        rw [List.append_assoc]
        rfl
      have hother : isDigit c = false := Bool.eq_false_iff.mpr hdigit
      have htake := takeWhile_run hdigits hother rest
      have hdrop := dropWhile_run hdigits hother rest
      have hempty : digits.isEmpty = false := List.isEmpty_eq_false_iff.mpr hne
      -- The digits alone are not closed, so the character behind them is taken as well.
      have hopen := hword c hc
      rw [hassoc]
      unfold version?
      simp only [htake, hdrop, hempty, hopen, hc, hcloses]
      rfl

/-- A version up to a closing bracket. -/
theorem version?_eq (v : Version) (rest : List Char) :
    version? (·.head? = some ']') (v.chars ++ ']' :: rest) = some v.chars := by
  refine version?_append v ?_ (decide_eq_true rfl) fun c hc => ?_
  · intro c hc
    obtain rfl := Option.some.inj hc
    decide
  · rw [decide_eq_false_iff_not]
    intro hclose
    obtain rfl := Option.some.inj hclose
    exact absurd hc (by decide)

/-- An initial expression begins no version, of whichever stage. -/
theorem versionMark_init {other : Stage} (lead before : Gap) (expression : Expression) (after : Gap)
    (semicolon : Option Gap) (rest : List Char) :
    versionMark other ((Marker.init lead before expression after semicolon : Marker stage).text ++ rest)
      = none := by
  obtain ⟨c, t, hsecond, hc⟩ :=
    (Marker.init lead before expression after semicolon : Marker stage).exists_second rest
  rw [hsecond]
  apply versionMark_eq_none
  intro hletter
  obtain ⟨hblank, -, hequals, -, -⟩ := hletter.plain
  rcases hc with hc | rfl
  · rw [hc] at hblank
    cases hblank
  · exact hequals rfl

/-- **Versions.** The recogniser for a stage finds the versions of a trail and nothing else. -/
theorem reads_version (m : Marker stage) :
    Reads (versionMark stage) Marker.text Marker.version? m := by
  intro rest
  cases m with
  | desktop =>
      apply passes_marker (bracketed_versionMark stage)
      cases stage with
      | vertex => rfl
      | pixel => rfl
  | version first second letters v =>
      have hassoc : (Marker.version first second letters v).text ++ rest
          = '[' :: first :: second :: (v.chars ++ ']' :: rest) := by
        simp [Marker.text]
      have hlength : (Marker.version first second letters v).text.length = v.chars.length + 4 := by
        simp [Marker.text]
      have hmark : versionMark stage ((Marker.version first second letters v).text ++ rest)
          = some (v.chars, (Marker.version first second letters v).text.length) := by
        rw [hassoc, hlength, versionMark_eq, if_pos letters, version?_eq]
        rfl
      exact pieces_append_of_some (List.cons_ne_nil _ _) hmark
  | init lead before expression after semicolon =>
      apply passes_marker (bracketed_versionMark stage)
      exact versionMark_init lead before expression after semicolon rest

/-- **Versions of the other stage.** No marker of a trail is one. -/
theorem reads_opposite (m : Marker stage) :
    Reads (versionMark stage.opposite) Marker.text (fun _ => none) m := by
  intro rest
  apply passes_marker (bracketed_versionMark stage.opposite)
  cases m with
  | desktop =>
      cases stage with
      | vertex => rfl
      | pixel => rfl
  | version first second letters v =>
      show versionMark stage.opposite ('[' :: first :: second :: _) = none
      rw [versionMark_eq, isStage_opposite letters]
      rfl
  | init lead before expression after semicolon =>
      exact versionMark_init lead before expression after semicolon rest

/-- **The console mark.** No marker of a trail is it. -/
theorem reads_console (m : Marker stage) : Reads consoleMark Marker.text (fun _ => none) m := by
  intro rest
  obtain ⟨c, t, hsecond, hc⟩ := m.exists_second rest
  apply passes_marker bracketed_consoleMark
  rw [hsecond]
  apply consoleMark_eq_none
  cases m with
  | desktop =>
      rw [hc]
      decide
  | version first second letters v =>
      obtain ⟨-, -, -, hx, -⟩ := (first_of_isStage letters).plain
      rw [hc]
      exact hx
  | init lead before expression after semicolon =>
      rcases hc with hc | rfl
      · rintro rfl
        exact absurd hc (by decide)
      · decide

/-- What stands between the equals sign and the closing bracket is read as it is spelled. -/
theorem initMark_eq {lead inner : List Char} (hlead : ∀ c ∈ lead, isBlank c = true) (hne : inner ≠ [])
    (hinner : ']' ∉ inner) (rest : List Char) :
    initMark ('[' :: (lead ++ '=' :: (inner ++ ']' :: rest)))
      = some (inner, lead.length + inner.length + 3) := by
  have htakeLead := takeWhile_run hlead (d := '=') (by decide) (inner ++ ']' :: rest)
  have hdropLead := dropWhile_run hlead (d := '=') (by decide) (inner ++ ']' :: rest)
  have htake := takeWhile_ne hinner rest
  have hdrop := dropWhile_ne hinner rest
  have hempty : inner.isEmpty = false := List.isEmpty_eq_false_iff.mpr hne
  unfold initMark
  simp only [htakeLead, hdropLead, htake, hdrop, hempty]
  rfl

/-- The text of an initial expression is not empty. -/
theorem Marker.initText_ne_nil (before : Gap) (expression : Expression) (after : Gap)
    (semicolon : Option Gap) : initText before expression after semicolon ≠ [] := by
  have hinner : before.chars ++ expression.chars ++ after.chars ≠ [] :=
    List.append_ne_nil_of_left_ne_nil
      (List.append_ne_nil_of_right_ne_nil _ expression.nonempty) _
  cases semicolon with
  | none => exact hinner
  | some gap => exact List.append_ne_nil_of_left_ne_nil hinner _

/-- What the mark of an initial expression says. -/
def Marker.initText? : Marker stage → Option (List Char)
  | .init _ before expression after semicolon => some (initText before expression after semicolon)
  | _ => none

/-- **Initial expressions.** The recogniser finds those of a trail, with the blanks and the semicolon
    around them, and nothing else. -/
theorem reads_init (m : Marker stage) : Reads initMark Marker.text Marker.initText? m := by
  intro rest
  obtain ⟨c, t, hsecond, hc⟩ := m.exists_second rest
  cases m with
  | desktop =>
      apply passes_marker bracketed_initMark
      rw [hsecond]
      apply initMark_eq_none
      · rw [hc]
        decide
      · rw [hc]
        decide
  | version first second letters v =>
      obtain ⟨hblank, -, hequals, -, -⟩ := (first_of_isStage letters).plain
      apply passes_marker bracketed_initMark
      rw [hsecond, hc]
      exact initMark_eq_none hblank hequals
  | init lead before expression after semicolon =>
      have hinner : ']' ∉ Marker.initText before expression after semicolon := fun h =>
        (Marker.plain_of_mem_initText h).2.1 rfl
      have hassoc : (Marker.init lead before expression after semicolon : Marker stage).text ++ rest
          = '[' :: (lead.chars
              ++ '=' :: (Marker.initText before expression after semicolon ++ ']' :: rest)) := by
        simp [Marker.text]
      have hlength : (Marker.init lead before expression after semicolon : Marker stage).text.length
          = lead.chars.length + (Marker.initText before expression after semicolon).length + 3 := by
        simp [Marker.text]
        omega
      have hmark : initMark ((Marker.init lead before expression after semicolon : Marker stage).text
            ++ rest)
          = some (Marker.initText before expression after semicolon,
            (Marker.init lead before expression after semicolon : Marker stage).text.length) := by
        rw [hassoc, hlength]
        exact initMark_eq lead.isBlank_of_mem (Marker.initText_ne_nil _ _ _ _) hinner rest
      exact pieces_append_of_some (List.cons_ne_nil _ _) hmark

/-! ## Initial expressions -/

/-- A text without semicolons is cleaned by trimming. -/
theorem cleanInit_of_notMem {text : List Char} (h : ';' ∉ trim text) : cleanInit text = trim text := by
  have hdrop : (trim text).reverse.dropWhile (· ≠ ';') = [] := by
    rw [List.dropWhile_eq_nil_iff]
    intro c hc
    apply decide_eq_true
    rintro rfl
    exact h (List.mem_reverse.mp hc)
  unfold cleanInit
  simp only [hdrop]

/-- The last semicolon is cleaned away, with what stands behind it. -/
theorem cleanInit_of_semicolon {text before after : List Char} (h : trim text = before ++ ';' :: after)
    (hafter : ';' ∉ after) : cleanInit text = trim before := by
  have hdrop : (trim text).reverse.dropWhile (· ≠ ';') = ';' :: before.reverse := by
    have hreverse : (trim text).reverse = after.reverse ++ ';' :: before.reverse := by
      rw [h, List.reverse_append, List.reverse_cons, List.append_assoc, List.singleton_append]
    rw [hreverse]
    exact dropWhile_ne (fun hmem => hafter (List.mem_reverse.mp hmem)) before.reverse
  unfold cleanInit
  simp only [hdrop, List.reverse_reverse]

/-- **Cleaning** leaves the expression of an initial expression, whatever blanks stand around it. -/
theorem cleanInit_initText (before : Gap) (expression : Expression) (after : Gap)
    (semicolon : Option Gap) :
    cleanInit (Marker.initText before expression after semicolon) = expression.chars := by
  cases semicolon with
  | none =>
      have htrim : trim (Marker.initText before expression after none) = expression.chars := by
        show trim (before.chars ++ expression.chars ++ after.chars) = _
        rw [trim_append_of_blank after.isBlank_of_mem, trim_blank_append before.isBlank_of_mem,
          expression.trimmed]
      have hsemicolon : ';' ∉ trim (Marker.initText before expression after none) := by
        rw [htrim]
        intro h
        exact (expression.plain ';' h).2.2.1 rfl
      rw [cleanInit_of_notMem hsemicolon, htrim]
  | some gap =>
      have htext : Marker.initText before expression after (some gap)
          = before.chars ++ (expression.chars ++ (after.chars ++ [';'])) ++ gap.chars := by
        simp [Marker.initText]
      have hsome : ∃ c ∈ expression.chars, isBlank c = false :=
        ⟨_, List.getLast_mem expression.nonempty,
          notBlank_getLast_of_trim_eq expression.trimmed expression.nonempty⟩
      have htrim : trim (Marker.initText before expression after (some gap))
          = (expression.chars ++ after.chars) ++ [';'] := by
        rw [htext, trim_append_of_blank gap.isBlank_of_mem, trim_blank_append before.isBlank_of_mem]
        unfold trim
        rw [dropBlanks_append_of_exists hsome, dropBlanks_eq_of_trim_eq expression.trimmed,
          ← List.append_assoc, dropTrailingBlanks_concat_of_notBlank (by decide)]
      -- The semicolon ends the trimmed text, and the blanks in front of it are trimmed afterwards.
      rw [cleanInit_of_semicolon htrim List.not_mem_nil, trim_append_of_blank after.isBlank_of_mem,
        expression.trimmed]

/-! ## A trail -/

/-- The markers with what stands behind each. -/
def Trail.items (t : Trail stage) : List (Marker stage × List Char) :=
  t.markers.map fun m => (m.1, m.2.chars)

theorem Trail.text_eq_spaced (t : Trail stage) :
    t.text = t.lead.chars ++ spaced Marker.text t.items := by
  unfold Trail.text spaced Trail.items
  rw [List.flatMap_map]

theorem Gap.passes {mark : Mark α} (hmark : Bracketed mark) (g : Gap) (rest : List Char) :
    Passes mark g.chars rest :=
  hmark.passes fun h => g.ne_of_mem h (by decide) rfl

/-- What stands behind the markers passes. -/
theorem Trail.passes_items {mark : Mark α} (hmark : Bracketed mark) (t : Trail stage) :
    ∀ item ∈ t.items, ∀ rest, Passes mark item.2 rest := by
  intro item hitem rest
  obtain ⟨m, -, rfl⟩ := List.mem_map.mp hitem
  exact m.2.passes hmark rest

/-- **The marks on a line.** Where what stands in front of the trail holds no bracket, the marks are those
    of the trail's markers. -/
theorem marks_line {mark : Mark α} {sense : Marker stage → Option α} (hmark : Bracketed mark)
    (hreads : ∀ m, Reads mark Marker.text sense m) {front : List Char} (hfront : '[' ∉ front)
    (t : Trail stage) :
    marks mark (front ++ t.text) = t.markers.filterMap fun m => sense m.1 := by
  rw [(hmark.passes hfront).marks, t.text_eq_spaced, (t.lead.passes hmark _).marks,
    marks_spaced (fun item _ => hreads item.1) (t.passes_items hmark)]
  exact List.filterMap_map

variable {f : Filter} {front : List Char}

/-- **Filtering.** A directive applies if its trail allows it. -/
theorem accepts_line (hfront : '[' ∉ front) {t : Trail f.stage} (hallows : f.Allows t) :
    f.accepts (front ++ t.text) = true := by
  have hversions : f.versions (front ++ t.text) = t.versions :=
    marks_line (bracketed_versionMark f.stage) reads_version hfront t
  have hconsole : hasMark consoleMark (front ++ t.text) = false := by
    unfold hasMark
    rw [marks_line bracketed_consoleMark reads_console hfront t, List.filterMap_eq_nil_iff.mpr]
    · rfl
    · intro m _
      rfl
  have hopposite : hasMark (versionMark f.stage.opposite) (front ++ t.text) = false := by
    unfold hasMark
    rw [marks_line (bracketed_versionMark f.stage.opposite) reads_opposite hfront t,
      List.filterMap_eq_nil_iff.mpr]
    · rfl
    · intro m _
      rfl
  unfold Filter.accepts
  rw [hconsole, hopposite, hversions]
  rcases hallows with hnone | ⟨version, hmem, hsame⟩
  · rw [hnone]
    rfl
  · have hany : (t.versions.any fun version => asciiLowercase version = f.version.toList) = true :=
      List.any_eq_true.mpr ⟨version, hmem, decide_eq_true hsame⟩
    rw [hany, Bool.or_true]
    rfl

/-- **Initial values.** The line of a combo gives the initial value that its trail gives. -/
theorem init_line (hfront : '[' ∉ front) {t : Trail stage} {expression : Option Expression}
    (h : t.expressions = expression.toList) : init (front ++ t.text) = initOf expression := by
  -- The marks, cleaned one by one, are the expressions, and there is at most one.
  have hmarks : marks initMark (front ++ t.text) = t.markers.filterMap fun m => m.1.initText? :=
    marks_line bracketed_initMark reads_init hfront t
  have hclean : (marks initMark (front ++ t.text)).map cleanInit
      = t.expressions.map Expression.chars := by
    rw [hmarks]
    unfold Trail.expressions
    rw [List.map_filterMap, List.map_filterMap]
    congr 1
    funext m
    obtain ⟨m, gap⟩ := m
    cases m with
    | desktop => rfl
    | version first second letters v => rfl
    | init lead before e after semicolon =>
        exact congrArg some (cleanInit_initText before e after semicolon)
  unfold init
  rw [h] at hclean
  cases hfirst : marks initMark (front ++ t.text) with
  | nil =>
      rw [hfirst] at hclean
      cases expression with
      | none => rfl
      | some e => cases hclean
  | cons text others =>
      rw [hfirst] at hclean
      cases expression with
      | none => cases hclean
      | some e =>
          have htext : cleanInit text = e.chars := (List.cons.inj hclean).1
          show Combo.Init.expression (String.ofList (cleanInit text)) = _
          rw [htext]
          rfl

end ShaderCombos.Directive
