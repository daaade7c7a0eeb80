import ShaderCombos.Text.Blank

/-!
# `Proofs.Text.Blanks` — runs of characters and blanks at the ends of a text

Scanners read a run of items of one kind, such as characters or lines, up to the first of another. Trimming is what
makes white space in directives insignificant. A text is *trimmed* if trimming leaves it as it is; then
blanks around it can be taken away again.

## Contents
- **Runs.** `takeWhile_run`, `dropWhile_run`, and the same up to a delimiter.
- **In front.** `dropBlanks_append_of_blank`, `dropBlanks_append_of_exists`.
- **At both ends.** `trim_append_of_blank`, `trim_blank_append`.
- **Trimmed texts.** `dropBlanks_eq_of_trim_eq`, `notBlank_getLast_of_trim_eq`.
-/

namespace ShaderCombos.Text

variable {s w : List Char}

/-! ## Runs -/

section

variable {α : Type} {p : α → Bool} {s : List α} {d : α}

/-- A run ends at the first item that is not of its kind. -/
theorem takeWhile_run (hs : ∀ c ∈ s, p c = true) (hd : p d = false) (rest : List α) :
    (s ++ d :: rest).takeWhile p = s := by
  rw [List.takeWhile_append_of_pos hs,
    List.takeWhile_cons_of_neg (by rw [hd]; exact Bool.false_ne_true), List.append_nil]

theorem dropWhile_run (hs : ∀ c ∈ s, p c = true) (hd : p d = false) (rest : List α) :
    (s ++ d :: rest).dropWhile p = d :: rest := by
  rw [List.dropWhile_append_of_pos hs,
    List.dropWhile_cons_of_neg (by rw [hd]; exact Bool.false_ne_true)]

/-- What holds no delimiter is read up to the delimiter. -/
theorem takeWhile_ne [DecidableEq α] (hs : d ∉ s) (rest : List α) :
    (s ++ d :: rest).takeWhile (· ≠ d) = s := by
  apply takeWhile_run
  · intro c hc
    exact decide_eq_true fun heq => hs (heq ▸ hc)
  · exact decide_eq_false fun hne => hne rfl

theorem dropWhile_ne [DecidableEq α] (hs : d ∉ s) (rest : List α) :
    (s ++ d :: rest).dropWhile (· ≠ d) = d :: rest := by
  apply dropWhile_run
  · intro c hc
    exact decide_eq_true fun heq => hs (heq ▸ hc)
  · exact decide_eq_false fun hne => hne rfl

end

/-! ## In front -/

/-- Blanks in front do not count. -/
theorem dropBlanks_append_of_blank (hw : ∀ c ∈ w, isBlank c = true) (s : List Char) :
    dropBlanks (w ++ s) = dropBlanks s :=
  List.dropWhile_append_of_pos hw

theorem dropBlanks_eq_nil_of_blank (hw : ∀ c ∈ w, isBlank c = true) : dropBlanks w = [] := by
  have h := dropBlanks_append_of_blank hw []
  rw [List.append_nil] at h
  exact h

theorem dropBlanks_cons_of_notBlank {c : Char} (hc : isBlank c = false) (s : List Char) :
    dropBlanks (c :: s) = c :: s :=
  List.dropWhile_cons_of_neg (by rw [hc]; exact Bool.false_ne_true)

/-- Where a text has a character that is not blank, what follows it is left alone. -/
theorem dropBlanks_append_of_exists (hs : ∃ c ∈ s, isBlank c = false) (t : List Char) :
    dropBlanks (s ++ t) = dropBlanks s ++ t := by
  induction s with
  | nil =>
      obtain ⟨c, hc, -⟩ := hs
      cases hc
  | cons d s ih =>
      cases hd : isBlank d with
      | false =>
          rw [List.cons_append, dropBlanks_cons_of_notBlank hd, dropBlanks_cons_of_notBlank hd]
          rfl
      | true =>
          have hrest : ∃ c ∈ s, isBlank c = false := by
            obtain ⟨c, hc, hblank⟩ := hs
            rcases List.mem_cons.mp hc with rfl | hc
            · rw [hd] at hblank
              cases hblank
            · exact ⟨c, hc, hblank⟩
          have hpos : ∀ t, dropBlanks (d :: t) = dropBlanks t := fun t =>
            List.dropWhile_cons_of_pos hd
          rw [List.cons_append, hpos, hpos, ih hrest]

/-! ## At both ends -/

theorem dropTrailingBlanks_append_of_blank (hw : ∀ c ∈ w, isBlank c = true) (s : List Char) :
    dropTrailingBlanks (s ++ w) = dropTrailingBlanks s := by
  have hreverse : ∀ c ∈ w.reverse, isBlank c = true := fun c hc => hw c (List.mem_reverse.mp hc)
  unfold dropTrailingBlanks
  rw [List.reverse_append, List.dropWhile_append_of_pos hreverse]

theorem dropTrailingBlanks_concat_of_notBlank {c : Char} (hc : isBlank c = false) (s : List Char) :
    dropTrailingBlanks (s ++ [c]) = s ++ [c] := by
  have hreverse : (s ++ [c]).reverse = c :: s.reverse := List.reverse_concat
  unfold dropTrailingBlanks
  rw [hreverse, List.dropWhile_cons_of_neg (by rw [hc]; exact Bool.false_ne_true), ← hreverse,
    List.reverse_reverse]

/-- Blanks at the end do not count. -/
theorem trim_append_of_blank (hw : ∀ c ∈ w, isBlank c = true) (s : List Char) :
    trim (s ++ w) = trim s := by
  unfold trim
  by_cases hs : ∃ c ∈ s, isBlank c = false
  · rw [dropBlanks_append_of_exists hs, dropTrailingBlanks_append_of_blank hw]
  · -- A text of blanks alone is trimmed away with the blanks behind it.
    have hblank : ∀ c ∈ s, isBlank c = true := by
      intro c hc
      cases hc' : isBlank c with
      | true => rfl
      | false => exact absurd ⟨c, hc, hc'⟩ hs
    rw [dropBlanks_append_of_blank hblank, dropBlanks_eq_nil_of_blank hw,
      dropBlanks_eq_nil_of_blank hblank]

/-- Blanks in front do not count. -/
theorem trim_blank_append (hw : ∀ c ∈ w, isBlank c = true) (s : List Char) :
    trim (w ++ s) = trim s := by
  unfold trim
  rw [dropBlanks_append_of_blank hw]

/-! ## Trimmed texts -/

theorem length_dropTrailingBlanks_le (s : List Char) : (dropTrailingBlanks s).length ≤ s.length := by
  unfold dropTrailingBlanks
  rw [List.length_reverse]
  exact Nat.le_trans (List.dropWhile_suffix _).length_le (Nat.le_of_eq List.length_reverse)

theorem length_trim_le (s : List Char) : (trim s).length ≤ s.length :=
  Nat.le_trans (length_dropTrailingBlanks_le _) (List.dropWhile_suffix _).length_le

/-- A trimmed text has no blanks in front. -/
theorem dropBlanks_eq_of_trim_eq (h : trim s = s) : dropBlanks s = s := by
  have hsuffix : dropBlanks s <:+ s := List.dropWhile_suffix _
  -- Nothing is missing at the end of a trimmed text, so nothing can be missing in front.
  have hlength : s.length ≤ (dropBlanks s).length := by
    have hle := length_dropTrailingBlanks_le (dropBlanks s)
    have heq : (dropTrailingBlanks (dropBlanks s)).length = s.length := congrArg List.length h
    omega
  exact hsuffix.eq_of_length_le hlength

/-- A trimmed text does not end in a blank. -/
theorem notBlank_getLast_of_trim_eq (h : trim s = s) (hs : s ≠ []) :
    isBlank (s.getLast hs) = false := by
  have htrailing : dropTrailingBlanks s = s := by
    have h' : dropTrailingBlanks (dropBlanks s) = s := h
    rw [dropBlanks_eq_of_trim_eq h] at h'
    exact h'
  have hdrop : s.reverse.dropWhile isBlank = s.reverse := by
    have hreverse := congrArg List.reverse htrailing
    unfold dropTrailingBlanks at hreverse
    rw [List.reverse_reverse] at hreverse
    exact hreverse
  have hhead := List.head?_dropWhile_not isBlank s.reverse
  rw [hdrop, List.head?_reverse, List.getLast?_eq_some_getLast hs] at hhead
  exact hhead

end ShaderCombos.Text
