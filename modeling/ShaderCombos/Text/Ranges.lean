/-!
# Membership in a table of code-point ranges

A property of characters is given as a list of disjoint ranges in ascending order. The look-up stops
at the first range that lies beyond the code point, so that ASCII text pays for a few comparisons only.

* `Ascending`: what a table promises.
* `inRanges_iff`: under that promise the look-up is plain membership in some range.
-/

namespace ShaderCombos.Text

/-- Whether `n` lies in one of the ranges, which have to ascend. -/
def inRanges : List (Nat × Nat) → Nat → Bool
  | [], _ => false
  | (first, last) :: rest, n => if n < first then false else n ≤ last || inRanges rest n

/-- The ranges are not empty, do not overlap and stand in ascending order. -/
def Ascending (ranges : List (Nat × Nat)) : Prop :=
  (∀ r ∈ ranges, r.1 ≤ r.2) ∧ ranges.Pairwise fun r s => r.2 < s.1

theorem Ascending.tail {r : Nat × Nat} {rest : List (Nat × Nat)} (h : Ascending (r :: rest)) :
    Ascending rest :=
  ⟨fun s hs => h.1 s (List.mem_cons_of_mem _ hs), (List.pairwise_cons.1 h.2).2⟩

/-- In an ascending table the look-up finds `n` exactly when some range holds it. -/
theorem inRanges_iff {ranges : List (Nat × Nat)} (h : Ascending ranges) (n : Nat) :
    inRanges ranges n = true ↔ ∃ r ∈ ranges, r.1 ≤ n ∧ n ≤ r.2 := by
  induction ranges with
  | nil => simp [inRanges]
  | cons r rest ih =>
    obtain ⟨first, last⟩ := r
    have later : ∀ s ∈ rest, last < s.1 := (List.pairwise_cons.1 h.2).1
    have here : first ≤ last := h.1 (first, last) (List.mem_cons_self ..)
    by_cases below : n < first
    · simp only [inRanges, below, if_true, Bool.false_eq_true, List.mem_cons, false_iff]
      rintro ⟨s, rfl | hs, low, _⟩
      · omega
      · have := later s hs
        omega
    · simp only [inRanges, below, if_false, Bool.or_eq_true, decide_eq_true_eq, List.mem_cons,
        ih h.tail]
      constructor
      · rintro (high | ⟨s, hs, hn⟩)
        · exact ⟨(first, last), Or.inl rfl, by omega, high⟩
        · exact ⟨s, Or.inr hs, hn⟩
      · rintro ⟨s, rfl | hs, hn⟩
        · exact Or.inl hn.2
        · exact Or.inr ⟨s, hs, hn⟩

end ShaderCombos.Text
