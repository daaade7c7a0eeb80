import Mathlib
import ShaderCombos.Proofs.Header.Classes
import ShaderCombos.Proofs.Layout.Exactness
import ShaderCombos.Proofs.Layout.GreatestIndex

/-!
# `Proofs.Header.Capacity` — how many combinations the indices of a header can tell apart

A header is generated as soon as its two layouts exist. Each of them keeps its own greatest index within
64 bits. The renderer adds a static and a dynamic index, and for the sum nobody checks anything: the scale
behind the last static combo, which is the count of all combinations, belongs to no combo.
`capacity_of_text` says what is left to be true. Both indices fit, and their sums fit exactly if there are
no more combinations than numbers of 64 bits.

## Contents
- **Layouts of a header.** `exists_text_iff`.
- **Sums of indices.** `capacity_of_text`, and a header whose indices cannot be added in 64 bits.
-/

namespace ShaderCombos

namespace Header

variable {u : ShaderUnit} {t : String}

/-! ## Layouts of a header -/

/-- **A header is generated exactly if its two layouts exist.** -/
theorem exists_text_iff :
    (∃ t, text u = .ok t) ↔ ∃ dyn stat, Layout.ofCombos u.dynamic 1 = .ok dyn ∧
      Layout.ofCombos u.static dyn.cardinality = .ok stat := by
  constructor
  · rintro ⟨t, ht⟩
    obtain ⟨static, dynamic, hemits⟩ := emits_of_text ht
    obtain ⟨seed, hseed, hstatic⟩ := hemits.seeded
    obtain ⟨dyn, hdyn, hcard⟩ := except_bind_eq_ok.mp hseed
    obtain rfl := Except.ok.inj hcard
    obtain ⟨hcombos, hstat⟩ := indexClass_eq_ok hstatic
    rw [hcombos] at hstat
    exact ⟨dyn, static.layout, Attempt.ofFaulty_eq_ok.mp hdyn, hstat⟩
  · rintro ⟨dyn, stat, hdyn, hstat⟩
    have hclass : ∀ kind seed l, Layout.ofCombos (u.combos kind) seed = .ok l →
        ∃ k, indexClass u kind seed = .ok k := by
      intro kind seed l hl
      unfold indexClass IndexClass.ofCombos
      rw [hl]
      exact ⟨_, rfl⟩
    obtain ⟨static, hstatic⟩ := hclass .static dyn.cardinality stat hstat
    obtain ⟨dynamic, hdynamic⟩ := hclass .dynamic 1 dyn hdyn
    have hseed : staticSeed u = .ok dyn.cardinality := by
      unfold staticSeed
      rw [hdyn]
      rfl
    unfold text lines
    rw [hseed]
    simp only [bind, Except.bind, hstatic, hdynamic]
    exact ⟨_, rfl⟩

/-! ## Sums of indices -/

/-- **What a generated header promises of its indices**, where all ranges start at zero: the static and the
    dynamic index fit 64 bits each, and the sum of any two fits exactly if the combinations can be counted
    with 64 bits. -/
theorem capacity_of_text (h : text u = .ok t) (hzero : ∀ kind, ∀ c ∈ u.combos kind, c.min = 0) :
    ∃ dyn stat, Layout.ofCombos u.dynamic 1 = .ok dyn ∧
      Layout.ofCombos u.static dyn.cardinality = .ok stat ∧
      dyn.maxIndex < 2 ^ 64 ∧ stat.maxIndex < 2 ^ 64 ∧
      stat.maxIndex + dyn.maxIndex + 1 = stat.cardinality * dyn.cardinality ∧
      ((∀ s d n, combinedIndex? stat dyn (s, d) = some n → n < 2 ^ 64) ↔
        stat.cardinality * dyn.cardinality ≤ 2 ^ 64) := by
  obtain ⟨dyn, stat, hdyn, hstat⟩ := exists_text_iff.mp ⟨t, h⟩
  have hs : ∀ c ∈ u.static, c.min = 0 := hzero .static
  have hd : ∀ c ∈ u.dynamic, c.min = 0 := hzero .dynamic
  exact ⟨dyn, stat, hdyn, hstat, Layout.maxIndex_lt hdyn, Layout.maxIndex_lt hstat,
    Layout.maxIndex_add_maxIndex hdyn hstat hs hd,
    Layout.forall_combinedIndex_lt_iff hdyn hstat hs hd⟩

/-! ### More combinations than numbers

The dynamic combos have `3 * 2 ^ 62` assignments, and a static combo with two values doubles them. -/

namespace TooMany

def unit : ShaderUnit where
  name := "a_ps30"
  stage := .pixel
  model := .three
  version := "30"
  static := [⟨"S", 0, 1, .mustBeSet⟩]
  dynamic := [⟨"A", 0, 2147483647, .mustBeSet⟩, ⟨"B", 0, 2147483647, .mustBeSet⟩,
    ⟨"C", 0, 2, .mustBeSet⟩]

theorem dynamic_eq : ∃ fields, Layout.ofCombos unit.dynamic 1 =
    .ok ⟨fields, 3 * 2 ^ 62, 3 * 2 ^ 62 - 1⟩ := ⟨_, rfl⟩

theorem static_eq : ∃ fields, Layout.ofCombos unit.static (3 * 2 ^ 62) =
    .ok ⟨fields, 2, 3 * 2 ^ 62⟩ := ⟨_, rfl⟩

theorem exists_text : ∃ t, text unit = .ok t := by
  obtain ⟨_, hdynamic⟩ := dynamic_eq
  obtain ⟨_, hstatic⟩ := static_eq
  exact exists_text_iff.mpr ⟨_, _, hdynamic, hstatic⟩

theorem min_eq_zero : ∀ kind, ∀ c ∈ unit.combos kind, c.min = 0 := by
  intro kind
  cases kind with
  | static => decide
  | dynamic => decide

end TooMany

theorem capacity_of_text_too_many :
    ∃ t, text TooMany.unit = .ok t ∧ (∀ kind, ∀ c ∈ TooMany.unit.combos kind, c.min = 0) ∧
      ∃ dyn stat, Layout.ofCombos TooMany.unit.dynamic 1 = .ok dyn ∧
        Layout.ofCombos TooMany.unit.static dyn.cardinality = .ok stat ∧
        dyn.maxIndex < 2 ^ 64 ∧ stat.maxIndex < 2 ^ 64 ∧
        stat.maxIndex + dyn.maxIndex + 1 = stat.cardinality * dyn.cardinality ∧
        ((∀ s d n, combinedIndex? stat dyn (s, d) = some n → n < 2 ^ 64) ↔
          stat.cardinality * dyn.cardinality ≤ 2 ^ 64) := by
  obtain ⟨t, ht⟩ := TooMany.exists_text
  exact ⟨t, ht, TooMany.min_eq_zero, capacity_of_text ht TooMany.min_eq_zero⟩

/-- **Indices of a generated header can be too large to be added** in 64 bits. -/
theorem not_forall_sum_lt :
    ¬ ∀ (u : ShaderUnit) (t : String) (dyn stat : Layout), text u = .ok t →
      (∀ kind, ∀ c ∈ u.combos kind, c.min = 0) → Layout.ofCombos u.dynamic 1 = .ok dyn →
      Layout.ofCombos u.static dyn.cardinality = .ok stat → stat.maxIndex + dyn.maxIndex < 2 ^ 64 := by
  intro h
  obtain ⟨t, ht⟩ := TooMany.exists_text
  obtain ⟨_, hdynamic⟩ := TooMany.dynamic_eq
  obtain ⟨_, hstatic⟩ := TooMany.static_eq
  have hsum : 3 * 2 ^ 62 + (3 * 2 ^ 62 - 1) < 2 ^ 64 := h _ t _ _ ht TooMany.min_eq_zero hdynamic hstatic
  omega

end Header

end ShaderCombos
