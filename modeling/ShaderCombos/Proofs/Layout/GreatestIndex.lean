import Mathlib
import ShaderCombos.Proofs.Layout.CombinedIndex

/-!
# `Proofs.Layout.GreatestIndex` — no index is above the greatest one

A layout notes the index of the assignment in which every combo has its greatest value. Scales are never
negative, so no other assignment has a greater index, and if no greatest value is below zero that
assignment does have an index.

Where all ranges start at zero, the greatest index telescopes: it is the last one before the next scale.
Of a static and a dynamic layout together that leaves a single number, the count of all combinations, and
it alone decides whether the two indices can be added in 64 bits.

## Contents
- **One layout.** `indexOf?_le_maxIndex`, `indexOf?_highest`.
- **Ranges that start at zero.** `maxIndex_add_seed`.
- **Two layouts.** `maxIndex_add_maxIndex`, `forall_combinedIndex_lt_iff`.
-/

namespace ShaderCombos

variable {combos static dynamic : List Combo} {seed : Nat} {l stat dyn : Layout}

/-- A range that starts at zero has one value more than its greatest value says. -/
theorem Combo.count_of_zero {c : Combo} (hmin : c.min = 0) (hle : c.min.toInt ≤ c.max.toInt) :
    c.count = c.max.toInt.toNat + 1 := by
  unfold Combo.count
  rw [hmin, Int32.toInt_zero] at hle ⊢
  omega

namespace Layout

/-! ## One layout -/

/-- A sum over values is greatest where every combo has its greatest value. -/
theorem weigh_le_highest {values : List Int32} (scale : Nat) (h : Admits combos values) :
    weigh scale combos values ≤ weigh scale combos (highest combos) := by
  induction h generalizing scale with
  | nil => exact Nat.le_refl 0
  | @cons c v combos values hv _ ih =>
      have hvalue : v.toInt.toNat ≤ c.max.toInt.toNat := Int.toNat_le_toNat hv.2
      exact Nat.add_le_add (Nat.mul_le_mul_left scale hvalue) (ih (scale * c.count))

/-- **No index is above the greatest one.** -/
theorem indexOf?_le_maxIndex (h : ofCombos combos seed = .ok l) {values : List Int32} {n : Nat}
    (hn : l.indexOf? values = some n) : n ≤ l.maxIndex := by
  obtain ⟨hadmits, -, rfl⟩ := (indexOf?_eq_some_iff h).mp hn
  rw [(ofCombos_eq h).2]
  exact weigh_le_highest seed hadmits

/-- **The greatest index is an index**, if no greatest value is below zero. -/
theorem indexOf?_highest (h : ofCombos combos seed = .ok l) (hmax : ∀ c ∈ combos, 0 ≤ c.max.toInt) :
    l.indexOf? (highest combos) = some l.maxIndex := by
  obtain ⟨hle, hl⟩ := ofCombos_eq h
  rw [indexOf?_eq_some_iff h, hl]
  refine ⟨admits_highest hle, ?_, rfl⟩
  intro v hv
  obtain ⟨c, hc, rfl⟩ := List.mem_map.mp hv
  exact hmax c hc

/-! ## Ranges that start at zero -/

/-- The scaled greatest values and one first scale make up the next scale: each combo turns its own scale
    into that of the combo behind it. -/
theorem weigh_highest_add (hzero : ∀ c ∈ combos, c.min = 0)
    (hle : ∀ c ∈ combos, c.min.toInt ≤ c.max.toInt) (scale : Nat) :
    weigh scale combos (highest combos) + scale = scale * volume combos := by
  induction combos generalizing scale with
  | nil => simp [weigh, volume]
  | cons c combos ih =>
      have hcount := Combo.count_of_zero (hzero c List.mem_cons_self) (hle c List.mem_cons_self)
      have hrest := ih (fun d hd => hzero d (List.mem_cons_of_mem _ hd))
        (fun d hd => hle d (List.mem_cons_of_mem _ hd)) (scale * c.count)
      calc weigh scale (c :: combos) (highest (c :: combos)) + scale
          = scale * c.max.toInt.toNat + weigh (scale * c.count) combos (highest combos) + scale := rfl
        _ = weigh (scale * c.count) combos (highest combos) + scale * (c.max.toInt.toNat + 1) := by
            ring
        _ = weigh (scale * c.count) combos (highest combos) + scale * c.count := by rw [hcount]
        _ = scale * volume (c :: combos) := by rw [hrest, volume_cons, Nat.mul_assoc]

/-- **The greatest index is the last one before the next scale.** -/
theorem maxIndex_add_seed (h : ofCombos combos seed = .ok l) (hzero : ∀ c ∈ combos, c.min = 0) :
    l.maxIndex + seed = seed * l.cardinality := by
  obtain ⟨hle, hl⟩ := ofCombos_eq h
  rw [hl]
  exact weigh_highest_add hzero hle seed

/-! ## Two layouts -/

/-- **The greatest sum of two indices** is one less than the count of all combinations. -/
theorem maxIndex_add_maxIndex (hdyn : ofCombos dynamic 1 = .ok dyn)
    (hstat : ofCombos static dyn.cardinality = .ok stat) (hs : ∀ c ∈ static, c.min = 0)
    (hd : ∀ c ∈ dynamic, c.min = 0) :
    stat.maxIndex + dyn.maxIndex + 1 = stat.cardinality * dyn.cardinality := by
  have hstatic := maxIndex_add_seed hstat hs
  have hdynamic := maxIndex_add_seed hdyn hd
  rw [Nat.one_mul] at hdynamic
  rw [Nat.add_assoc, hdynamic, hstatic, Nat.mul_comm]

theorem combinedIndex?_eq_some_iff {s d : List Int32} {n : Nat} :
    combinedIndex? stat dyn (s, d) = some n ↔
      ∃ i j, stat.indexOf? s = some i ∧ dyn.indexOf? d = some j ∧ i + j = n := by
  unfold combinedIndex?
  simp only [Option.bind_eq_bind, Option.bind_eq_some_iff, Option.some.injEq, exists_and_left]

/-- Greatest values of ranges that start at zero are not below zero. -/
theorem max_nonneg_of_ofCombos (h : ofCombos combos seed = .ok l) (hzero : ∀ c ∈ combos, c.min = 0) :
    ∀ c ∈ combos, 0 ≤ c.max.toInt := by
  intro c hc
  have hle := (ofCombos_eq h).1 c hc
  rwa [hzero c hc, Int32.toInt_zero] at hle

/-- **When indices can be added in 64 bits.** All sums of a static and a dynamic index fit exactly if there
    are no more combinations than numbers of 64 bits. -/
theorem forall_combinedIndex_lt_iff (hdyn : ofCombos dynamic 1 = .ok dyn)
    (hstat : ofCombos static dyn.cardinality = .ok stat) (hs : ∀ c ∈ static, c.min = 0)
    (hd : ∀ c ∈ dynamic, c.min = 0) :
    (∀ s d n, combinedIndex? stat dyn (s, d) = some n → n < 2 ^ 64) ↔
      stat.cardinality * dyn.cardinality ≤ 2 ^ 64 := by
  have hsum := maxIndex_add_maxIndex hdyn hstat hs hd
  constructor
  · intro hall
    -- The greatest values have the greatest indices.
    have hgreatest := hall (highest static) (highest dynamic) (stat.maxIndex + dyn.maxIndex)
      (combinedIndex?_eq_some_iff.mpr ⟨_, _, indexOf?_highest hstat (max_nonneg_of_ofCombos hstat hs),
        indexOf?_highest hdyn (max_nonneg_of_ofCombos hdyn hd), rfl⟩)
    omega
  · intro hcount s d n hn
    obtain ⟨i, j, hi, hj, rfl⟩ := combinedIndex?_eq_some_iff.mp hn
    have hstatic := indexOf?_le_maxIndex hstat hi
    have hdynamic := indexOf?_le_maxIndex hdyn hj
    omega

end Layout

end ShaderCombos
