import Mathlib
import ShaderCombos.Layout

/-!
# `Proofs.Layout.Placement` — what a successful layout holds

`Layout.ofCombos` pushes one combo after another and checks the limits of 64 bits on the way. Once it
succeeds, nothing of that bookkeeping is left to see: the fields are the combos with running products as
scales. This module says so once (`ofCombos_eq`), so that no later proof opens `push` or `extend`.

## Contents
- **Closed forms.** `Combo.count`, `volume`, `place`, `weigh`: cardinality, product of cardinalities,
  fields with their scales, and the sum of scaled values, all in unbounded numbers.
- **Spec of a layout.** `push_eq_ok_iff` for one combo, `extend_eq` and `ofCombos_eq` for a list.
- **Spec of an index.** `Admits` (one value in range for each combo) and `sumTerms_place_eq_some_iff`.
-/

namespace ShaderCombos

/-! ## Ranges -/

/-- How many values lie between the bounds of a combo. -/
def Combo.count (c : Combo) : Nat :=
  (c.max.toInt - c.min.toInt + 1).toNat

theorem Combo.count_pos {c : Combo} (h : c.min.toInt ≤ c.max.toInt) : 0 < c.count := by
  unfold Combo.count
  omega

theorem Combo.cardinality?_of_le {c : Combo} (h : c.min.toInt ≤ c.max.toInt) :
    c.cardinality? = some c.count := by
  rw [Combo.cardinality?_eq_some_iff]
  unfold Combo.count
  omega

/-- One value for each combo, each within its combo's bounds. -/
def Admits (combos : List Combo) (values : List Int32) : Prop :=
  List.Forall₂ (fun c v => c.min.toInt ≤ v.toInt ∧ v.toInt ≤ c.max.toInt) combos values

/-- The assignment in which every combo has its least value. -/
def lowest (combos : List Combo) : List Int32 :=
  combos.map Combo.min

/-- The assignment in which every combo has its greatest value. -/
def highest (combos : List Combo) : List Int32 :=
  combos.map Combo.max

theorem admits_lowest {combos : List Combo} (h : ∀ c ∈ combos, c.min.toInt ≤ c.max.toInt) :
    Admits combos (lowest combos) := by
  induction combos with
  | nil => exact .nil
  | cons c combos ih =>
      exact .cons ⟨le_refl _, h c (by simp)⟩ (ih fun d hd => h d (by simp [hd]))

theorem admits_highest {combos : List Combo} (h : ∀ c ∈ combos, c.min.toInt ≤ c.max.toInt) :
    Admits combos (highest combos) := by
  induction combos with
  | nil => exact .nil
  | cons c combos ih =>
      exact .cons ⟨h c (by simp), le_refl _⟩ (ih fun d hd => h d (by simp [hd]))

/-- Values within ranges that start at zero or above are not negative. -/
theorem Admits.nonneg {combos : List Combo} {values : List Int32} (h : Admits combos values)
    (hmin : ∀ c ∈ combos, 0 ≤ c.min.toInt) : ∀ v ∈ values, 0 ≤ v.toInt := by
  induction h with
  | nil => simp
  | @cons c v combos values hv _ ih =>
      have hc : 0 ≤ c.min.toInt := hmin c (by simp)
      have hrest := ih fun d hd => hmin d (by simp [hd])
      intro w hw
      rcases List.mem_cons.mp hw with rfl | hw
      · omega
      · exact hrest w hw

namespace Layout

/-! ## Closed forms -/

/-- How many assignments a list of combos has. -/
def volume (combos : List Combo) : Nat :=
  (combos.map Combo.count).prod

/-- The fields of some combos of which the first has the given scale. -/
def place (scale : Nat) : List Combo → List Field
  | [] => []
  | c :: rest => ⟨c.name, c.min, c.max, c.count, scale⟩ :: place (scale * c.count) rest

/-- The sum of values times running scales, of which the first is the given one. -/
def weigh (scale : Nat) : List Combo → List Int32 → Nat
  | c :: combos, v :: values => scale * v.toInt.toNat + weigh (scale * c.count) combos values
  | _, _ => 0

theorem volume_cons (c : Combo) (combos : List Combo) :
    volume (c :: combos) = c.count * volume combos := by
  simp [volume]

theorem volume_append (a b : List Combo) : volume (a ++ b) = volume a * volume b := by
  simp [volume]

theorem volume_pos {combos : List Combo} (h : ∀ c ∈ combos, c.min.toInt ≤ c.max.toInt) :
    0 < volume combos := by
  induction combos with
  | nil => simp [volume]
  | cons c combos ih =>
      rw [volume_cons]
      exact Nat.mul_pos (Combo.count_pos (h c (by simp))) (ih fun d hd => h d (by simp [hd]))

theorem place_append (scale : Nat) (a b : List Combo) :
    place scale (a ++ b) = place scale a ++ place (scale * volume a) b := by
  induction a generalizing scale with
  | nil => simp [place, volume]
  | cons c a ih =>
      rw [List.cons_append, place, place, ih, volume_cons, Nat.mul_assoc, List.cons_append]

theorem length_place (scale : Nat) (combos : List Combo) :
    (place scale combos).length = combos.length := by
  induction combos generalizing scale with
  | nil => rfl
  | cons c combos ih => rw [place, List.length_cons, ih, List.length_cons]

/-- Scales grow with the list only, so a sum over a longer list splits where the list does. -/
theorem weigh_append (scale : Nat) {a b : List Combo} {u v : List Int32} (h : a.length = u.length) :
    weigh scale (a ++ b) (u ++ v) = weigh scale a u + weigh (scale * volume a) b v := by
  induction a generalizing scale u with
  | nil =>
      obtain rfl := List.length_eq_zero_iff.mp h.symm
      simp [weigh, volume]
  | cons c a ih =>
      cases u with
      | nil => simp at h
      | cons x u =>
          have htail : a.length = u.length := by simpa using h
          rw [List.cons_append, List.cons_append, weigh, weigh, ih _ htail, volume_cons, Nat.mul_assoc,
            Nat.add_assoc]

/-! ## Spec of a layout -/

/-- A layout with one more combo, without any check. -/
def grown (l : Layout) (scale : Nat) (c : Combo) : Layout where
  fields := l.fields ++ [⟨c.name, c.min, c.max, c.count, scale⟩]
  cardinality := l.cardinality * c.count
  maxIndex := l.maxIndex + scale * c.max.toInt.toNat

/-- **One push.** A combo is added exactly if its range is not reversed and scale, greatest index and
    cardinality fit. -/
theorem push_eq_ok_iff {l l' : Layout} {scale : Nat} {c : Combo} :
    l.push scale c = .ok l' ↔
      c.min.toInt ≤ c.max.toInt ∧ l' = l.grown scale c ∧
        fits64 scale ∧ fits64 l'.maxIndex ∧ fits64 l'.cardinality := by
  unfold push
  by_cases hle : c.min.toInt ≤ c.max.toInt
  · rw [Combo.cardinality?_of_le hle]
    simp only [grown, Bool.and_eq_true]
    constructor
    · intro h
      split at h
      · next hfit =>
          cases h
          exact ⟨hle, rfl, hfit.1.1, hfit.1.2, hfit.2⟩
      · cases h
    · rintro ⟨-, rfl, hscale, hindex, hcard⟩
      rw [if_pos ⟨⟨hscale, hindex⟩, hcard⟩]
  · rw [(Combo.cardinality?_eq_none_iff c).mpr (by omega)]
    simp [hle]

/-- **A run of pushes.** What `extend` builds, when it succeeds, is the closed form. -/
theorem extend_eq {seed : Nat} {l l' : Layout} {combos : List Combo}
    (h : extend seed l combos = .ok l') :
    (∀ c ∈ combos, c.min.toInt ≤ c.max.toInt) ∧
      l' = ⟨l.fields ++ place (seed * l.cardinality) combos, l.cardinality * volume combos,
        l.maxIndex + weigh (seed * l.cardinality) combos (highest combos)⟩ := by
  induction combos generalizing l with
  | nil =>
      cases h
      simp [place, volume, weigh]
  | cons c combos ih =>
      unfold extend at h
      cases hp : l.push (seed * l.cardinality) c with
      | error e => rw [hp] at h; cases h
      | ok next =>
          rw [hp] at h
          obtain ⟨hle, rfl, -⟩ := push_eq_ok_iff.mp hp
          obtain ⟨hrest, hl'⟩ := ih h
          refine ⟨by simpa [hle] using hrest, ?_⟩
          rw [hl']
          simp only [grown, place, highest, List.map_cons, weigh, volume_cons, List.append_assoc,
            List.singleton_append, Nat.mul_assoc, Nat.add_assoc]

/-- **What a layout holds.** If the layout of some combos exists, no range is reversed, and it consists
    of the closed forms. -/
theorem ofCombos_eq {combos : List Combo} {seed : Nat} {l : Layout} (h : ofCombos combos seed = .ok l) :
    (∀ c ∈ combos, c.min.toInt ≤ c.max.toInt) ∧
      l = ⟨place seed combos, volume combos, weigh seed combos (highest combos)⟩ := by
  have hl := extend_eq h
  simpa [empty] using hl

theorem fields_eq_place {combos : List Combo} {seed : Nat} {l : Layout}
    (h : ofCombos combos seed = .ok l) : l.fields = place seed combos := by
  rw [(ofCombos_eq h).2]

/-! ## Spec of an index -/

/-- **The index of an assignment.** There is one exactly if every value lies in its combo's range and
    none is negative, and it is the sum of the scaled values. -/
theorem sumTerms_place_eq_some_iff {scale : Nat} {combos : List Combo} {values : List Int32} {n : Nat} :
    sumTerms (place scale combos) values = some n ↔
      Admits combos values ∧ (∀ v ∈ values, 0 ≤ v.toInt) ∧ n = weigh scale combos values := by
  induction combos generalizing scale values n with
  | nil =>
      cases values with
      | nil => simp [sumTerms, place, Admits, weigh, eq_comm]
      | cons v values => simp [sumTerms, place, Admits]
  | cons c combos ih =>
      cases values with
      | nil => simp [sumTerms, place, Admits]
      | cons v values =>
          have hadmits : Admits (c :: combos) (v :: values) ↔
              (c.min.toInt ≤ v.toInt ∧ v.toInt ≤ c.max.toInt) ∧ Admits combos values :=
            List.forall₂_cons
          rw [hadmits]
          by_cases hv : c.min.toInt ≤ v.toInt ∧ v.toInt ≤ c.max.toInt ∧ 0 ≤ v.toInt
          · obtain ⟨hmin, hmax, hnn⟩ := hv
            simp only [place, sumTerms, Field.term?, hmin, hmax, hnn, and_self, if_true,
              Option.bind_eq_bind, Option.bind_some, Option.bind_eq_some_iff, ih, weigh, true_and,
              List.mem_cons, forall_eq_or_imp, Option.some.injEq]
            constructor
            · rintro ⟨m, ⟨hrest, hneg, rfl⟩, rfl⟩
              exact ⟨hrest, hneg, rfl⟩
            · rintro ⟨hrest, hneg, rfl⟩
              exact ⟨_, ⟨hrest, hneg, rfl⟩, rfl⟩
          · -- A value out of range or below zero has no term, and neither has the list.
            simp only [place, sumTerms, Field.term?, hv, if_false, Option.bind_eq_bind,
              Option.bind_none, reduceCtorEq, List.mem_cons, forall_eq_or_imp, false_iff]
            rintro ⟨⟨hrange, -⟩, ⟨hnn, -⟩, -⟩
            exact hv ⟨hrange.1, hrange.2, hnn⟩

/-- The index that a layout gives, in closed form. -/
theorem indexOf?_eq_some_iff {combos : List Combo} {seed : Nat} {l : Layout}
    (h : ofCombos combos seed = .ok l) {values : List Int32} {n : Nat} :
    l.indexOf? values = some n ↔
      Admits combos values ∧ (∀ v ∈ values, 0 ≤ v.toInt) ∧ n = weigh seed combos values := by
  rw [(ofCombos_eq h).2]
  exact sumTerms_place_eq_some_iff

end Layout

end ShaderCombos
