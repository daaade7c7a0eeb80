import Mathlib
import ShaderCombos.Proofs.Layout.Placement
import ShaderCombos.Proofs.Outcomes

/-!
# `Proofs.Layout.Exactness` — which combos can be laid out, and which one spoils it

A layout grows combo by combo, and what has to fit 64 bits is checked as it grows. `Proofs.Layout.Placement`
says what comes out if nothing goes wrong. This module says when something goes wrong and whose fault it
is: `Fits` is what a combo needs, in terms of the combos before it and in unbounded numbers. A layout exists
exactly if every combo has what it needs at its position, and otherwise the fault bears the name of the
first combo that has not.

The scale behind the last combo is nobody's scale. It is not asked to fit, here as in the layout.

## Contents
- **Closed forms by position.** `scaleAt` and `reach`, with `place_eq_mapIdx` and `weigh_highest_eq_reach`.
- **What a combo needs.** `Fits` behind given combos, `FitsAt` at a position of a list.
- **One combo.** `push_eq_error_iff` beside `push_eq_ok_iff`; `misfit` is the fault of a combo.
- **All combos.** `ofCombos_eq_ok_iff`, `ofCombos_eq_error_iff`, and `ofCombos_exact` for both together;
  `maxIndex_lt`.
-/

namespace ShaderCombos.Layout

variable {seed : Nat} {combos : List Combo} {c : Combo}

/-! ## Closed forms by position -/

/-- The scale of the combo at a position: the seed times the counts of all combos before it. -/
def scaleAt (seed : Nat) (combos : List Combo) (k : Nat) : Nat :=
  seed * volume (combos.take k)

/-- The sum of the greatest values, each times its scale. What is below zero adds nothing. -/
def reach (seed : Nat) (combos : List Combo) : Nat :=
  (combos.mapIdx fun k c => scaleAt seed combos k * c.max.toInt.toNat).sum

theorem scaleAt_append {k : Nat} (h : k ≤ combos.length) (more : List Combo) :
    scaleAt seed (combos ++ more) k = scaleAt seed combos k := by
  unfold scaleAt
  rw [List.take_append_of_le_length h]

theorem scaleAt_length (more : List Combo) :
    scaleAt seed (combos ++ more) combos.length = seed * volume combos := by
  unfold scaleAt
  rw [List.take_left]

/-- Whatever is made of combos and their scales, one more combo does not disturb what is there. -/
theorem mapIdx_scaleAt_concat {β : Type} (f : Nat → Combo → β) :
    ((combos ++ [c]).mapIdx fun k d => f (scaleAt seed (combos ++ [c]) k) d) =
      (combos.mapIdx fun k d => f (scaleAt seed combos k) d) ++ [f (seed * volume combos) c] := by
  have hfront : (combos.mapIdx fun k d => f (scaleAt seed (combos ++ [c]) k) d) =
      combos.mapIdx fun k d => f (scaleAt seed combos k) d := by
    rw [List.mapIdx_eq_mapIdx_iff]
    intro k hk
    rw [scaleAt_append (Nat.le_of_lt hk)]
  rw [List.mapIdx_concat, hfront, scaleAt_length]

theorem reach_concat :
    reach seed (combos ++ [c]) = reach seed combos + seed * volume combos * c.max.toInt.toNat := by
  unfold reach
  rw [mapIdx_scaleAt_concat fun scale d => scale * d.max.toInt.toNat, List.sum_append,
    List.sum_singleton]

theorem highest_concat : highest (combos ++ [c]) = highest combos ++ [c.max] :=
  List.map_append

theorem weigh_highest_concat :
    weigh seed (combos ++ [c]) (highest (combos ++ [c])) =
      weigh seed combos (highest combos) + seed * volume combos * c.max.toInt.toNat := by
  have hlength : combos.length = (highest combos).length := by
    unfold highest
    rw [List.length_map]
  rw [highest_concat, weigh_append seed hlength]
  rfl

/-- The greatest index is the sum of all greatest values times their scales. -/
theorem weigh_highest_eq_reach (seed : Nat) (combos : List Combo) :
    weigh seed combos (highest combos) = reach seed combos := by
  induction combos using List.reverseRecOn with
  | nil => rfl
  | append_singleton combos c ih => rw [weigh_highest_concat, reach_concat, ih]

theorem volume_concat : volume (combos ++ [c]) = volume combos * c.count := by
  rw [volume_append]
  simp [volume]

/-- The fields are the combos with their scales. -/
theorem place_eq_mapIdx (seed : Nat) (combos : List Combo) :
    place seed combos =
      combos.mapIdx fun k c => ⟨c.name, c.min, c.max, c.count, scaleAt seed combos k⟩ := by
  induction combos using List.reverseRecOn with
  | nil => rfl
  | append_singleton combos c ih =>
      rw [mapIdx_scaleAt_concat fun scale (d : Combo) =>
        (⟨d.name, d.min, d.max, d.count, scale⟩ : Field), place_append, ih]
      rfl

/-- Each field is as wide as the count of its combo needs. -/
theorem map_bits_place (scale : Nat) (combos : List Combo) :
    (place scale combos).map Field.bits = combos.map fun c => bitWidth c.count := by
  induction combos generalizing scale with
  | nil => rfl
  | cons c combos ih =>
      rw [place, List.map_cons, ih, List.map_cons]
      rfl

/-- The layout of some combos in closed form, without any check. -/
def unchecked (seed : Nat) (combos : List Combo) : Layout where
  fields := place seed combos
  cardinality := volume combos
  maxIndex := weigh seed combos (highest combos)

theorem grown_unchecked :
    (unchecked seed combos).grown (seed * volume combos) c = unchecked seed (combos ++ [c]) := by
  unfold unchecked grown
  rw [place_append, volume_concat, weigh_highest_concat]
  rfl

/-! ## What a combo needs -/

/-- **What a combo needs** behind some others: a range that is not reversed, and room in 64 bits for its
    scale, for the product of the counts and for the sum of the scaled greatest values, its own among
    them. -/
structure Fits (seed : Nat) (before : List Combo) (c : Combo) : Prop where
  ordered : c.min.toInt ≤ c.max.toInt
  scale_lt : seed * volume before < 2 ^ 64
  volume_lt : volume (before ++ [c]) < 2 ^ 64
  reach_lt : reach seed (before ++ [c]) < 2 ^ 64

/-- The combo at a position has what it needs. -/
def FitsAt (seed : Nat) (combos : List Combo) (k : Nat) (h : k < combos.length) : Prop :=
  Fits seed (combos.take k) combos[k]

/-- What comes behind a combo does not matter to it. -/
theorem fitsAt_append_iff {k : Nat} (h : k < combos.length) {more : List Combo}
    (h' : k < (combos ++ more).length) :
    FitsAt seed (combos ++ more) k h' ↔ FitsAt seed combos k h := by
  unfold FitsAt
  rw [List.take_append_of_le_length (Nat.le_of_lt h), List.getElem_append_left h]

/-- The combo at the end stands behind all others. -/
theorem fitsAt_length_iff (h : combos.length < (combos ++ [c]).length) :
    FitsAt seed (combos ++ [c]) combos.length h ↔ Fits seed combos c := by
  unfold FitsAt
  rw [List.take_left, List.getElem_concat_length rfl]

theorem length_lt_concat : combos.length < (combos ++ [c]).length := by
  rw [List.length_append, List.length_singleton]
  exact Nat.lt_succ_self _

/-- A position of a longer list is one of the shorter list or the last. -/
theorem lt_or_eq_of_lt_concat {k : Nat} (h : k < (combos ++ [c]).length) :
    k < combos.length ∨ k = combos.length := by
  rw [List.length_append, List.length_singleton] at h
  omega

/-- All combos fit exactly if all but the last fit and the last fits behind them. -/
theorem forall_fitsAt_concat_iff :
    (∀ k h, FitsAt seed (combos ++ [c]) k h) ↔
      (∀ k h, FitsAt seed combos k h) ∧ Fits seed combos c := by
  constructor
  · intro hall
    refine ⟨fun k hk => ?_, (fitsAt_length_iff length_lt_concat).mp (hall _ _)⟩
    exact (fitsAt_append_iff hk (Nat.lt_trans hk length_lt_concat)).mp (hall k _)
  · rintro ⟨hfront, hlast⟩ k hk
    rcases lt_or_eq_of_lt_concat hk with hlt | rfl
    · exact (fitsAt_append_iff hlt hk).mpr (hfront k hlt)
    · exact (fitsAt_length_iff hk).mpr hlast

/-! ## One combo -/

/-- The fault of a combo that cannot be laid out. A reversed range comes before all that is too large. -/
def misfit (c : Combo) : Fault :=
  if c.max.toInt < c.min.toInt then .emptyRange c.name c.min c.max else .indexOverflow c.name

/-- **One push that fails** fails with the fault of its combo. -/
theorem push_eq_error_iff {l : Layout} {scale : Nat} {fault : Fault} :
    l.push scale c = .error fault ↔ (∀ next, l.push scale c ≠ .ok next) ∧ fault = misfit c := by
  have hfault : ∀ e, l.push scale c = .error e → e = misfit c := by
    intro e he
    unfold push at he
    unfold misfit
    by_cases hle : c.min.toInt ≤ c.max.toInt
    · rw [Combo.cardinality?_of_le hle] at he
      simp only at he
      rw [if_neg (by omega)]
      split at he
      · cases he
      · cases he
        rfl
    · rw [(Combo.cardinality?_eq_none_iff c).mpr (by omega)] at he
      cases he
      rw [if_pos (by omega)]
  constructor
  · intro h
    refine ⟨fun next hnext => ?_, hfault fault h⟩
    rw [h] at hnext
    cases hnext
  · rintro ⟨hfails, rfl⟩
    cases hp : l.push scale c with
    | ok next => exact absurd hp (hfails next)
    | error e => rw [hfault e hp]

theorem fits64_eq_true_iff {n : Nat} : fits64 n = true ↔ n < 2 ^ 64 := by
  unfold fits64
  exact decide_eq_true_iff

/-- A push onto the closed form succeeds exactly if the combo fits, and it gives the closed form. -/
theorem push_unchecked_eq_ok_iff {l : Layout} :
    (unchecked seed combos).push (seed * volume combos) c = .ok l ↔
      Fits seed combos c ∧ l = unchecked seed (combos ++ [c]) := by
  rw [push_eq_ok_iff, grown_unchecked]
  constructor
  · rintro ⟨hle, rfl, hscale, hindex, hcard⟩
    rw [fits64_eq_true_iff] at hscale hindex hcard
    refine ⟨⟨hle, hscale, hcard, ?_⟩, rfl⟩
    rw [← weigh_highest_eq_reach]
    exact hindex
  · rintro ⟨⟨hle, hscale, hcard, hreach⟩, rfl⟩
    rw [← weigh_highest_eq_reach] at hreach
    exact ⟨hle, rfl, fits64_eq_true_iff.mpr hscale, fits64_eq_true_iff.mpr hreach,
      fits64_eq_true_iff.mpr hcard⟩

/-! ## All combos -/

/-- Combos in two parts are laid out one part after the other. -/
theorem extend_append (l : Layout) (a b : List Combo) :
    extend seed l (a ++ b) = extend seed l a >>= fun next => extend seed next b := by
  induction a generalizing l with
  | nil => rfl
  | cons c a ih =>
      rw [List.cons_append, extend, extend]
      cases l.push (seed * l.cardinality) c with
      | error e => rfl
      | ok next => exact ih next

/-- The last combo is pushed onto the layout of the others. -/
theorem ofCombos_concat :
    ofCombos (combos ++ [c]) seed =
      ofCombos combos seed >>= fun l => l.push (seed * l.cardinality) c := by
  unfold ofCombos
  rw [extend_append]
  congr 1
  funext l
  rw [extend]
  cases l.push (seed * l.cardinality) c with
  | error e => rfl
  | ok next => rfl

/-- **When there is a layout.** Every combo fits, and the layout is the closed form. -/
theorem ofCombos_eq_ok_iff {l : Layout} :
    ofCombos combos seed = .ok l ↔ (∀ k h, FitsAt seed combos k h) ∧ l = unchecked seed combos := by
  induction combos using List.reverseRecOn generalizing l with
  | nil =>
      constructor
      · intro h
        obtain rfl := Except.ok.inj h
        exact ⟨fun k hk => absurd hk (Nat.not_lt_zero k), rfl⟩
      · rintro ⟨-, rfl⟩
        rfl
  | append_singleton combos c ih =>
      rw [ofCombos_concat, except_bind_eq_ok, forall_fitsAt_concat_iff]
      constructor
      · rintro ⟨front, hfront, hpush⟩
        obtain ⟨hall, rfl⟩ := ih.mp hfront
        obtain ⟨hlast, rfl⟩ := push_unchecked_eq_ok_iff.mp hpush
        exact ⟨⟨hall, hlast⟩, rfl⟩
      · rintro ⟨⟨hall, hlast⟩, rfl⟩
        exact ⟨_, ih.mpr ⟨hall, rfl⟩, push_unchecked_eq_ok_iff.mpr ⟨hlast, rfl⟩⟩

/-- A layout keeps its greatest index within 64 bits. -/
theorem maxIndex_lt {l : Layout} (h : ofCombos combos seed = .ok l) : l.maxIndex < 2 ^ 64 := by
  obtain ⟨hall, rfl⟩ := ofCombos_eq_ok_iff.mp h
  show weigh seed combos (highest combos) < 2 ^ 64
  rw [weigh_highest_eq_reach]
  rcases List.eq_nil_or_concat combos with rfl | ⟨front, c, rfl⟩
  · exact Nat.two_pow_pos 64
  · -- The last combo needs room for the sum over the whole list.
    rw [List.concat_eq_append] at hall ⊢
    exact ((forall_fitsAt_concat_iff.mp hall).2).reach_lt

/-- **When there is none.** The fault is that of the first combo that does not fit. -/
theorem ofCombos_eq_error_iff {fault : Fault} :
    ofCombos combos seed = .error fault ↔
      ∃ k, ∃ h : k < combos.length, ¬ FitsAt seed combos k h ∧
        (∀ j, ∀ hj : j < k, FitsAt seed combos j (Nat.lt_trans hj h)) ∧ fault = misfit combos[k] := by
  induction combos using List.reverseRecOn with
  | nil =>
      constructor
      · rintro ⟨⟩
      · rintro ⟨k, hk, -⟩
        exact absurd hk (Nat.not_lt_zero k)
  | append_singleton combos c ih =>
      rw [ofCombos_concat, except_bind_eq_error]
      constructor
      · rintro (hfront | ⟨front, hfront, hpush⟩)
        · -- A combo further in front fails, and what comes behind it does not matter.
          obtain ⟨k, hk, hmisfit, hbefore, rfl⟩ := ih.mp hfront
          refine ⟨k, Nat.lt_trans hk length_lt_concat, ?_, ?_, ?_⟩
          · rwa [fitsAt_append_iff hk]
          · intro j hj
            exact (fitsAt_append_iff (Nat.lt_trans hj hk) _).mpr (hbefore j hj)
          · rw [List.getElem_append_left hk]
        · obtain ⟨hall, rfl⟩ := ofCombos_eq_ok_iff.mp hfront
          obtain ⟨hfails, rfl⟩ := push_eq_error_iff.mp hpush
          refine ⟨combos.length, length_lt_concat, ?_, ?_, ?_⟩
          · intro hlast
            rw [fitsAt_length_iff] at hlast
            exact hfails _ (push_unchecked_eq_ok_iff.mpr ⟨hlast, rfl⟩)
          · intro j hj
            exact (fitsAt_append_iff hj _).mpr (hall j hj)
          · rw [List.getElem_concat_length rfl]
      · rintro ⟨k, hk, hmisfit, hbefore, rfl⟩
        rcases lt_or_eq_of_lt_concat hk with hlt | rfl
        · refine Or.inl (ih.mpr ⟨k, hlt, ?_, ?_, ?_⟩)
          · rwa [← fitsAt_append_iff hlt hk]
          · intro j hj
            exact (fitsAt_append_iff (Nat.lt_trans hj hlt) _).mp (hbefore j hj)
          · rw [List.getElem_append_left hlt]
        · have hall : ∀ j hj, FitsAt seed combos j hj := fun j hj =>
            (fitsAt_append_iff hj (Nat.lt_trans hj hk)).mp (hbefore j hj)
          refine Or.inr ⟨_, ofCombos_eq_ok_iff.mpr ⟨hall, rfl⟩, push_eq_error_iff.mpr ⟨?_, ?_⟩⟩
          · intro next hnext
            exact hmisfit ((fitsAt_length_iff hk).mpr (push_unchecked_eq_ok_iff.mp hnext).1)
          · rw [List.getElem_concat_length rfl]

/-- **Layouts are exact.** A list of combos has a layout exactly if each combo fits at its position. Then
    fields, cardinality and greatest index are those of unbounded arithmetic. Otherwise the fault is that of
    the first combo that does not fit. -/
theorem ofCombos_exact (combos : List Combo) (seed : Nat) :
    ((∃ l, ofCombos combos seed = .ok l) ↔ ∀ k h, FitsAt seed combos k h) ∧
      (∀ l, ofCombos combos seed = .ok l →
        l.fields = combos.mapIdx (fun k c => ⟨c.name, c.min, c.max, c.count, scaleAt seed combos k⟩) ∧
          l.fields.map Field.bits = combos.map (fun c => bitWidth c.count) ∧
          l.cardinality = volume combos ∧ l.maxIndex = reach seed combos) ∧
      ∀ fault, ofCombos combos seed = .error fault ↔
        ∃ k, ∃ h : k < combos.length, ¬ FitsAt seed combos k h ∧
          (∀ j, ∀ hj : j < k, FitsAt seed combos j (Nat.lt_trans hj h)) ∧ fault = misfit combos[k] := by
  refine ⟨?_, ?_, fun fault => ofCombos_eq_error_iff⟩
  · constructor
    · rintro ⟨l, hl⟩
      exact (ofCombos_eq_ok_iff.mp hl).1
    · intro hall
      exact ⟨_, ofCombos_eq_ok_iff.mpr ⟨hall, rfl⟩⟩
  · intro l hl
    obtain ⟨-, rfl⟩ := ofCombos_eq_ok_iff.mp hl
    have hfields := place_eq_mapIdx seed combos
    refine ⟨hfields, ?_, rfl, weigh_highest_eq_reach seed combos⟩
    exact map_bits_place seed combos

-- The scale behind `A` is 2 ^ 64, which matters only once `B` takes it.
example : (ofCombos [⟨"A", 0, 1, .mustBeSet⟩] (2 ^ 63)).isOk = true ∧
    ofCombos [⟨"A", 0, 1, .mustBeSet⟩, ⟨"B", 0, 0, .mustBeSet⟩] (2 ^ 63) = .error (.indexOverflow "B") := by
  decide

end ShaderCombos.Layout
