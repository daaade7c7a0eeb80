import Mathlib
import ShaderCombos.Proofs.Layout.Exactness
import ShaderCombos.Proofs.Layout.GreatestIndex

/-!
# `Proofs.Layout.Accumulation` — an index is summed up without overflow

`Layout.indexOf?` is a sum in unbounded numbers. A program that packs values adds up words of 64 bits, one
field after the other, and checks neither a product nor a sum. `indexInWords` is that computation with every
product and every sum looked at: it ends in an overflow as soon as one of them is no word.

It never does, and the reason lies in the layout. What has been added so far and what the remaining fields
can add at most stay below the greatest index, and the greatest index is a word since the layout exists. That
is `HasRoom`: it holds at the start, each term leaves it true, and so it holds to the end.

## Contents
- **Summing up in words.** `WordSum`, `addTerms`, `indexInWords`.
- **Room.** `HasRoom`, kept by one term (`HasRoom.step`) and so by all of them (`addTerms_place`).
- **Indices.** `indexOf?_exact`: no overflow, the exact sum, and the greatest index as a bound that is met.
-/

namespace ShaderCombos.Layout

variable {combos : List Combo} {c : Combo} {seed scale sum : Nat} {l : Layout} {values : List Int32}

/-! ## Summing up in words -/

/-- How summing up an index in words of 64 bits ends. -/
inductive WordSum where
  /-- The sum of all terms. -/
  | index (n : Nat)
  /-- There is no term for some value, or no value for some field. -/
  | refused
  /-- A product or a sum is no word. -/
  | overflow (n : Nat)
  deriving DecidableEq, Repr

/-- How summing up ends where it does not overflow. -/
def WordSum.ofIndex? : Option Nat → WordSum
  | some n => .index n
  | none => .refused

/-- Adds the terms of some fields and their values to a sum, one after the other. The product of a value and
its scale has to fit a word, and so has every sum on the way. -/
def addTerms (sum : Nat) : List (Field × Int32) → WordSum
  | [] => .index sum
  | (f, v) :: rest =>
    match f.term? v with
    | none => .refused
    | some product =>
      if fits64 product then
        if fits64 (sum + product) then addTerms (sum + product) rest else .overflow (sum + product)
      else .overflow product

/-- The index of an assignment, summed up in words from the first field on. -/
def indexInWords (l : Layout) (values : List Int32) : WordSum :=
  if values.length = l.fields.length then addTerms 0 (l.fields.zip values) else .refused

/-! ## Room -/

/-- **Room for the rest.** What has been added so far, and the most that the combos ahead can add, is a
    word. -/
def HasRoom (sum scale : Nat) (combos : List Combo) : Prop :=
  sum + weigh scale combos (highest combos) < 2 ^ 64

/-- A term is at most what the greatest value adds. -/
theorem term?_le {f : Field} {v : Int32} {product : Nat} (h : f.term? v = some product) :
    product ≤ f.scale * f.max.toInt.toNat := by
  unfold Field.term? at h
  by_cases hv : f.min.toInt ≤ v.toInt ∧ v.toInt ≤ f.max.toInt ∧ 0 ≤ v.toInt
  · rw [if_pos hv, Option.some.injEq] at h
    rw [← h]
    exact Nat.mul_le_mul_left f.scale (Int.toNat_le_toNat hv.2.1)
  · rw [if_neg hv] at h
    cases h

/-- **One term.** Where there is room, the product and the sum are words, and there is room behind them. -/
theorem HasRoom.step {f : Field} {v : Int32} {product : Nat} (h : HasRoom sum scale (c :: combos))
    (hscale : f.scale = scale) (hmax : f.max = c.max) (hterm : f.term? v = some product) :
    fits64 product = true ∧ fits64 (sum + product) = true ∧
      HasRoom (sum + product) (scale * c.count) combos := by
  have hproduct : product ≤ scale * c.max.toInt.toNat := by
    rw [← hscale, ← hmax]
    exact term?_le hterm
  have hroom : sum + (scale * c.max.toInt.toNat + weigh (scale * c.count) combos (highest combos))
      < 2 ^ 64 := h
  unfold HasRoom
  refine ⟨?_, ?_, ?_⟩
  · apply fits64_eq_true_iff.mpr
    omega
  · apply fits64_eq_true_iff.mpr
    omega
  · omega

/-- **All terms.** Where there is room, nothing overflows, and the words add up to the exact sum. -/
theorem addTerms_place (hlength : combos.length = values.length) (hroom : HasRoom sum scale combos) :
    addTerms sum ((place scale combos).zip values) =
      .ofIndex? ((sumTerms (place scale combos) values).map (sum + ·)) := by
  induction combos generalizing sum scale values with
  | nil =>
      obtain rfl := List.length_eq_zero_iff.mp hlength.symm
      rfl
  | cons c combos ih =>
      cases values with
      | nil => simp at hlength
      | cons v values =>
          have htail : combos.length = values.length := by simpa using hlength
          rw [place, List.zip_cons_cons]
          unfold addTerms sumTerms
          cases hterm : Field.term? ⟨c.name, c.min, c.max, c.count, scale⟩ v with
          | none => rfl
          | some product =>
              obtain ⟨hproduct, hsum, hrest⟩ := hroom.step rfl rfl hterm
              simp only [hproduct, hsum, if_true]
              rw [ih htail hrest]
              cases sumTerms (place (scale * c.count) combos) values with
              | none => rfl
              | some rest =>
                  show WordSum.index (sum + product + rest) = WordSum.index (sum + (product + rest))
                  rw [Nat.add_assoc]

-- No layout has this field: its greatest value does not leave room.
example : addTerms 0 [(⟨"A", 0, 2, 3, 2 ^ 63⟩, 2)] = .overflow (2 ^ 64) := by decide

/-! ## Indices -/

/-- There is room for all combos of a layout. -/
theorem hasRoom_of_ofCombos (h : ofCombos combos seed = .ok l) : HasRoom 0 seed combos := by
  have hlt := maxIndex_lt h
  rw [(ofCombos_eq h).2] at hlt
  show 0 + weigh seed combos (highest combos) < 2 ^ 64
  rw [Nat.zero_add]
  exact hlt

/-- Values of another number than the fields have no index. -/
theorem sumTerms_eq_none_of_length_ne {fields : List Field} (h : values.length ≠ fields.length) :
    sumTerms fields values = none := by
  induction fields generalizing values with
  | nil =>
      cases values with
      | nil => exact absurd rfl h
      | cons v values => rfl
  | cons f fields ih =>
      cases values with
      | nil => rfl
      | cons v values =>
          have hrest : sumTerms fields values = none := ih (by simpa using h)
          unfold sumTerms
          rw [hrest]
          cases f.term? v with
          | none => rfl
          | some product => rfl

/-- **Words are enough.** Summing up in words ends with the index, or with none where there is none. -/
theorem indexInWords_eq (h : ofCombos combos seed = .ok l) (values : List Int32) :
    l.indexInWords values = .ofIndex? (l.indexOf? values) := by
  have hfields := fields_eq_place h
  unfold indexInWords indexOf?
  by_cases hlength : values.length = l.fields.length
  · rw [if_pos hlength, hfields]
    rw [hfields, length_place] at hlength
    rw [addTerms_place hlength.symm (hasRoom_of_ofCombos h)]
    simp only [Nat.zero_add, Option.map_id']
  · rw [if_neg hlength, sumTerms_eq_none_of_length_ne hlength]
    rfl

/-- The sum over combos is a sum over the scales of their fields. -/
theorem weigh_eq_sum_scales (scale : Nat) (combos : List Combo) (values : List Int32) :
    weigh scale combos values =
      (List.zipWith (fun scale (v : Int32) => scale * v.toInt.toNat)
        ((place scale combos).map Field.scale) values).sum := by
  induction combos generalizing scale values with
  | nil => rfl
  | cons c combos ih =>
      cases values with
      | nil => rfl
      | cons v values =>
          rw [weigh, place, List.map_cons, List.zipWith_cons_cons, List.sum_cons, ih]

/-- **Indices are exact.** Where a layout exists, no product and no sum on the way to an index overflows 64
    bits. There is an index exactly if there is one value for each combo, in its range and not negative, and
    it is the sum of all values times their scales. None is above the greatest index, which the greatest
    values have if none of them is negative. -/
theorem indexOf?_exact (h : ofCombos combos seed = .ok l) (values : List Int32) :
    l.indexInWords values = .ofIndex? (l.indexOf? values) ∧
      (∀ n, l.indexOf? values = some n ↔
        Admits combos values ∧ (∀ v ∈ values, 0 ≤ v.toInt) ∧
          n = (List.zipWith (fun scale (v : Int32) => scale * v.toInt.toNat) l.scales values).sum) ∧
      (∀ n, l.indexOf? values = some n → n ≤ l.maxIndex) ∧
      ((∀ c ∈ combos, 0 ≤ c.max.toInt) → l.indexOf? (highest combos) = some l.maxIndex) := by
  have hscales : l.scales = (place seed combos).map Field.scale := by
    unfold scales
    rw [fields_eq_place h]
  refine ⟨indexInWords_eq h values, ?_, ?_, ?_⟩
  · intro n
    rw [hscales, ← weigh_eq_sum_scales]
    exact indexOf?_eq_some_iff h
  · intro n hn
    exact indexOf?_le_maxIndex h hn
  · intro hmax
    exact indexOf?_highest h hmax

/-- A scale of 2 ^ 63, and a range with a negative value. -/
theorem indexOf?_exact_two_pow_sixty_three :
    ∃ l, ofCombos [⟨"A", 0, 0, .mustBeSet⟩, ⟨"B", -1, 1, .mustBeSet⟩] (2 ^ 63) = .ok l ∧
      l.indexInWords [0, 1] = .index (2 ^ 63) ∧ l.indexOf? [0, -1] = none ∧
      l.indexOf? [0, 1] = some l.maxIndex := by
  have hlayout : ofCombos [⟨"A", 0, 0, .mustBeSet⟩, ⟨"B", -1, 1, .mustBeSet⟩] (2 ^ 63) =
      .ok ⟨[⟨"A", 0, 0, 1, 2 ^ 63⟩, ⟨"B", -1, 1, 3, 2 ^ 63⟩], 3, 2 ^ 63⟩ := rfl
  obtain ⟨hwords, -, -, hgreatest⟩ := indexOf?_exact hlayout [0, 1]
  refine ⟨_, hlayout, ?_, ?_, hgreatest (by decide)⟩
  · rw [hwords]
    rfl
  · rfl

end ShaderCombos.Layout
