import Mathlib
import ShaderCombos.Width

/-!
# `Proofs.Width` — the least width that tells values apart

`bitWidth` takes a logarithm of the count less one, and treats counts up to two apart. What it is for is said in
one statement: among widths of at least one bit, the ones from `bitWidth count` on are those in which `count`
values can be told apart (`bitWidth_le_iff`). That the width is the least such and that it grows with the count
follow from this alone, and nothing behind it opens the definition again.

In a word of 64 bits the logarithm is what the leading zeros leave of the word. Two to the width does not fit the
word if the width is 64, so powers are those of unbounded numbers, here as in the statement.

## Contents
- **Enough bits.** `bitWidth_le_iff`, with `isLeast_bitWidth` and `bitWidth_monotone`; `bitWidth_eq_succ` between
  two powers.
- **Words.** `bitWidth_toNat`: the width of a word's number by its leading zeros.
-/

namespace ShaderCombos

variable {count w : Nat}

/-! ## Enough bits -/

/-- **Enough bits.** A width of at least one bit is enough exactly if two to it is not below the count. -/
theorem bitWidth_le_iff (hw : 1 ≤ w) : bitWidth count ≤ w ↔ count ≤ 2 ^ w := by
  unfold bitWidth
  by_cases hsmall : count ≤ 2
  · rw [if_pos hsmall]
    have htwo : 2 ^ 1 ≤ 2 ^ w := Nat.pow_le_pow_right Nat.two_pos hw
    exact ⟨fun _ => hsmall.trans htwo, fun _ => hw⟩
  · have hne : count - 1 ≠ 0 := by omega
    rw [if_neg hsmall, Nat.add_one_le_iff, Nat.log2_lt hne]
    omega

/-- The width of a field has room for as many values as the combo has. -/
theorem le_two_pow_bitWidth (count : Nat) : count ≤ 2 ^ bitWidth count :=
  (bitWidth_le_iff (one_le_bitWidth count)).mp (le_refl _)

/-- **The width is the least** with at least one bit and enough of them. -/
theorem isLeast_bitWidth (count : Nat) : IsLeast {w | 1 ≤ w ∧ count ≤ 2 ^ w} (bitWidth count) := by
  refine ⟨⟨one_le_bitWidth count, le_two_pow_bitWidth count⟩, ?_⟩
  rintro w ⟨hw, hcount⟩
  exact (bitWidth_le_iff hw).mpr hcount

/-- More values take no fewer bits. -/
theorem bitWidth_monotone : Monotone bitWidth := by
  intro count more hle
  rw [bitWidth_le_iff (one_le_bitWidth more)]
  exact hle.trans (le_two_pow_bitWidth more)

/-- Between a power of two and the next, the width is the exponent of the next. -/
theorem bitWidth_eq_succ (hlow : 2 ^ w < count) (hhigh : count ≤ 2 ^ (w + 1)) : bitWidth count = w + 1 := by
  have hle : bitWidth count ≤ w + 1 := (bitWidth_le_iff (Nat.le_add_left 1 w)).mpr hhigh
  have hlt : w < bitWidth count := by
    by_contra hnot
    have hw : bitWidth count ≤ w := Nat.le_of_not_lt hnot
    have hcount : count ≤ 2 ^ w := (bitWidth_le_iff ((one_le_bitWidth count).trans hw)).mp hw
    omega
  omega

/-! ## Words -/

/-- The width for one value more than a word's number is what the leading zeros leave of the word. -/
theorem bitWidth_toNat_add_one {size : Nat} {x : BitVec size} (hsize : 0 < size) (hx : x.toNat ≠ 0) :
    bitWidth (x.toNat + 1) = size - x.clz.toNat := by
  have hne : x ≠ BitVec.ofNat size 0 := by
    rintro rfl
    exact hx BitVec.toNat_zero
  have hlow : 2 ^ (size - 1 - x.clz.toNat) ≤ x.toNat := BitVec.two_pow_sub_clz_le_toNat_of_ne_zero hsize hne
  have hhigh : x.toNat < 2 ^ (size - x.clz.toNat) := BitVec.toNat_lt_two_pow_sub_clz
  -- A word of leading zeros only is zero.
  have hzeros : x.clz.toNat < size := by
    by_contra hall
    rw [Nat.sub_eq_zero_of_le (Nat.le_of_not_lt hall), Nat.pow_zero, Nat.lt_one_iff] at hhigh
    exact hx hhigh
  have hsucc : size - x.clz.toNat = size - 1 - x.clz.toNat + 1 := by omega
  rw [hsucc] at hhigh ⊢
  exact bitWidth_eq_succ (Nat.lt_succ_of_le hlow) hhigh

/-- **The width by leading zeros.** For a count of 64 bits that is above two, the width is what the leading zeros of
    the number below it leave of the word. -/
theorem bitWidth_toNat (count : UInt64) :
    bitWidth count.toNat = if count ≤ 2 then 1 else 64 - (count - 1).toBitVec.clz.toNat := by
  have hiff : count ≤ 2 ↔ count.toNat ≤ 2 := UInt64.le_iff_toNat_le
  by_cases hsmall : count ≤ 2
  · rw [if_pos hsmall]
    unfold bitWidth
    rw [if_pos (hiff.mp hsmall)]
  · have hcount : 2 < count.toNat := Nat.lt_of_not_le (mt hiff.mpr hsmall)
    have hone : (1 : UInt64) ≤ count := UInt64.le_iff_toNat_le.mpr (Nat.one_le_of_lt hcount)
    have hbelow : (count - 1).toBitVec.toNat = count.toNat - 1 := UInt64.toNat_sub_of_le count 1 hone
    have hne : (count - 1).toBitVec.toNat ≠ 0 := by omega
    have hwidth := bitWidth_toNat_add_one (by decide) hne
    rw [hbelow, Nat.sub_add_cancel (Nat.one_le_of_lt hcount)] at hwidth
    rw [if_neg hsmall, hwidth]

end ShaderCombos
