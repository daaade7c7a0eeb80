import ShaderCombos.Text.Digit

/-!
# `Proofs.Text.Digits` — numerals that are read back

A number is written in decimal digits without zeros in front, and reading the digits gives the number.

## Contents
- **Decimal digits.** `decimalFrom_eq_some`, `readDecimal?_toDigits`, `isDigit_of_mem_toDigits`.
- **Zeros in front.** `eq_zero_of_head?_toDigits`.
-/

namespace ShaderCombos.Text

/-! ## Decimal digits -/

theorem decimalFrom_eq_some {digits : List Char} (h : ∀ c ∈ digits, c.isDigit = true) (value : Nat) :
    decimalFrom value digits = some (Nat.ofDigitChars 10 digits value) := by
  induction digits generalizing value with
  | nil => rfl
  | cons c digits ih =>
      have hc : c.isDigit = true := h c List.mem_cons_self
      unfold decimalFrom
      rw [hc, if_pos rfl, ih (fun d hd => h d (List.mem_cons_of_mem c hd)), Nat.ofDigitChars_cons]

theorem isDigit_of_mem_toDigits {n : Nat} {c : Char} (h : c ∈ Nat.toDigits 10 n) : c.isDigit = true :=
  Nat.isDigit_of_mem_toDigits (by decide) (by decide) h

/-- **A number is read back from its digits.** -/
theorem readDecimal?_toDigits (n : Nat) : readDecimal? (Nat.toDigits 10 n) = some n := by
  have hsome : (Nat.toDigits 10 n).isEmpty = false := List.isEmpty_eq_false_iff.mpr Nat.toDigits_ne_nil
  unfold readDecimal?
  rw [hsome, decimalFrom_eq_some fun c hc => isDigit_of_mem_toDigits hc, Nat.ofDigitChars_ten_toDigits]
  rfl

/-! ## Zeros in front -/

/-- Only the digits of zero begin with a zero. By induction on the number, digit by digit from the end. -/
theorem eq_zero_of_head?_toDigits (n : Nat) (h : (Nat.toDigits 10 n).head? = some '0') : n = 0 := by
  induction n using Nat.strongRecOn with
  | ind n ih =>
      by_cases hsmall : n < 10
      · rw [Nat.toDigits_of_lt_base hsmall, List.head?_cons, Option.some.injEq] at h
        have hdigits : ∀ d < 10, Nat.digitChar d = '0' → d = 0 := by decide
        exact hdigits n hsmall h
      · obtain ⟨c, front, hfront⟩ :=
          List.exists_cons_of_ne_nil (Nat.toDigits_ne_nil (n := n / 10) (b := 10))
        rw [Nat.toDigits_of_base_le (by decide) (Nat.le_of_not_lt hsmall), hfront] at h
        have hzero : n / 10 = 0 := ih (n / 10) (by omega) (by rw [hfront]; exact h)
        omega

end ShaderCombos.Text
