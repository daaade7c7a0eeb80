import Mathlib

/-!
# `Proofs.Text.ByteOrder` — texts in the order of their bytes

Texts are compared code point by code point. Their UTF-8 bytes, compared one by one, are in the same order
(`bytes_lt_bytes`). It comes down to two characters at the place where the texts part: the greater one has the
longer encoding or one of the same length. A longer encoding has a greater first byte, and encodings of one
length hold the digits of the code points from the highest on.

## Contents
- **Bytes.** `bytes`, `bytes_eq`.
- **Order.** `utf8EncodeChar_append_lt` for characters with any bytes behind them, `bytes_lt_bytes` for texts.
-/

namespace ShaderCombos.Text

/-! ## Bytes -/

/-- The UTF-8 bytes of a text. -/
def bytes (s : String) : List UInt8 :=
  s.toUTF8.data.toList

/-- The bytes of a text are those of its characters. -/
theorem bytes_eq (s : String) : bytes s = s.toList.flatMap String.utf8EncodeChar := by
  have hencode : s.toUTF8 = s.toList.utf8Encode := String.utf8Encode_toList.symm
  unfold bytes
  rw [hencode]
  exact List.toList_data_toByteArray

/-! ## Order -/

/-- Where the first byte is not greater, the bytes behind it have to decide only if it is the same. -/
theorem cons_lt_cons {a b : Nat} {l m : List UInt8} (hb : b < 256) (hle : a ≤ b) (h : a = b → l < m) :
    UInt8.ofNat a :: l < UInt8.ofNat b :: m := by
  rw [List.cons_lt_cons_iff]
  rcases Nat.lt_or_eq_of_le hle with hlt | rfl
  · left
    rw [UInt8.lt_iff_toNat_lt, UInt8.toNat_ofNat', UInt8.toNat_ofNat']
    omega
  · exact Or.inr ⟨rfl, h rfl⟩

/-- **The lesser character has the lesser bytes**, whatever follows. -/
theorem utf8EncodeChar_append_lt {c d : Char} (h : c < d) (xs ys : List UInt8) :
    String.utf8EncodeChar c ++ xs < String.utf8EncodeChar d ++ ys := by
  have hcode : c.toNat < d.toNat := h
  have hlast : d.toNat < 0x110000 := by
    rcases d.valid with hlow | ⟨-, hhigh⟩
    · exact Nat.lt_trans hlow (by decide)
    · exact hhigh
  simp only [Char.toNat] at hcode hlast
  simp only [String.utf8EncodeChar]
  -- The code point fixes the length of an encoding. The bytes are compared until they cannot be the same.
  split_ifs
  all_goals first
    | exact absurd hcode (by omega)
    | simp only [List.cons_append, List.nil_append]
  all_goals
    repeat
      refine cons_lt_cons (by omega) (by omega) fun _ => ?_
      try exact absurd hcode (by omega)

theorem flatMap_lt_flatMap {l m : List Char} (h : l < m) :
    l.flatMap String.utf8EncodeChar < m.flatMap String.utf8EncodeChar := by
  induction l generalizing m with
  | nil =>
      cases m with
      | nil => exact absurd h (List.not_lt_nil _)
      | cons d m =>
          obtain ⟨first, others, hsome⟩ := List.exists_cons_of_ne_nil (String.utf8EncodeChar_ne_nil (c := d))
          rw [List.flatMap_nil, List.flatMap_cons, hsome]
          exact List.nil_lt_cons _ _
  | cons c l ih =>
      cases m with
      | nil => exact absurd h (List.not_lt_nil _)
      | cons d m =>
          rw [List.flatMap_cons, List.flatMap_cons]
          rcases List.cons_lt_cons_iff.mp h with hlt | ⟨rfl, hrest⟩
          · exact utf8EncodeChar_append_lt hlt _ _
          · exact List.append_left_lt (ih hrest)

/-- **Texts are in the order of their bytes.** -/
theorem bytes_lt_bytes {s t : String} (h : s < t) : bytes s < bytes t := by
  rw [bytes_eq, bytes_eq]
  exact flatMap_lt_flatMap (String.lt_iff_toList_lt.mp h)

end ShaderCombos.Text
