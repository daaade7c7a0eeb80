/-!
# Digits

* `isDigit`: the Unicode decimal digits, which the directive patterns accept between quotes and
  brackets.
* `readDecimal?`: the value of a numeral. Only the ASCII digits have a value here, so a pattern may
  accept a numeral that cannot be read.
* `readHex?`: the value of hexadecimal digits, which escapes spell characters with.
-/

namespace ShaderCombos.Text

/-- The zeros of all scripts that have decimal digits; each is followed by its nine companions. -/
def decimalZeros : List Nat := [
  0x30, 0x660, 0x6F0, 0x7C0, 0x966, 0x9E6, 0xA66, 0xAE6, 0xB66, 0xBE6, 0xC66, 0xCE6, 0xD66, 0xDE6,
  0xE50, 0xED0, 0xF20, 0x1040, 0x1090, 0x17E0, 0x1810, 0x1946, 0x19D0, 0x1A80, 0x1A90, 0x1B50,
  0x1BB0, 0x1C40, 0x1C50, 0xA620, 0xA8D0, 0xA900, 0xA9D0, 0xA9F0, 0xAA50, 0xABF0, 0xFF10, 0x104A0,
  0x10D30, 0x10D40, 0x11066, 0x110F0, 0x11136, 0x111D0, 0x112F0, 0x11450, 0x114D0, 0x11650,
  0x116C0, 0x116D0, 0x116DA, 0x11730, 0x118E0, 0x11950, 0x11BF0, 0x11C50, 0x11D50, 0x11DA0,
  0x11DE0, 0x11F50, 0x16130, 0x16A60, 0x16AC0, 0x16B50, 0x16D70, 0x1CCF0, 0x1D7CE, 0x1D7D8,
  0x1D7E2, 0x1D7EC, 0x1D7F6, 0x1E140, 0x1E2F0, 0x1E4F0, 0x1E5F1, 0x1E950, 0x1FBF0]

/-- Whether a character is a decimal digit of any script. -/
def isDigit (c : Char) : Bool :=
  decimalZeros.any fun nought => nought ≤ c.toNat && c.toNat ≤ nought + 9

/-- An ASCII digit is a decimal digit. -/
theorem isDigit_of_ascii {c : Char} (h : c.isDigit = true) : isDigit c = true := by
  simp only [Char.isDigit, Bool.and_eq_true, decide_eq_true_eq] at h
  have low : 48 ≤ c.toNat := h.1
  have high : c.toNat ≤ 57 := h.2
  simp only [isDigit, decimalZeros, List.any_cons, Bool.or_eq_true]
  exact Or.inl (by simp; omega)

/-- The value of a run of ASCII digits, continued from `value`. -/
def decimalFrom (value : Nat) : List Char → Option Nat
  | [] => some value
  | c :: rest =>
    if c.isDigit then decimalFrom (10 * value + (c.toNat - '0'.toNat)) rest else none

/-- The value of a numeral in ASCII digits; leading zeros are allowed, an empty text is no numeral. -/
def readDecimal? (s : List Char) : Option Nat :=
  if s.isEmpty then none else decimalFrom 0 s

/-- The value of a hexadecimal digit in either case. -/
def readHexDigit? (c : Char) : Option Nat :=
  if c.isDigit then some (c.toNat - '0'.toNat)
  else if 'a' ≤ c ∧ c ≤ 'f' then some (c.toNat - 'a'.toNat + 10)
  else if 'A' ≤ c ∧ c ≤ 'F' then some (c.toNat - 'A'.toNat + 10)
  else none

/-- The value of hexadecimal digits. -/
def readHex? (digits : List Char) : Option Nat :=
  digits.foldlM (fun value c => (readHexDigit? c).map (16 * value + ·)) 0

end ShaderCombos.Text
