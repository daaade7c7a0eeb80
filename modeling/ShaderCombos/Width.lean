/-!
# Widths

How many bits numbers take. Sizes of machine words are written out, so that they are plain numerals.

* `bitWidth`: how many bits a bit field needs, which is never none.
* `fits32`, `fits64`, `fitsSigned32`: whether a number can be stored in a word.
-/

namespace ShaderCombos

/-- The least number of bits, at least one, in which `count` values can be told apart. -/
def bitWidth (count : Nat) : Nat :=
  if count ≤ 2 then 1 else (count - 1).log2 + 1

theorem one_le_bitWidth (count : Nat) : 1 ≤ bitWidth count := by
  simp only [bitWidth]
  split <;> omega

/-- Whether a number can be stored in 32 bits. -/
def fits32 (n : Nat) : Bool :=
  n < 0x100000000

/-- Whether a number can be stored in 64 bits. -/
def fits64 (n : Nat) : Bool :=
  n < 0x10000000000000000

/-- Whether a number can be stored in 32 bits with a sign. -/
def fitsSigned32 (n : Int) : Bool :=
  -0x80000000 ≤ n && n < 0x80000000

end ShaderCombos
