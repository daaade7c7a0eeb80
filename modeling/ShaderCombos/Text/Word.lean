import ShaderCombos.Text.Ranges
import ShaderCombos.Text.WordTable

/-!
# Word characters

A version token ends in at most one word character, such as the `b` of `20b`.
-/

namespace ShaderCombos.Text

/-- Whether a character may stand in a word: letters, marks, decimal digits, connecting punctuation
and joiners. -/
def isWord (c : Char) : Bool :=
  inRanges wordRanges c.toNat

end ShaderCombos.Text
