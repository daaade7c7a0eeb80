import ShaderCombos.Text.Ranges
import ShaderCombos.Text.CaseTable

/-!
# Letter case

Lower and upper case of whole texts by the Unicode default mappings, and the two weaker relations
that patterns need.

* `lowercase`: every letter on its own, but for the capital sigma, which becomes a final sigma at the
  end of a word.
* `uppercase`: every letter on its own; some letters become several.
* `asciiLowercase`: only the letters A to Z change.
* `isLetter`: equality with an ASCII letter up to simple case folding.
-/

namespace ShaderCombos.Text

/-! ## Single characters -/

/-- The first image that some run gives for `n`. -/
def lookupRuns (runs : List CaseRun) (n : Nat) : Option Nat :=
  runs.findSome? (·.lookup n)

/-- The lower case of one character without regard to its neighbours. The capital I with a dot keeps
its dot as a combining mark. -/
def lowerChar (c : Char) : List Char :=
  if c = 'İ' then ['i', '\u0307']
  else [Char.ofNat ((lookupRuns lowerRuns c.toNat).getD c.toNat)]

/-- The upper case of one character. -/
def upperChar (c : Char) : List Char :=
  match upperExpansions.lookup c.toNat with
  | some several => several.map Char.ofNat
  | none => [Char.ofNat ((lookupRuns upperRuns c.toNat).getD c.toNat)]

/-- Whether a character is a letter with case. -/
def isCased (c : Char) : Bool :=
  inRanges casedRanges c.toNat

/-- Whether a character is passed over when the end of a word is looked for. -/
def isCaseIgnorable (c : Char) : Bool :=
  inRanges caseIgnorableRanges c.toNat

/-! ## Whole texts -/

/-- Whether a cased letter comes first, once the characters that case ignores are passed over. -/
def leadsToCased (s : List Char) : Bool :=
  match s.dropWhile isCaseIgnorable with
  | [] => false
  | c :: _ => isCased c

/-- The lower case of a text that follows `before`, whose last character comes first. -/
def lowerFrom (before : List Char) : List Char → List Char
  | [] => []
  | c :: rest =>
    let image :=
      if c = 'Σ' then
        if leadsToCased before && !leadsToCased rest then ['ς'] else ['σ']
      else lowerChar c
    image ++ lowerFrom (c :: before) rest

/-- The lower case of a text. -/
def lowercase (s : List Char) : List Char :=
  lowerFrom [] s

/-- The upper case of a text. -/
def uppercase (s : List Char) : List Char :=
  s.flatMap upperChar

/-- A text with the letters A to Z in lower case and all else unchanged. -/
def asciiLowercase (s : List Char) : List Char :=
  s.map Char.toLower

/-! ## Letters in patterns -/

/-- Whether `c` is the given lower-case ASCII letter in either case, or one of the two characters
that case folding takes to an ASCII letter: the long s and the kelvin sign. -/
def isLetter (letter c : Char) : Bool :=
  c == letter || c == letter.toUpper || (letter == 's' && c == 'ſ') || (letter == 'k' && c == '\u212A')

end ShaderCombos.Text
