import ShaderCombos.Proofs.Text.Digits

/-!
# `Proofs.Text.Expression` — what an arithmetic expression evaluates to

Sums and products of numerals and names, with parentheses, are read and evaluated in exact integers. Nothing
here knows which texts are generated: blanks may stand anywhere, a product binds more tightly than a sum, and
parentheses may be nested.

The evaluation goes through the tokens once. It keeps a `Frame` for each parenthesis that is open, the sum of
the products that are finished and the product that is not.

## Contents
- **Tokens.** `Token`, `tokens?`; `tokens?_word`, `tokens?_sign` and `tokens?_blank` read one word, one sign
  and one blank.
- **Values.** `Frame`, `operand?` and `operator?`, `evaluate?`.
-/

namespace ShaderCombos.Text

/-! ## Tokens -/

/-- A word or a sign of an expression. -/
inductive Token where
  | number (n : Nat)
  | name (text : String)
  | plus
  | times
  | opening
  | closing
  deriving DecidableEq, Repr

/-- Whether a character can stand in a name: an ASCII letter, an ASCII digit or an underscore. -/
def isNameChar (c : Char) : Bool :=
  c.isAlphanum || c == '_'

/-- The token of a word. A word that begins with a digit has to be a numeral; no word is no token. -/
def wordTokens? : List Char → Option (List Token)
  | [] => some []
  | c :: rest =>
    if c.isDigit then (readDecimal? (c :: rest)).map fun n => [.number n]
    else some [.name (String.ofList (c :: rest))]

/-- The token of a sign. A blank is none. -/
def signTokens? : Char → Option (List Token)
  | ' ' => some []
  | '+' => some [.plus]
  | '*' => some [.times]
  | '(' => some [.opening]
  | ')' => some [.closing]
  | _ => none

/-- The tokens of a text behind the characters of a word that has not ended yet. -/
def tokensFrom? (word : List Char) : List Char → Option (List Token)
  | [] => wordTokens? word
  | c :: rest =>
    if isNameChar c then tokensFrom? (word ++ [c]) rest
    else do
      let front ← wordTokens? word
      let sign ← signTokens? c
      let more ← tokensFrom? [] rest
      some (front ++ sign ++ more)

/-- The tokens of a text. -/
def tokens? (text : List Char) : Option (List Token) :=
  tokensFrom? [] text

variable {word rest : List Char} {front sign more : List Token} {token : Token} {c : Char}

/-- **A word** is read to its end. -/
theorem tokensFrom?_append (hword : ∀ c ∈ word, isNameChar c = true) (begun rest : List Char) :
    tokensFrom? begun (word ++ rest) = tokensFrom? (begun ++ word) rest := by
  induction word generalizing begun with
  | nil => rw [List.nil_append, List.append_nil]
  | cons c word ih =>
      have hc : isNameChar c = true := hword c List.mem_cons_self
      rw [List.cons_append, tokensFrom?, if_pos hc, ih fun d hd => hword d (List.mem_cons_of_mem c hd),
        List.append_assoc, List.singleton_append]

/-- **A sign** ends the word in front of it. -/
theorem tokensFrom?_cons (hc : isNameChar c = false) (hfront : wordTokens? word = some front)
    (hsign : signTokens? c = some sign) (hmore : tokens? rest = some more) :
    tokensFrom? word (c :: rest) = some (front ++ sign ++ more) := by
  unfold tokens? at hmore
  rw [tokensFrom?, if_neg (by simp [hc]), hfront, hsign, hmore]
  rfl

/-- A blank between words and signs is no token. -/
theorem tokens?_blank (hmore : tokens? rest = some more) : tokens? (' ' :: rest) = some more := by
  have hnone : wordTokens? [] = some [] := rfl
  have hblank : signTokens? ' ' = some [] := rfl
  exact tokensFrom?_cons rfl hnone hblank hmore

/-- A sign without a word in front of it is its token. -/
theorem tokens?_sign (hc : isNameChar c = false) (hsign : signTokens? c = some [token])
    (hmore : tokens? rest = some more) : tokens? (c :: rest) = some (token :: more) := by
  have hnone : wordTokens? [] = some [] := rfl
  exact tokensFrom?_cons hc hnone hsign hmore

/-- A word with a blank behind it is its token. -/
theorem tokens?_word (hword : ∀ c ∈ word, isNameChar c = true) (hfront : wordTokens? word = some [token])
    (hmore : tokens? rest = some more) : tokens? (word ++ ' ' :: rest) = some (token :: more) := by
  have hblank : signTokens? ' ' = some [] := rfl
  unfold tokens?
  rw [tokensFrom?_append hword, List.nil_append]
  exact tokensFrom?_cons rfl hfront hblank hmore

theorem isNameChar_of_isDigit (h : c.isDigit = true) : isNameChar c = true := by
  unfold isNameChar Char.isAlphanum
  rw [h, Bool.or_true, Bool.true_or]

/-- The digits of a number are one token. -/
theorem wordTokens?_toDigits (n : Nat) : wordTokens? (Nat.toDigits 10 n) = some [.number n] := by
  have hread := readDecimal?_toDigits n
  have hdigits : ∀ c ∈ Nat.toDigits 10 n, c.isDigit = true := fun c hc => isDigit_of_mem_toDigits hc
  cases hn : Nat.toDigits 10 n with
  | nil => exact absurd hn Nat.toDigits_ne_nil
  | cons c digits =>
      rw [hn] at hread hdigits
      rw [wordTokens?, if_pos (hdigits c List.mem_cons_self), hread]
      rfl

/-! ## Values -/

/-- What has been evaluated since a parenthesis was opened: the sum of the finished products, and the product
that goes on. -/
structure Frame where
  sum : Int
  product : Int

namespace Frame

/-- Nothing yet. -/
def start : Frame :=
  ⟨0, 1⟩

/-- One more factor. -/
def times (f : Frame) (n : Int) : Frame :=
  { f with product := f.product * n }

/-- The value of everything so far. -/
def total (f : Frame) : Int :=
  f.sum + f.product

/-- A new product, which is to be added. -/
def plus (f : Frame) : Frame :=
  ⟨f.total, 1⟩

end Frame

mutual

/-- Goes on with the tokens where a numeral, a name or a parenthesis has to come. The frames of the
parentheses around are `outer`, the innermost first. -/
def operand? (value? : String → Option Int) (f : Frame) (outer : List Frame) : List Token → Option Int
  | .number n :: rest => operator? value? (f.times n) outer rest
  | .name text :: rest => (value? text).bind fun n => operator? value? (f.times n) outer rest
  | .opening :: rest => operand? value? Frame.start (f :: outer) rest
  | _ => none

/-- Goes on with the tokens where an operand has just ended. -/
def operator? (value? : String → Option Int) (f : Frame) (outer : List Frame) : List Token → Option Int
  | [] => if outer.isEmpty then some f.total else none
  | .plus :: rest => operand? value? f.plus outer rest
  | .times :: rest => operand? value? f outer rest
  | .closing :: rest =>
    match outer with
    | g :: outer => operator? value? (g.times f.total) outer rest
    | [] => none
  | _ => none

end

/-- The value of an expression, where `value?` tells the values of names. -/
def evaluate? (value? : String → Option Int) (text : List Char) : Option Int := do
  let tokens ← tokens? text
  operand? value? Frame.start [] tokens

-- The product in the parentheses comes first, whatever the blanks.
example : evaluate? (fun name => if name = "x" then some 7 else none) "2*(1+3 * x ) + 5".toList = some 49 := by
  decide

end ShaderCombos.Text
