/-!
# Marks in a text

A text can hold marks, such as a version in brackets, between ordinary characters. Reading from the
left, a mark is taken as soon as one begins, and the reading goes on behind it.

* `Mark`: recognises a mark at the front of a text.
* `pieces`: a text as its marks and the characters between them.
* `marks`, `hasMark`, `replaceMarks`, `beforeMark`: what is asked of a text with marks.
* `dropLiteral?`: the text behind a fixed beginning.
-/

namespace ShaderCombos.Text

/-- The text behind a fixed beginning. -/
def dropLiteral? (literal : String) (s : List Char) : Option (List Char) :=
  literal.toList.isPrefixOf? s

/-- Recognises a mark at the front of a text: what the mark says and how many characters it has. -/
abbrev Mark (α : Type) := List Char → Option (α × Nat)

/-- A part of a text: a mark or one of the other characters. -/
inductive Piece (α : Type) where
  | mark (meaning : α)
  | plain (c : Char)

/-- What a piece says if it is a mark. -/
def Piece.mark? {α : Type} : Piece α → Option α
  | .mark meaning => some meaning
  | .plain _ => none

/-- Whether a piece is a character outside all marks. -/
def Piece.isPlain {α : Type} : Piece α → Bool
  | .mark _ => false
  | .plain _ => true

/-- The pieces of a text whose first `skip` characters belong to a mark that has been taken. -/
def piecesFrom {α : Type} (mark : Mark α) : Nat → List Char → List (Piece α)
  | _, [] => []
  | skip + 1, _ :: rest => piecesFrom mark skip rest
  | 0, c :: rest =>
    match mark (c :: rest) with
    | some (meaning, length) => .mark meaning :: piecesFrom mark (length - 1) rest
    | none => .plain c :: piecesFrom mark 0 rest

/-- The pieces of a text. -/
def pieces {α : Type} (mark : Mark α) (s : List Char) : List (Piece α) :=
  piecesFrom mark 0 s

/-- What the marks of a text say, in order. -/
def marks {α : Type} (mark : Mark α) (s : List Char) : List α :=
  (pieces mark s).filterMap Piece.mark?

/-- Whether a text holds a mark. -/
def hasMark {α : Type} (mark : Mark α) (s : List Char) : Bool :=
  !(marks mark s).isEmpty

/-- A text with every mark replaced. -/
def replaceMarks {α : Type} (mark : Mark α) (replacement s : List Char) : List Char :=
  (pieces mark s).flatMap fun
    | .mark _ => replacement
    | .plain c => [c]

/-- A text up to its first mark. -/
def beforeMark {α : Type} (mark : Mark α) (s : List Char) : List Char :=
  ((pieces mark s).takeWhile Piece.isPlain).flatMap fun
    | .mark _ => []
    | .plain c => [c]

/-- The mark that is a fixed text. -/
def literalMark (literal : String) : Mark Unit := fun s =>
  (dropLiteral? literal s).map fun _ => ((), literal.length)

end ShaderCombos.Text
