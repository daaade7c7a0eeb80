import ShaderCombos.Text.Ranges
import ShaderCombos.Text.HiddenTable

/-!
# Quoted text

A text in double quotes that shows every character: what does not show by itself is written as an
escape. Messages quote the output of a helper program in this way.

* `isHidden`: the characters that need an escape by code point.
* `quoted`: the quoted form.
-/

namespace ShaderCombos.Text

/-- Whether a character does not show by itself: a control, a format character, a separator other
than the plain space, an unassigned or private code point, or a mark on the character before it. -/
def isHidden (c : Char) : Bool :=
  c != ' ' && inRanges hiddenRanges c.toNat

/-- One character inside quotes. -/
def quotedChar (c : Char) : List Char :=
  match c with
  | '\x00' => ['\\', '0']
  | '\t' => ['\\', 't']
  | '\n' => ['\\', 'n']
  | '\r' => ['\\', 'r']
  | '"' => ['\\', '"']
  | '\\' => ['\\', '\\']
  | _ =>
    if isHidden c then ['\\', 'u', '{'] ++ Nat.toDigits 16 c.toNat ++ ['}'] else [c]

/-- A text in double quotes, with escapes for what does not show. -/
def quoted (s : List Char) : List Char :=
  '"' :: s.flatMap quotedChar ++ ['"']

end ShaderCombos.Text
