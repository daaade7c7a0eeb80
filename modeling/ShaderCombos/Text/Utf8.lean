/-!
# Reading bytes as text

UTF-8 with replacement: bytes that belong to no character are read as the replacement character, one
for each longest run of bytes that could have begun a character.

* `leadByte?`: how many bytes a lead byte announces and which second bytes it allows.
* `decodeLossy`: the text of any bytes.
-/

namespace ShaderCombos.Text

/-- The character that stands for undecodable bytes. -/
def replacement : Char := '\uFFFD'

/-- What the first byte of a character of several bytes promises. -/
structure LeadByte where
  /-- The bits of the code point that the lead byte holds. -/
  bits : Nat
  /-- How many bytes follow. -/
  following : Nat
  /-- The least second byte. -/
  low : UInt8
  /-- The greatest second byte. -/
  high : UInt8

/-- The promise of a lead byte. The bounds on the second byte shut out overlong forms, surrogates and
code points beyond the last one. -/
def leadByte? (b : UInt8) : Option LeadByte :=
  let n := b.toNat
  if 0xC2 ≤ n ∧ n ≤ 0xDF then some ⟨n - 0xC0, 1, 0x80, 0xBF⟩
  else if n = 0xE0 then some ⟨0, 2, 0xA0, 0xBF⟩
  else if n = 0xED then some ⟨0xD, 2, 0x80, 0x9F⟩
  else if 0xE1 ≤ n ∧ n ≤ 0xEF then some ⟨n - 0xE0, 2, 0x80, 0xBF⟩
  else if n = 0xF0 then some ⟨0, 3, 0x90, 0xBF⟩
  else if 0xF1 ≤ n ∧ n ≤ 0xF3 then some ⟨n - 0xF0, 3, 0x80, 0xBF⟩
  else if n = 0xF4 then some ⟨4, 3, 0x80, 0x8F⟩
  else none

/-- Where the reading of a byte sequence stands: between two characters, or inside one. -/
inductive DecodeState where
  /-- The next byte begins a character. -/
  | start
  /-- `following` bytes of a character are due; the next one lies between `low` and `high`. -/
  | inside (bits following : Nat) (low high : UInt8)

/-- Reads the byte that begins a character: what it yields at once, and what is due after it. -/
def beginChar (b : UInt8) : List Char × DecodeState :=
  if b < 0x80 then ([Char.ofNat b.toNat], .start)
  else match leadByte? b with
    | some lead => ([], .inside lead.bits lead.following lead.low lead.high)
    | none => ([replacement], .start)

/-- Reads one byte. A byte that cannot continue a character ends it with a replacement and begins the
next one. -/
def decodeStep (state : DecodeState) (b : UInt8) : List Char × DecodeState :=
  match state with
  | .start => beginChar b
  | .inside bits following low high =>
    if low ≤ b ∧ b ≤ high then
      let bits := 64 * bits + (b.toNat - 0x80)
      if following ≤ 1 then ([Char.ofNat bits], .start)
      else ([], .inside bits (following - 1) 0x80 0xBF)
    else
      let (out, next) := beginChar b
      (replacement :: out, next)

/-- The text of bytes that are read from a given state on. -/
def decodeFrom : DecodeState → List UInt8 → List Char
  | .start, [] => []
  | .inside .., [] => [replacement]
  | state, b :: rest =>
    let (out, next) := decodeStep state b
    out ++ decodeFrom next rest

/-- The text of any bytes, with replacements where they are not UTF-8. -/
def decodeLossy (bytes : ByteArray) : String :=
  String.ofList (decodeFrom .start bytes.data.toList)

end ShaderCombos.Text
