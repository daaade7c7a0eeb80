/-!
# The 32-bit xxHash

A hash for content, not for secrets. Bytes are taken in little-endian words. Four lanes take one word
each of every block of sixteen bytes; the bytes that fill no block are mixed in afterwards.

* `XxHash32.hash`: the hash of a byte sequence under a seed.
-/

namespace ShaderCombos.XxHash32

/-! ## Constants and bit operations -/

/-- The first multiplier. -/
def prime1 : UInt32 := 2654435761

/-- The second multiplier. -/
def prime2 : UInt32 := 2246822519

/-- The third multiplier. -/
def prime3 : UInt32 := 3266489917

/-- The fourth multiplier. -/
def prime4 : UInt32 := 668265263

/-- The fifth multiplier. -/
def prime5 : UInt32 := 374761393

/-- The bits of a word moved left, with those that drop out coming in at the right. -/
def rotateLeft (w : UInt32) (count : UInt32) : UInt32 :=
  (w <<< count) ||| (w >>> (32 - count))

/-- The word of four bytes, the least significant first. -/
def littleEndian (a b c d : UInt8) : UInt32 :=
  a.toUInt32 ||| (b.toUInt32 <<< 8) ||| (c.toUInt32 <<< 16) ||| (d.toUInt32 <<< 24)

/-! ## Lanes and blocks -/

/-- The states of the four lanes. -/
structure Lanes where
  a : UInt32
  b : UInt32
  c : UInt32
  d : UInt32

/-- The lanes before any word. -/
def Lanes.start (seed : UInt32) : Lanes :=
  ⟨seed + prime1 + prime2, seed + prime2, seed, seed - prime1⟩

/-- A lane after one more word. -/
def mixLane (lane word : UInt32) : UInt32 :=
  rotateLeft (lane + word * prime2) 13 * prime1

/-- The lanes after all blocks of sixteen bytes, four for each lane, and the bytes that fill no block. -/
def mixBlocks (l : Lanes) : List UInt8 → Lanes × List UInt8
  | a₀ :: a₁ :: a₂ :: a₃ :: b₀ :: b₁ :: b₂ :: b₃ :: c₀ :: c₁ :: c₂ :: c₃ :: d₀ :: d₁ :: d₂ :: d₃ :: rest =>
    mixBlocks
      { a := mixLane l.a (littleEndian a₀ a₁ a₂ a₃)
        b := mixLane l.b (littleEndian b₀ b₁ b₂ b₃)
        c := mixLane l.c (littleEndian c₀ c₁ c₂ c₃)
        d := mixLane l.d (littleEndian d₀ d₁ d₂ d₃) } rest
  | left => (l, left)

/-- The four lanes as one word. -/
def Lanes.merge (l : Lanes) : UInt32 :=
  rotateLeft l.a 1 + rotateLeft l.b 7 + rotateLeft l.c 12 + rotateLeft l.d 18

/-! ## The hash -/

/-- Mixes in a word that no lane took. -/
def mixWord (h word : UInt32) : UInt32 :=
  rotateLeft (h + word * prime3) 17 * prime4

/-- Mixes in a byte that fills no word. -/
def mixByte (h : UInt32) (byte : UInt8) : UInt32 :=
  rotateLeft (h + byte.toUInt32 * prime5) 11 * prime1

/-- Mixes in the bytes that fill no block: word by word, and then byte by byte. -/
def mixRest (h : UInt32) : List UInt8 → UInt32
  | a :: b :: c :: d :: rest => mixRest (mixWord h (littleEndian a b c d)) rest
  | left => left.foldl mixByte h

/-- Lets every bit take part in every other. -/
def finish (h : UInt32) : UInt32 :=
  let h := (h ^^^ (h >>> 15)) * prime2
  let h := (h ^^^ (h >>> 13)) * prime3
  h ^^^ (h >>> 16)

/-- The hash of a byte sequence. -/
def hash (bytes : List UInt8) (seed : UInt32) : UInt32 :=
  let (lanes, left) := mixBlocks (.start seed) bytes
  let h := if bytes.length < 16 then seed + prime5 else lanes.merge
  finish (mixRest (h + UInt32.ofNat bytes.length) left)

end ShaderCombos.XxHash32
