import ShaderCombos.Failure
import ShaderCombos.Width

/-!
# Packing combos into one index

An assignment of values to a list of combos is packed into a single number. Each combo is a digit of a
mixed-radix numeral: its radix is the cardinality of its range, its scale is the product of the radices
before it times a seed. The dynamic combos start from seed one and the static combos from the
cardinality of the dynamic ones, so that the two indices can be added. Values enter as they are, without
the minimum taken off.

All arithmetic is exact; a layout exists only as long as scales, cardinality and greatest index fit
64 bits.

* `Layout.ofCombos`: the layout of a list of combos, or the first combo that spoils it.
* `Layout.indexOf?`: the index of an assignment.
* `Layout.decode`: the digits of an index.
-/

namespace ShaderCombos

/-- The place of one combo inside a packed index. -/
structure Field where
  name : String
  min : Int32
  max : Int32
  /-- How many values the combo has. -/
  cardinality : Nat
  /-- What the combo's value is multiplied by. -/
  scale : Nat
  deriving DecidableEq, Repr

namespace Field

/-- The width of the bit field that holds the combo's value. -/
def bits (f : Field) : Nat :=
  bitWidth f.cardinality

/-- What a value adds to the index: nothing is defined for values outside the range or below zero. -/
def term? (f : Field) (value : Int32) : Option Nat :=
  if f.min.toInt ≤ value.toInt ∧ value.toInt ≤ f.max.toInt ∧ 0 ≤ value.toInt then
    some (f.scale * value.toInt.toNat)
  else none

/-- The combo's value in an index, as a 32-bit number; a digit that needs the sign bit turns negative. -/
def digit (f : Field) (index : Nat) : Int32 :=
  Int32.ofNat (index / f.scale % f.cardinality)

end Field

/-- The packing of a list of combos. -/
structure Layout where
  fields : List Field
  /-- How many assignments there are. -/
  cardinality : Nat
  /-- The index of the assignment in which every combo has its greatest value. -/
  maxIndex : Nat
  deriving DecidableEq, Repr

namespace Layout

/-- The layout of no combos. -/
def empty : Layout :=
  ⟨[], 1, 0⟩

/-- Adds one combo, whose scale is `scale`. -/
def push (l : Layout) (scale : Nat) (c : Combo) : Except Fault Layout :=
  match c.cardinality? with
  | none => .error (.emptyRange c.name c.min c.max)
  | some count =>
    let next : Layout :=
      { fields := l.fields ++ [⟨c.name, c.min, c.max, count, scale⟩]
        cardinality := l.cardinality * count
        maxIndex := l.maxIndex + scale * c.max.toInt.toNat }
    -- A scale has to fit only once a combo takes it; the one after the last combo may be any size.
    if fits64 scale && fits64 next.maxIndex && fits64 next.cardinality then .ok next
    else .error (.indexOverflow c.name)

/-- Adds combos one after another; the first of them has scale `seed * l.cardinality`. -/
def extend (seed : Nat) (l : Layout) : List Combo → Except Fault Layout
  | [] => .ok l
  | c :: rest => do extend seed (← l.push (seed * l.cardinality) c) rest

/-- The layout of a list of combos whose first scale is `seed`. -/
def ofCombos (combos : List Combo) (seed : Nat) : Except Fault Layout :=
  extend seed empty combos

/-- The scales of the fields, in order. -/
def scales (l : Layout) : List Nat :=
  l.fields.map Field.scale

/-- The sum of the terms of some values, one for each field. -/
def sumTerms : List Field → List Int32 → Option Nat
  | [], [] => some 0
  | f :: fields, v :: values => do
    let term ← f.term? v
    let rest ← sumTerms fields values
    some (term + rest)
  | _, _ => none

/-- The index of an assignment. There is none if the number of values is wrong, a value is out of its
range, or a value is negative. -/
def indexOf? (l : Layout) (values : List Int32) : Option Nat :=
  sumTerms l.fields values

/-- The assignment at an index. A field of scale zero divides nothing, so there is none then. -/
def decode? (l : Layout) (index : Nat) : Option (List Int32) :=
  if l.fields.any (·.scale == 0) then none else some (l.fields.map (·.digit index))

end Layout

end ShaderCombos
