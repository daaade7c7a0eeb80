/-!
# Combos

A combo is a named axis of a shader's configuration that takes the integers of a range. A shader has
two lists of them: static combos are fixed when a material is set up, dynamic ones with every draw
call. The order of a list fixes the order of the generated accessors and of packing.

* `Combo`, `Combo.Init`, `Combo.cardinality?`: a single axis.
* `ComboKind`: which of the two lists.
* `CentroidMask`: the texture coordinates that ask for centroid sampling.
-/

namespace ShaderCombos

/-- How a combo gets its value before the renderer touches it. -/
inductive Combo.Init where
  /-- The field starts at the value of this expression. -/
  | expression (text : String)
  /-- There is no default: the setter has to be called. -/
  | mustBeSet
  deriving DecidableEq, Repr

/-- A named axis that takes the integers from `min` to `max`. A range may be reversed in a source
text; it is refused when the combos are laid out. -/
structure Combo where
  name : String
  min : Int32
  max : Int32
  init : Combo.Init := .mustBeSet
  deriving DecidableEq, Repr

namespace Combo

/-- How many values the range holds; a reversed range has no cardinality. -/
def cardinality? (c : Combo) : Option Nat :=
  let count := c.max.toInt - c.min.toInt + 1
  if 0 < count then some count.toNat else none

theorem cardinality?_eq_none_iff (c : Combo) :
    c.cardinality? = none ↔ c.max.toInt < c.min.toInt := by
  simp only [cardinality?]
  split <;> simp <;> omega

theorem cardinality?_eq_some_iff (c : Combo) (n : Nat) :
    c.cardinality? = some n ↔ c.min.toInt ≤ c.max.toInt ∧ (n : Int) = c.max.toInt - c.min.toInt + 1 := by
  simp only [cardinality?]
  split <;> simp <;> omega

/-- Whether the renderer has to call the setter. -/
def mustBeSet (c : Combo) : Bool :=
  c.init == .mustBeSet

/-- The expression that a fresh index starts from. -/
def initialExpression (c : Combo) : String :=
  match c.init with
  | .expression text => text
  | .mustBeSet => "0"

end Combo

/-- The two lists of combos. -/
inductive ComboKind where
  | static
  | dynamic
  deriving DecidableEq, Repr

namespace ComboKind

/-- The kind as it stands in the names of generated types. -/
def typeName : ComboKind → String
  | .static => "Static"
  | .dynamic => "Dynamic"

/-- The kind as it stands in the names of link symbols. -/
def symbolName : ComboKind → String
  | .static => "static"
  | .dynamic => "dynamic"

/-- The keyword of the kind's directive. -/
def keyword : ComboKind → String
  | .static => "STATIC"
  | .dynamic => "DYNAMIC"

end ComboKind

/-- The texture coordinates, 0 to 31, that ask for centroid sampling: one bit each. -/
structure CentroidMask where
  bits : UInt32 := 0
  deriving DecidableEq, Repr

namespace CentroidMask

/-- The mask with the bit of one more texture coordinate. -/
def insert (m : CentroidMask) (slot : Fin 32) : CentroidMask :=
  ⟨m.bits ||| (1 <<< UInt32.ofNat slot)⟩

end CentroidMask

end ShaderCombos
