import ShaderCombos.Combo

/-!
# The kinds of directive

A directive is a comment that begins with one of four keywords.
-/

namespace ShaderCombos

/-- What a directive declares. -/
inductive Directive.Kind where
  /-- A combo of one of the two lists. -/
  | combo (kind : ComboKind)
  /-- A texture coordinate that is sampled at the centroid. -/
  | centroid
  /-- A predicate for combinations that are not compiled. -/
  | skip
  deriving DecidableEq, Repr

namespace Directive.Kind

/-- The keyword of the kind. -/
def keyword : Kind → String
  | .combo kind => kind.keyword
  | .centroid => "CENTROID"
  | .skip => "SKIP"

/-- All kinds, in the order in which their keywords are tried. -/
def all : List Kind :=
  [.combo .static, .combo .dynamic, .skip, .centroid]

end Directive.Kind

end ShaderCombos
