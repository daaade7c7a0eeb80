import ShaderCombos.Directive.Filter
import ShaderCombos.Directive.Grammar
import ShaderCombos.Failure

/-!
# Directives and what they declare

The lines of a source are read one by one; each that is a directive and applies declares one thing or
is a fault. The declarations of a source are the things that its lines declare, in order.

* `Directive.ofLine?`: what a line declares.
* `Declarations.ofLines`: what the lines of a source declare, or the first fault.
-/

namespace ShaderCombos

/-- What one directive declares. -/
inductive Directive where
  | combo (kind : ComboKind) (combo : Combo)
  | centroid (slot : Fin 32)
  | skip (rule : String)
  deriving DecidableEq, Repr

namespace Directive

/-- The fault of a line that does not follow the grammar of its keyword. -/
def malformed (kind : Kind) (line : String) : Fault :=
  .malformed kind (Text.trimmed line)

/-- What a directive of the given kind and body declares; the line holds the whole of it. -/
def read (filter : Filter) (kind : Kind) (body : List Char) (line : String) :
    Except Fault Directive :=
  match kind with
  | .combo list =>
    match combo? list line.toList with
    | some c => .ok (.combo list c)
    | none => .error (malformed kind line)
  | .centroid =>
    match centroidSlot? filter.stage line.toList with
    | some slot =>
      if h : slot < 32 then .ok (.centroid ⟨slot, h⟩) else .error (.centroidOutOfRange slot)
    | none => .error (malformed kind line)
  | .skip => .ok (.skip (String.ofList (skipRule filter.stage body)))

/-- What a line declares; nothing if it is no directive or does not apply. -/
def ofLine? (filter : Filter) (line : String) : Except Fault (Option Directive) :=
  match head? line.toList with
  | none => .ok none
  | some (kind, body) =>
    if filter.accepts line.toList then (read filter kind body line).map some else .ok none

end Directive

/-- Everything that the directives of a source declare. -/
structure Declarations where
  static : List Combo := []
  dynamic : List Combo := []
  skipRules : List String := []
  centroid : CentroidMask := {}
  deriving DecidableEq, Repr

namespace Declarations

/-- The declarations with one more directive. -/
def add (d : Declarations) : Directive → Declarations
  | .combo .static c => { d with static := d.static ++ [c] }
  | .combo .dynamic c => { d with dynamic := d.dynamic ++ [c] }
  | .centroid slot => { d with centroid := d.centroid.insert slot }
  | .skip rule => { d with skipRules := d.skipRules ++ [rule] }

/-- The declarations with what one more line declares. -/
def addLine (filter : Directive.Filter) (d : Declarations) (line : String) :
    Except Fault Declarations :=
  (Directive.ofLine? filter line).map fun
    | some directive => d.add directive
    | none => d

/-- What the lines of a source declare, or the first fault among them. -/
def ofLines (filter : Directive.Filter) (ls : List String) : Except Fault Declarations :=
  ls.foldlM (addLine filter) {}

end Declarations

end ShaderCombos
