import Mathlib
import ShaderCombos.Proofs.Directive.Gathered
import ShaderCombos.Proofs.IndexClass.Kept

/-!
# `Proofs.IndexClass.Names` — the names of combos and of the members that are named after them

Nothing in this development looks at the names of combos: every directive that counts adds its combo, also if the
list has one of that name already. So the names of a list are exactly those that the lines declare, in order, and
two of them are the same exactly if two lines declare the same one. The members of a generated class are named
after its combos, so two combos of one name make a class that has a field and a setter twice.

## Contents
- **Names by line.** `Declares`, `DeclaresOnce`, and `map_name_combos`: the names of a list are those that
  the lines declare, in order.
- **Members of a class.** `fieldNames`, `setterHeads`, distinct exactly if the names of the combos are.
-/

namespace ShaderCombos

open Directive

/-! ## Names by line -/

namespace Declarations

variable {f : Filter} {lines : List String} {list : ComboKind} {found : Declarations}

/-- The line adds a combo of the given name to one of the lists. -/
def Declares (f : Filter) (list : ComboKind) (name line : String) : Prop :=
  ∃ c : Combo, ofLine? f line = .ok (some (.combo list c)) ∧ c.name = name

/-- **No two lines add combos of one name** to one of the lists. -/
def DeclaresOnce (f : Filter) (list : ComboKind) (lines : List String) : Prop :=
  lines.Pairwise fun a b => ∀ name, Declares f list name a → ¬ Declares f list name b

/-- The name that a line adds to one of the lists. -/
def declaredName? (f : Filter) (list : ComboKind) (line : String) : Option String :=
  match ofLine? f line with
  | .ok outcome => (outcome.bind (asCombo? list)).map Combo.name
  | .error _ => none

theorem declaredName?_of_ok {line : String} {outcome : Option Directive}
    (h : ofLine? f line = .ok outcome) :
    declaredName? f list line = (outcome.bind (asCombo? list)).map Combo.name := by
  unfold declaredName?
  rw [h]

theorem declaredName?_eq_some {line name : String} :
    declaredName? f list line = some name ↔ Declares f list name line := by
  unfold Declares
  cases hline : ofLine? f line with
  | error fault =>
      unfold declaredName?
      rw [hline]
      constructor
      · rintro ⟨⟩
      · rintro ⟨c, ⟨⟩, -⟩
  | ok outcome =>
      rw [declaredName?_of_ok hline]
      simp only [Option.map_eq_some_iff, Option.bind_eq_some_iff, asCombo?_eq_some, Except.ok.injEq]
      constructor
      · rintro ⟨c, ⟨directive, houtcome, rfl⟩, hname⟩
        exact ⟨c, houtcome, hname⟩
      · rintro ⟨c, houtcome, hname⟩
        exact ⟨c, ⟨_, houtcome, rfl⟩, hname⟩

/-- **The names of a list** are those that the lines declare, in order and as often as they declare them. -/
theorem map_name_combos (h : ofLines f lines = .ok found) (list : ComboKind) :
    (found.combos list).map Combo.name = lines.filterMap (declaredName? f list) := by
  obtain ⟨outcomes, hread, rfl⟩ := ofLines_eq_ok.mp h
  rw [(gathers_foldl_add _).combos]
  clear h
  induction hread with
  | nil => rfl
  | @cons line outcome rest outcomes hline _ ih =>
      rw [List.flatMap_cons, List.filterMap_append, List.map_append, ih, List.filterMap_cons,
        declaredName?_of_ok hline]
      cases outcome with
      | none => rfl
      | some directive =>
          rw [Option.bind_some]
          cases hcombo : directive.asCombo? list with
          | none => rw [Option.toList_some, List.filterMap_cons_none hcombo]; rfl
          | some c => rw [Option.toList_some, List.filterMap_cons_some hcombo]; rfl

/-- **Distinct names of a list**: no two lines declare the same one. -/
theorem nodup_map_name_iff (h : ofLines f lines = .ok found) (list : ComboKind) :
    ((found.combos list).map Combo.name).Nodup ↔ DeclaresOnce f list lines := by
  rw [map_name_combos h, List.Nodup, List.pairwise_filterMap]
  refine List.Pairwise.iff ?_
  intro a b
  simp only [declaredName?_eq_some]
  constructor
  · intro hne name ha hb
    exact hne name ha name hb rfl
  · rintro honce name ha _ hb rfl
    exact honce name ha hb

end Declarations

/-! ## Members of a class -/

namespace Layout

/-- Fields are named after their combos. -/
theorem map_name_place (scale : Nat) (combos : List Combo) :
    (place scale combos).map Field.name = combos.map Combo.name := by
  induction combos generalizing scale with
  | nil => rfl
  | cons c rest ih => rw [place, List.map_cons, List.map_cons, ih]

end Layout

namespace IndexClass

/-- The names of the bit fields that a class declares. -/
def fieldNames (k : IndexClass) : List String :=
  k.layout.fields.map fun field => fieldName field.name

/-- The heads of the setters that a class declares. -/
def setterHeads (k : IndexClass) : List (Option String) :=
  k.combos.map fun c => (setterLines c).head?

theorem fieldName_injective : Function.Injective fieldName := by
  intro a b h
  exact (String.append_right_inj _).mp h

/-- The head of a setter tells the name of its combo. -/
theorem setterHead_injective :
    Function.Injective fun name : String => some s!"\tvoid Set{name}( int i )" := by
  intro a b h
  have htext := Option.some.inj h
  exact (String.append_right_inj _).mp ((String.append_left_inj _).mp htext)

variable {combos : List Combo} {base parameters : String} {kind : ComboKind} {stage : Stage} {seed : Nat}
  {k : IndexClass}

/-- **Distinct members.** A class declares no field and no setter twice exactly if the names of its combos
    are distinct. -/
theorem nodup_members_iff (h : ofCombos combos base kind stage parameters seed = .ok k) :
    (k.fieldNames.Nodup ↔ (combos.map Combo.name).Nodup) ∧
      (k.setterHeads.Nodup ↔ (combos.map Combo.name).Nodup) := by
  obtain ⟨rfl, hlayout⟩ := of_ofCombos h
  have hfields : k.fieldNames = (k.combos.map Combo.name).map fieldName := by
    unfold fieldNames
    rw [(Layout.ofCombos_eq hlayout).2, ← Layout.map_name_place seed, List.map_map]
    rfl
  have hsetters : k.setterHeads
      = (k.combos.map Combo.name).map fun name => some s!"\tvoid Set{name}( int i )" := by
    unfold setterHeads
    rw [List.map_map]
    rfl
  rw [hfields, hsetters, List.nodup_map_iff fieldName_injective, List.nodup_map_iff setterHead_injective]
  exact ⟨Iff.rfl, Iff.rfl⟩

end IndexClass

end ShaderCombos
