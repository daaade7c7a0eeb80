import Mathlib
import ShaderCombos.Proofs.IndexClass.FieldWidths
import ShaderCombos.Proofs.Source.Composition

/-!
# `Proofs.IndexClass.DistinctMembers` — when a class declares no member twice

The fields and the setters that a class declares are found in its lines: a field in the private part, a setter
among the member functions. There are as many of each as there are combos, and they have the combos' names in
order. So what makes names distinct (`Proofs.IndexClass.Names`) decides of the text as well: no field and no
setter is declared twice exactly if no two lines of the source declare the same combo. Lines that come from one
file included twice are two lines.

## Contents
- **Declared members.** `map_fst_declaredFields`, `declaredSetters_lines`.
- **Distinct names.** `nodup_names_iff`, and a source that includes a file twice.
-/

namespace ShaderCombos

open Directive

/-! ## Declared members -/

namespace IndexClass

variable {combos : List Combo} {base parameters : String} {kind : ComboKind} {stage : Stage} {seed : Nat}
  {k : IndexClass}

/-- The names in the heads of the setters among some lines. -/
def declaredSetters (lines : List String) : List String :=
  (membersFrom [] (lines.map String.toList)).filterMap setterName?

/-- The fields that a class declares have the names of its combos. -/
theorem map_fst_declaredFields (h : ofCombos combos base kind stage parameters seed = .ok k) :
    (declaredFields k.lines).map Prod.fst = k.combos.map Combo.name := by
  rw [declaredFields_lines, List.map_map, ← Layout.map_name_place seed,
    ← Layout.fields_eq_place (of_ofCombos h).2]
  rfl

/-- So have the setters, if the constructor cannot be taken for one. -/
theorem declaredSetters_lines (h : ofCombos combos base kind stage parameters seed = .ok k)
    (hbase : ∀ ch ∈ base.toList, Text.isNameChar ch = true) :
    declaredSetters k.lines = k.combos.map Combo.name := by
  obtain ⟨layout, hfaulty, hk⟩ := except_bind_eq_ok.mp h
  obtain rfl := Except.ok.inj hk
  have hempty : combos = [] → layout.fields = [] := by
    rintro rfl
    exact Layout.fields_eq_place (Attempt.ofFaulty_eq_ok.mp hfaulty)
  have hsetters : (combos.map setter).filterMap setterName? = combos.map Combo.name := by
    rw [List.filterMap_map]
    exact List.filterMap_eq_map_iff_forall_eq_some.mpr fun c _ => setterName?_setter c
  have hconstructor := @setterName?_constructor ⟨base, kind, stage, parameters, combos, layout⟩
    (isNameChar_className hbase kind)
  unfold declaredSetters
  rw [membersFrom_lines_toList hempty, List.filterMap_append, hsetters,
    List.filterMap_cons_none hconstructor]
  exact List.append_nil _

end IndexClass

/-! ## Distinct names -/

namespace Declarations

variable {f : Filter} {lines : List String} {found : Declarations}

/-- **What makes names distinct.** Where the directives of some lines can be read, the combos of one kind
    have distinct names exactly if no two lines declare the same one, and so have the fields and the setters
    of every class that is made of the combos. The same holds of the fields that its text declares and, where
    the class is named by an identifier, of the setters that are found among its member functions. -/
theorem nodup_names_iff (h : ofLines f lines = .ok found) (list : ComboKind) :
    (((found.combos list).map Combo.name).Nodup ↔ DeclaresOnce f list lines) ∧
      ∀ base stage parameters seed k,
        IndexClass.ofCombos (found.combos list) base list stage parameters seed = .ok k →
          (k.fieldNames.Nodup ↔ DeclaresOnce f list lines) ∧
            (k.setterHeads.Nodup ↔ DeclaresOnce f list lines) ∧
              (((IndexClass.declaredFields k.lines).map Prod.fst).Nodup ↔ DeclaresOnce f list lines) ∧
                ((∀ ch ∈ base.toList, Text.isNameChar ch = true) →
                  ((IndexClass.declaredSetters k.lines).Nodup ↔ DeclaresOnce f list lines)) := by
  have hnames := nodup_map_name_iff h list
  refine ⟨hnames, fun base stage parameters seed k hk => ?_⟩
  obtain ⟨hfields, hsetters⟩ := IndexClass.nodup_members_iff hk
  have hcombos := (IndexClass.of_ofCombos hk).1
  refine ⟨hfields.trans hnames, hsetters.trans hnames, ?_, fun hbase => ?_⟩
  · rw [IndexClass.map_fst_declaredFields hk, hcombos]
    exact hnames
  · rw [IndexClass.declaredSetters_lines hk hbase, hcombos]
    exact hnames

/-! ### A combo in a file that is included twice -/

namespace IncludedTwice

def files : FileSystem where
  nodes := [
    (["a_ps30.fxc"], .file "#include \"a.h\"\n#include \"a.h\"".toUTF8 newFileMode),
    (["a.h"], .file "// STATIC: \"A\" \"0..1\"".toUTF8 newFileMode)]

def flattened : Source where
  lines := ["// STATIC: \"A\" \"0..1\"", "// STATIC: \"A\" \"0..1\""]
  files := ["a_ps30.fxc", "a.h", "a.h"]

def declared : Declarations where
  static := [⟨"A", 0, 1, .mustBeSet⟩, ⟨"A", 0, 1, .mustBeSet⟩]

theorem assemble_eq : Source.assemble files ⟨"a_ps30.fxc"⟩ = .ok flattened := by
  have hwithin : (Source.assembleWithin files files.nodes.length ⟨"a_ps30.fxc"⟩).run
      = some (.ok flattened) := by decide +kernel
  rw [Source.assembleWithin_eq] at hwithin
  exact Option.some.inj hwithin

theorem ofLines_eq : ofLines (Filter.forModel .pixel .three) flattened.lines = .ok declared := by
  decide +kernel

end IncludedTwice

theorem nodup_names_iff_included_twice :
    ofLines (Filter.forModel .pixel .three) IncludedTwice.flattened.lines = .ok IncludedTwice.declared ∧
      (∃ k, IndexClass.ofCombos (IncludedTwice.declared.combos .static) "a_ps30" .static .pixel "" 1 = .ok k) ∧
      (∀ ch ∈ "a_ps30".toList, Text.isNameChar ch = true) ∧
      (((IncludedTwice.declared.combos .static).map Combo.name).Nodup ↔
          DeclaresOnce (Filter.forModel .pixel .three) .static IncludedTwice.flattened.lines) ∧
        ∀ base stage parameters seed k,
          IndexClass.ofCombos (IncludedTwice.declared.combos .static) base .static stage parameters seed
              = .ok k →
            (k.fieldNames.Nodup ↔
                DeclaresOnce (Filter.forModel .pixel .three) .static IncludedTwice.flattened.lines) ∧
              (k.setterHeads.Nodup ↔
                DeclaresOnce (Filter.forModel .pixel .three) .static IncludedTwice.flattened.lines) ∧
                (((IndexClass.declaredFields k.lines).map Prod.fst).Nodup ↔
                  DeclaresOnce (Filter.forModel .pixel .three) .static IncludedTwice.flattened.lines) ∧
                  ((∀ ch ∈ base.toList, Text.isNameChar ch = true) →
                    ((IndexClass.declaredSetters k.lines).Nodup ↔
                      DeclaresOnce (Filter.forModel .pixel .three) .static IncludedTwice.flattened.lines)) :=
  ⟨IncludedTwice.ofLines_eq, ⟨_, rfl⟩, List.all_eq_true.mp rfl, nodup_names_iff IncludedTwice.ofLines_eq .static⟩

/-- **Names are not always distinct**, and not even those that come from a flattened source. -/
theorem not_forall_nodup_names :
    ¬ ∀ (fs : FileSystem) (path : Path) (source : Source) (stage : Stage) (model : ShaderModel)
        (found : Declarations), Source.assemble fs path = .ok source →
      ofLines (Filter.forModel stage model) source.lines = .ok found →
        ∀ list, ((found.combos list).map Combo.name).Nodup := by
  intro h
  have hnodup : ["A", "A"].Nodup :=
    h _ _ _ _ _ _ IncludedTwice.assemble_eq IncludedTwice.ofLines_eq .static
  exact absurd hnodup (by decide)

end Declarations

end ShaderCombos
