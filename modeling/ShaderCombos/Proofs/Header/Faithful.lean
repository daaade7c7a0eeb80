import Mathlib
import ShaderCombos.Proofs.Directive.Bounds
import ShaderCombos.Proofs.Header.Classes
import ShaderCombos.Proofs.IndexClass.Computed

/-!
# `Proofs.Header.Faithful` — which generated classes store what they are given

The combos of a parsed unit have no negative bounds, and the scales of both classes of its header start from a
positive one. So both classes meet what `Proofs.IndexClass.Kept` asks for: they store what they are given exactly
if the greatest value of each range fits its field. Where the names of the combos tell the members apart, the same
holds of the text, with ranges, widths and sum as they are written in it (`Proofs.IndexClass.Computed`).

## Contents
- **Headers.** `faithful_of_header`, and a header whose class is not faithful.
-/

namespace ShaderCombos.Header

/-! ## Headers -/

/-- **The classes of a generated header.** Where a header is generated for a parsed unit, each of its two
    classes stores what it is given exactly if the greatest value of each of its combos fits the combo's
    field. Where the members of the class have names of their own, its text computes the same index after calls
    of its setters, and that is the index of the layout for all values that the setters accept exactly if each
    declared width is enough for the range that is asserted. -/
theorem faithful_of_header {fs : FileSystem} {path : Path} {name : String} {stage : Stage}
    {model : ShaderModel} {u : ShaderUnit} {text : String}
    (hunit : ShaderUnit.ofFile fs path name stage model = .ok u) (htext : Header.text u = .ok text) :
    ∃ static dynamic, Emits u text static dynamic ∧ ∀ k ∈ [static, dynamic],
      (k.Faithful ↔ ∀ f ∈ k.layout.fields, f.max.toInt < 2 ^ f.bits) ∧
        (IndexClass.ProperNames k.combos →
          (∀ values, List.Forall₂ IndexClass.SetterAccepts k.combos values →
            k.writtenIndex? values = some (k.computedIndex values : Int)) ∧
            (k.FaithfulAsWritten ↔ k.WidthsSuffice)) := by
  obtain ⟨static, dynamic, hemits⟩ := emits_of_text htext
  refine ⟨static, dynamic, hemits, ?_⟩
  intro k hk
  obtain ⟨kind, seed, hseed, hclass⟩ := hemits.exists_indexClass k hk
  obtain ⟨hcombos, hlayout⟩ := indexClass_eq_ok hclass
  have hnonneg : ∀ c ∈ k.combos, 0 ≤ c.min.toInt ∧ 0 ≤ c.max.toInt := by
    intro c hc
    rw [hcombos] at hc
    exact ShaderUnit.nonneg_of_ofFile hunit hc
  refine ⟨IndexClass.faithful_iff hseed hlayout hnonneg, fun hnames => ⟨?_, ?_⟩⟩
  · intro values haccepts
    exact IndexClass.writtenIndex?_of_accepts hlayout hnames haccepts
  · exact IndexClass.faithfulAsWritten_iff hseed hlayout hnonneg hnames

/-! ### A range that starts at one

The range `1..2` has two values and gets one bit, which keeps nothing of the two. -/

namespace OneToTwo

def text : String :=
  "// STATIC: \"A\" \"1..2\""

def files : FileSystem where
  nodes := [(["a_ps30.fxc"], .file text.toUTF8 newFileMode)]

def combo : Combo where
  name := "A"
  min := 1
  max := 2

def unit : ShaderUnit where
  name := "a_ps30"
  stage := .pixel
  model := .three
  version := "30"
  static := [combo]
  files := ["a_ps30.fxc"]

theorem ofFile_eq : ShaderUnit.ofFile files ⟨"a_ps30.fxc"⟩ "a_ps30" .pixel .three = .ok unit := by
  have hread : files.readTextAt ⟨"a_ps30.fxc"⟩ = .ok (["a_ps30.fxc"], text) := by decide +kernel
  have hlines : ∀ line ∈ Text.lines text, includeTarget? line = none := by decide +kernel
  have hfound : Declarations.ofLines (Directive.Filter.forModel .pixel .three) (Text.lines text)
      = .ok { static := [combo] } := by decide +kernel
  exact ShaderUnit.ofFile_of_forall_none hread hlines hfound

set_option maxRecDepth 4000 in
theorem exists_text : ∃ text, Header.text unit = .ok text := by
  have hok : (Header.text unit).isOk = true := by decide +kernel
  cases htext : Header.text unit with
  | ok text => exact ⟨text, rfl⟩
  | error failure =>
      rw [htext] at hok
      cases hok

theorem properNames (kind : ComboKind) : IndexClass.ProperNames (unit.combos kind) := by
  cases kind with
  | static => decide
  | dynamic => decide

end OneToTwo

theorem faithful_of_header_one_to_two :
    ∃ text, ShaderUnit.ofFile OneToTwo.files ⟨"a_ps30.fxc"⟩ "a_ps30" .pixel .three
        = .ok OneToTwo.unit ∧ Header.text OneToTwo.unit = .ok text ∧
      ∃ static dynamic, Emits OneToTwo.unit text static dynamic ∧ ∀ k ∈ [static, dynamic],
        (k.Faithful ↔ ∀ f ∈ k.layout.fields, f.max.toInt < 2 ^ f.bits) ∧
          (∀ values, List.Forall₂ IndexClass.SetterAccepts k.combos values →
            k.writtenIndex? values = some (k.computedIndex values : Int)) ∧
            (k.FaithfulAsWritten ↔ k.WidthsSuffice) := by
  obtain ⟨text, htext⟩ := OneToTwo.exists_text
  obtain ⟨static, dynamic, hemits, hclasses⟩ := faithful_of_header OneToTwo.ofFile_eq htext
  refine ⟨text, OneToTwo.ofFile_eq, htext, static, dynamic, hemits, ?_⟩
  intro k hk
  obtain ⟨kind, seed, -, hclass⟩ := hemits.exists_indexClass k hk
  obtain ⟨hfaithful, hwritten⟩ := hclasses k hk
  refine ⟨hfaithful, hwritten ?_⟩
  rw [(indexClass_eq_ok hclass).1]
  exact OneToTwo.properNames kind

/-- **A class can lose a value** that its setter accepts. -/
theorem not_forall_faithful :
    ¬ ∀ (fs : FileSystem) (path : Path) (name : String) (stage : Stage) (model : ShaderModel)
        (u : ShaderUnit) (text : String), ShaderUnit.ofFile fs path name stage model = .ok u →
      Header.text u = .ok text → ∀ static dynamic, Emits u text static dynamic →
        static.Faithful ∧ dynamic.Faithful := by
  intro h
  obtain ⟨text, htext⟩ := OneToTwo.exists_text
  obtain ⟨static, dynamic, hemits⟩ := emits_of_text htext
  obtain ⟨hfaithful, -⟩ := h _ _ _ _ _ _ _ OneToTwo.ofFile_eq htext static dynamic hemits
  obtain ⟨seed, hseed, hstatic⟩ := hemits.seeded
  obtain ⟨hcombos, hlayout⟩ := indexClass_eq_ok hstatic
  have hnonneg : ∀ c ∈ static.combos, 0 ≤ c.min.toInt ∧ 0 ≤ c.max.toInt := by
    rw [hcombos]
    decide
  -- The greatest value is two, and the field has one bit.
  have hfits := (IndexClass.faithful_iff (staticSeed_pos hseed) hlayout hnonneg).mp hfaithful
  rw [(Layout.ofCombos_eq hlayout).2, Layout.forall_mem_place_iff, hcombos] at hfits
  exact absurd (hfits OneToTwo.combo List.mem_cons_self) (by decide)

end ShaderCombos.Header
