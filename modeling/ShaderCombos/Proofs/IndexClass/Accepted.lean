import Mathlib
import ShaderCombos.Proofs.Directive.Bounds
import ShaderCombos.Proofs.Directive.Reading
import ShaderCombos.Proofs.IndexClass.Members

/-!
# `Proofs.IndexClass.Accepted` — what the setters accept has an index

Two parts of a shader's header say which values a combo can take. The setter of the generated class asserts a
range, and the layout gives an index only to values that it has a term for. They do not agree on every combo: the
setter asserts whatever range the combo has, and the layout has no index for a value below zero. A directive
cannot declare a range that reaches below zero, because its bounds are numerals without a sign. So for combos
that were read from a source the two agree on every assignment (`indexed_iff_accepted`).

## Contents
- **Assertions.** `integer?` reads a number with its sign, `assertedRange?` the range in an assertion.
- **Setters.** `SetterAccepts`: the setter of a combo asserts its range (`assertedRanges_eq`), so it accepts the
  values within the bounds (`setterAccepts_iff`).
- **Layouts.** `isSome_indexOf?_iff`: an index takes accepted values that are not negative.
- **Parsed combos.** `indexed_iff_accepted`.
-/

namespace ShaderCombos

open Text Directive

namespace IndexClass

/-! ## Assertions -/

/-- An integer in decimal digits at the front of a text, and the text behind it. -/
def integer? : List Char → Option (Int × List Char)
  | '-' :: s => (numeral? s).map fun (n, rest) => (-(n : Int), rest)
  | s => (numeral? s).map fun (n, rest) => ((n : Int), rest)

/-- The range of the argument that a line asserts. -/
def assertedRange? (line : List Char) : Option (Int × Int) := do
  let s ← dropLiteral? "\t\tAssert( i >= " line
  let (low, s) ← integer? s
  let s ← dropLiteral? " && i <= " s
  let (high, s) ← integer? s
  if s = " );".toList then some (low, high) else none

/-- **An integer is read back** up to what is no digit. -/
theorem integer?_toString (i : Int) {rest : List Char} (hrest : rest.takeWhile Char.isDigit = []) :
    integer? ((toString i).toList ++ rest) = some (i, rest) := by
  cases i with
  | ofNat n =>
      have hdigits : (toString (Int.ofNat n)).toList = Nat.toDigits 10 n := Nat.toList_repr
      have hread : numeral? (Nat.toDigits 10 n ++ rest) = some (n, rest) :=
        numeral?_numeral (Numeral.ofNat n) hrest
      -- A digit is no minus sign.
      have hsign : ∀ s, Nat.toDigits 10 n ++ rest ≠ '-' :: s := by
        intro s heq
        obtain ⟨c, front, hfront⟩ := List.exists_cons_of_ne_nil (Nat.toDigits_ne_nil (n := n) (b := 10))
        have hc : c.isDigit = true := isDigit_of_mem_toDigits (n := n) (hfront ▸ List.mem_cons_self)
        rw [hfront, List.cons_append, List.cons.injEq] at heq
        rw [heq.1] at hc
        exact absurd hc (by decide)
      rw [hdigits, integer?.eq_2 _ hsign, hread]
      rfl
  | negSucc n =>
      have hdigits : (toString (Int.negSucc n)).toList = '-' :: Nat.toDigits 10 (n + 1) := by
        show ("-" ++ (n + 1).repr).toList = _
        rw [String.toList_append, Nat.toList_repr]
        rfl
      have hread : numeral? (Nat.toDigits 10 (n + 1) ++ rest) = some (n + 1, rest) :=
        numeral?_numeral (Numeral.ofNat (n + 1)) hrest
      rw [hdigits, List.cons_append, integer?, hread]
      rfl

/-- **An assertion is read back.** -/
theorem assertedRange?_assertion (low high : Int) :
    assertedRange? s!"\t\tAssert( i >= {low} && i <= {high} );".toList = some (low, high) := by
  have hline : s!"\t\tAssert( i >= {low} && i <= {high} );".toList
      = "\t\tAssert( i >= ".toList ++ ((toString low).toList ++ (" && i <= ".toList
        ++ ((toString high).toList ++ " );".toList))) := by
    show ("\t\tAssert( i >= " ++ toString low ++ " && i <= " ++ toString high ++ " );").toList = _
    simp only [String.toList_append, List.append_assoc]
  have hlow : integer? ((toString low).toList ++ (" && i <= ".toList
      ++ ((toString high).toList ++ " );".toList))) = some (low, _) :=
    integer?_toString low rfl
  have hhigh : integer? ((toString high).toList ++ " );".toList) = some (high, " );".toList) :=
    integer?_toString high rfl
  rw [hline]
  unfold assertedRange?
  simp only [dropLiteral?_append, hlow, hhigh, Option.bind_eq_bind, Option.bind_some]
  rfl

/-! ## Setters -/

/-- The ranges that the setter of a combo asserts, read from its lines. -/
def assertedRanges (c : Combo) : List (Int × Int) :=
  ((setterLines c).map String.toList).filterMap assertedRange?

/-- **The setter of a combo accepts a value**: nothing that it asserts fails. -/
def SetterAccepts (c : Combo) (v : Int32) : Prop :=
  ∀ range ∈ assertedRanges c, range.1 ≤ v.toInt ∧ v.toInt ≤ range.2

variable {c : Combo} {v : Int32}

/-- **A setter asserts the range of its combo**, once and nothing else. -/
theorem assertedRanges_eq (c : Combo) : assertedRanges c = [(c.min.toInt, c.max.toInt)] := by
  have hfixed : ∀ l ∈ fixedLines, assertedRange? l.toList = none := by decide
  have hhead : assertedRange? s!"\tvoid Set{c.name}( int i )".toList = none := by
    show assertedRange? ("\tvoid Set" ++ c.name ++ "( int i )").toList = none
    rw [String.toList_append, String.toList_append]
    rfl
  have hassertion := assertedRange?_assertion c.min.toInt c.max.toInt
  have hstore : assertedRange? s!"\t\t{fieldName c.name} = i;".toList = none := by
    show assertedRange? ("\t\t" ++ ("m_n" ++ c.name) ++ " = i;").toList = none
    rw [String.toList_append, String.toList_append, String.toList_append]
    rfl
  have hraise : assertedRange? s!"\t\t{flagName c.name} = true;".toList = none := by
    show assertedRange? ("\t\t" ++ ("m_b" ++ c.name) ++ " = true;").toList = none
    rw [String.toList_append, String.toList_append, String.toList_append]
    rfl
  unfold assertedRanges
  rw [filterMap_setterLines c hfixed hhead hraise, List.filterMap_cons_some hassertion,
    List.filterMap_cons_none hstore, List.filterMap_nil]

/-- What a setter accepts is the range of its combo. -/
theorem setterAccepts_iff : SetterAccepts c v ↔ c.min.toInt ≤ v.toInt ∧ v.toInt ≤ c.max.toInt := by
  unfold SetterAccepts
  rw [assertedRanges_eq, List.forall_mem_singleton]

theorem forall₂_setterAccepts_iff {combos : List Combo} {values : List Int32} :
    List.Forall₂ SetterAccepts combos values ↔ Admits combos values := by
  have hrange : SetterAccepts = fun c v => c.min.toInt ≤ v.toInt ∧ v.toInt ≤ c.max.toInt := by
    funext c v
    exact propext setterAccepts_iff
  rw [hrange]
  rfl

end IndexClass

/-! ## Layouts -/

/-- **An index takes accepted values that are not negative.** -/
theorem Layout.isSome_indexOf?_iff {combos : List Combo} {seed : Nat} {l : Layout}
    (h : Layout.ofCombos combos seed = .ok l) {values : List Int32} :
    (l.indexOf? values).isSome = true ↔
      List.Forall₂ IndexClass.SetterAccepts combos values ∧ ∀ v ∈ values, 0 ≤ v.toInt := by
  rw [IndexClass.forall₂_setterAccepts_iff, Option.isSome_iff_exists]
  constructor
  · rintro ⟨n, hn⟩
    obtain ⟨hadmits, hnonneg, -⟩ := (Layout.indexOf?_eq_some_iff h).mp hn
    exact ⟨hadmits, hnonneg⟩
  · rintro ⟨hadmits, hnonneg⟩
    exact ⟨_, (Layout.indexOf?_eq_some_iff h).mpr ⟨hadmits, hnonneg, rfl⟩⟩

/-! ## Parsed combos -/

namespace Declarations

variable {f : Filter} {lines : List String} {found : Declarations} {list : ComboKind} {seed : Nat} {l : Layout}

/-- **What the setters accept has an index.** For combos that were read from directives, an assignment has an
index in their layout exactly if every value lies between the bounds of its combo, and that is exactly if the
setters accept all of them. -/
theorem indexed_iff_accepted (h : ofLines f lines = .ok found)
    (hl : Layout.ofCombos (found.combos list) seed = .ok l) (values : List Int32) :
    ((l.indexOf? values).isSome = true ↔ Admits (found.combos list) values) ∧
      ((l.indexOf? values).isSome = true ↔
        List.Forall₂ IndexClass.SetterAccepts (found.combos list) values) := by
  have hmin : ∀ c ∈ found.combos list, 0 ≤ c.min.toInt := fun c hc => (nonneg_of_ofLines h hc).1
  have hindexed : (l.indexOf? values).isSome = true ↔
      List.Forall₂ IndexClass.SetterAccepts (found.combos list) values := by
    rw [Layout.isSome_indexOf?_iff hl]
    constructor
    · rintro ⟨haccepted, -⟩
      exact haccepted
    · intro haccepted
      exact ⟨haccepted, (IndexClass.forall₂_setterAccepts_iff.mp haccepted).nonneg hmin⟩
  exact ⟨hindexed.trans IndexClass.forall₂_setterAccepts_iff, hindexed⟩

/-! ### A range that starts at one -/

namespace OneToTwo

def source : List String :=
  ["// DYNAMIC: \"A\" \"1..2\""]

def declared : Declarations where
  dynamic := [⟨"A", 1, 2, .mustBeSet⟩]

def layout : Layout where
  fields := [⟨"A", 1, 2, 2, 1⟩]
  cardinality := 2
  maxIndex := 2

theorem ofLines_eq : ofLines (Filter.forModel .pixel .three) source = .ok declared := by
  decide +kernel

theorem ofCombos_eq : Layout.ofCombos (declared.combos .dynamic) 1 = .ok layout := rfl

end OneToTwo

theorem indexed_iff_accepted_one_to_two :
    ofLines (Filter.forModel .pixel .three) OneToTwo.source = .ok OneToTwo.declared ∧
      Layout.ofCombos (OneToTwo.declared.combos .dynamic) 1 = .ok OneToTwo.layout ∧
        ((OneToTwo.layout.indexOf? [2]).isSome = true ↔ Admits (OneToTwo.declared.combos .dynamic) [2]) ∧
          ((OneToTwo.layout.indexOf? [2]).isSome = true ↔
            List.Forall₂ IndexClass.SetterAccepts (OneToTwo.declared.combos .dynamic) [2]) :=
  ⟨OneToTwo.ofLines_eq, OneToTwo.ofCombos_eq, indexed_iff_accepted OneToTwo.ofLines_eq OneToTwo.ofCombos_eq [2]⟩

end Declarations

end ShaderCombos
