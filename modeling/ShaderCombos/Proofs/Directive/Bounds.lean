import Mathlib
import ShaderCombos.Proofs.Directive.Gathered
import ShaderCombos.Proofs.Units

/-!
# `Proofs.Directive.Bounds` — the ranges that directives can declare

A range is read from two numerals without a sign, so no parsed combo has a negative bound. Layouts need
that: an index exists only for values that are not negative.

## Contents
- **Bounds.** `bound?_eq_some_iff`: which numerals fit.
- **Combos.** `of_combo?_eq_some` and `combo?_of_ofLine?`: what a line that declares a combo gives it;
  `nonneg_of_combo?`.
- **Sources and units.** `Declarations.nonneg_of_ofLines`, `ShaderUnit.nonneg_of_ofFile`.
-/

namespace ShaderCombos

namespace Directive

/-- A numeral is a bound exactly if it fits a signed number of 32 bits. -/
theorem bound?_eq_some_iff {n : Nat} {i : Int32} :
    bound? n = some i ↔ n < 2 ^ 31 ∧ i = Int32.ofNat n := by
  have hfits : fitsSigned32 n = true ↔ n < 2 ^ 31 := by
    unfold fitsSigned32
    rw [Bool.and_eq_true, decide_eq_true_eq, decide_eq_true_eq]
    omega
  unfold bound?
  by_cases hn : n < 2 ^ 31
  · rw [if_pos (hfits.mpr hn), Option.some.injEq]
    constructor
    · rintro rfl
      exact ⟨hn, rfl⟩
    · rintro ⟨-, rfl⟩
      rfl
  · rw [if_neg fun h => hn (hfits.mp h)]
    constructor
    · rintro ⟨⟩
    · rintro ⟨hlt, -⟩
      exact absurd hlt hn

theorem nonneg_of_bound? {n : Nat} {i : Int32} (h : bound? n = some i) : 0 ≤ i.toInt := by
  obtain ⟨hn, rfl⟩ := bound?_eq_some_iff.mp h
  rw [Int32.toInt_ofNat_of_lt hn]
  omega

/-- **What a line gives its combo**: two bounds that fit, and the initial value that the line as a whole
    gives. -/
theorem of_combo?_eq_some {list : ComboKind} {line : List Char} {c : Combo}
    (h : combo? list line = some c) :
    (∃ low, bound? low = some c.min) ∧ (∃ high, bound? high = some c.max) ∧ c.init = init line := by
  unfold combo? at h
  obtain ⟨body, -, h⟩ := Option.bind_eq_some_iff.mp h
  obtain ⟨⟨name, rest⟩, -, h⟩ := Option.bind_eq_some_iff.mp h
  by_cases hspaced : (Text.dropBlanks rest).length = rest.length
  · cases (if_pos hspaced).symm.trans h
  · replace h := (if_neg hspaced).symm.trans h
    obtain ⟨⟨min, max⟩, -, h⟩ := Option.bind_eq_some_iff.mp h
    obtain ⟨lower, hlower, h⟩ := Option.bind_eq_some_iff.mp h
    obtain ⟨upper, hupper, h⟩ := Option.bind_eq_some_iff.mp h
    cases h
    exact ⟨⟨min, hlower⟩, ⟨max, hupper⟩, rfl⟩

/-- Neither bound of a parsed combo is negative. -/
theorem nonneg_of_combo? {list : ComboKind} {line : List Char} {c : Combo}
    (h : combo? list line = some c) : 0 ≤ c.min.toInt ∧ 0 ≤ c.max.toInt := by
  obtain ⟨⟨low, hlow⟩, ⟨high, hhigh⟩, -⟩ := of_combo?_eq_some h
  exact ⟨nonneg_of_bound? hlow, nonneg_of_bound? hhigh⟩

/-- A line that declares a combo reads as one. -/
theorem combo?_of_ofLine? {filter : Filter} {line : String} {list : ComboKind} {c : Combo}
    (h : ofLine? filter line = .ok (some (.combo list c))) : combo? list line.toList = some c := by
  unfold ofLine? at h
  cases hhead : head? line.toList with
  | none =>
      rw [hhead] at h
      cases h
  | some head =>
      obtain ⟨kind, body⟩ := head
      rw [hhead] at h
      by_cases haccepts : filter.accepts line.toList = true
      · obtain ⟨directive, hread, hsome⟩ := except_map_eq_ok.mp ((if_pos haccepts).symm.trans h)
        obtain rfl := Option.some.inj hsome
        cases kind with
        | combo other =>
            unfold read at hread
            cases hcombo : combo? other line.toList with
            | none =>
                simp only [hcombo] at hread
                cases hread
            | some c' =>
                simp only [hcombo] at hread
                cases hread
                exact hcombo
        | centroid =>
            unfold read at hread
            cases hslot : centroidSlot? filter.stage line.toList with
            | none =>
                simp only [hslot] at hread
                cases hread
            | some slot =>
                simp only [hslot] at hread
                by_cases hlt : slot < 32
                · cases (dif_pos hlt).symm.trans hread
                · cases (dif_neg hlt).symm.trans hread
        | skip => cases hread
      · cases (if_neg haccepts).symm.trans h

end Directive

/-- **No combo of a parsed source has a negative bound.** -/
theorem Declarations.nonneg_of_ofLines {filter : Directive.Filter} {lines : List String}
    {found : Declarations} (h : ofLines filter lines = .ok found) {list : ComboKind} {c : Combo}
    (hc : c ∈ found.combos list) : 0 ≤ c.min.toInt ∧ 0 ≤ c.max.toInt := by
  obtain ⟨line, -, hline⟩ := exists_line_of_mem_combos h hc
  exact Directive.nonneg_of_combo? (Directive.combo?_of_ofLine? hline)

/-- **No combo of a parsed unit has a negative bound.** -/
theorem ShaderUnit.nonneg_of_ofFile {fs : FileSystem} {path : Path} {name : String} {stage : Stage}
    {model : ShaderModel} {u : ShaderUnit} (h : ShaderUnit.ofFile fs path name stage model = .ok u)
    {kind : ComboKind} {c : Combo} (hc : c ∈ u.combos kind) : 0 ≤ c.min.toInt ∧ 0 ≤ c.max.toInt := by
  obtain ⟨source, found, -, hfound, rfl⟩ := ShaderUnit.ofFile_eq_ok.mp h
  have hmem : c ∈ found.combos kind := by
    cases kind with
    | static => exact hc
    | dynamic => exact hc
  exact Declarations.nonneg_of_ofLines hfound hmem

end ShaderCombos
