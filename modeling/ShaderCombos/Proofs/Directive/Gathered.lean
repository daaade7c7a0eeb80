import Mathlib
import ShaderCombos.Directive
import ShaderCombos.Proofs.Outcomes

/-!
# `Proofs.Directive.Gathered` — what the lines of a source declare together

Declarations are collected line by line. Proofs want them the other way round: first the directives that
the lines declare, each line on its own, and then what a list of directives amounts to. `ofLines_eq_ok`
is that separation, and `gathers_foldl_add` says what a list of directives amounts to: each list of the
declarations is the part of the directives that belongs to it, in order, and the centroid mask has one
bit for each slot that is named.

## Contents
- **Parts of a directive.** `asCombo?`, `asRule?`, and `CentroidMask.testBit_insert` for a slot.
- **All directives.** `Gathers`, `gathers_foldl_add`.
- **All lines.** `addLine_eq_ok`, `ofLines_eq_ok`, `exists_line_of_mem_combos`.
-/

namespace ShaderCombos

/-! ## Parts of a directive -/

namespace Directive

/-- The combo that a directive adds to one of the lists. -/
def asCombo? (list : ComboKind) : Directive → Option Combo
  | .combo kind c => if kind = list then some c else none
  | _ => none

/-- The rule that a directive adds to the skip rules. -/
def asRule? : Directive → Option String
  | .skip rule => some rule
  | _ => none

theorem asCombo?_eq_some {list : ComboKind} {directive : Directive} {c : Combo} :
    directive.asCombo? list = some c ↔ directive = .combo list c := by
  unfold asCombo?
  cases directive with
  | combo kind c' =>
      constructor
      · intro h
        by_cases hkind : kind = list
        · rw [hkind, Option.some.inj ((if_pos hkind).symm.trans h)]
        · cases (if_neg hkind).symm.trans h
      · rintro ⟨⟩
        exact if_pos rfl
  | centroid slot =>
      constructor
      · rintro ⟨⟩
      · rintro ⟨⟩
  | skip rule =>
      constructor
      · rintro ⟨⟩
      · rintro ⟨⟩

end Directive

/-! ## The centroid mask -/

/-- **One slot.** Its bit is set, and no other bit changes. -/
theorem CentroidMask.testBit_insert (m : CentroidMask) (slot : Fin 32) (i : Nat) :
    (m.insert slot).bits.toNat.testBit i = true ↔ slot.val = i ∨ m.bits.toNat.testBit i = true := by
  have hslot : (UInt32.ofNat slot).toNat = slot := by
    rw [UInt32.toNat_ofNat']
    exact Nat.mod_eq_of_lt (by omega)
  have hbit : ((1 : UInt32) <<< UInt32.ofNat slot).toNat = 2 ^ slot.val := by
    rw [UInt32.toNat_shiftLeft, hslot, Nat.mod_eq_of_lt slot.isLt, Nat.shiftLeft_eq]
    show 1 * 2 ^ slot.val % 2 ^ 32 = 2 ^ slot.val
    rw [Nat.one_mul]
    exact Nat.mod_eq_of_lt (Nat.pow_lt_pow_right (by decide) slot.isLt)
  unfold insert
  rw [UInt32.toNat_or, hbit, Nat.testBit_or, Nat.testBit_two_pow, Bool.or_eq_true, decide_eq_true_eq]
  exact or_comm

namespace Declarations

open Directive

/-! ## All directives -/

/-- The combos of one kind. -/
def combos (found : Declarations) : ComboKind → List Combo
  | .static => found.static
  | .dynamic => found.dynamic

theorem combos_add (found : Declarations) (directive : Directive) (list : ComboKind) :
    (found.add directive).combos list = found.combos list ++ (directive.asCombo? list).toList := by
  cases directive with
  | combo kind c =>
      cases kind with
      | static =>
          cases list with
          | static => rfl
          | dynamic => exact (List.append_nil _).symm
      | dynamic =>
          cases list with
          | static => exact (List.append_nil _).symm
          | dynamic => rfl
  | centroid slot =>
      cases list with
      | static => exact (List.append_nil _).symm
      | dynamic => exact (List.append_nil _).symm
  | skip rule =>
      cases list with
      | static => exact (List.append_nil _).symm
      | dynamic => exact (List.append_nil _).symm

theorem skipRules_add (found : Declarations) (directive : Directive) :
    (found.add directive).skipRules = found.skipRules ++ directive.asRule?.toList := by
  cases directive with
  | combo kind c =>
      cases kind with
      | static => exact (List.append_nil _).symm
      | dynamic => exact (List.append_nil _).symm
  | centroid slot => exact (List.append_nil _).symm
  | skip rule => rfl

theorem testBit_centroid_add (found : Declarations) (directive : Directive) (i : Nat) :
    (found.add directive).centroid.bits.toNat.testBit i = true ↔
      found.centroid.bits.toNat.testBit i = true ∨
        ∃ slot : Fin 32, directive = .centroid slot ∧ slot.val = i := by
  cases directive with
  | combo kind c =>
      cases kind with
      | static => simp [add]
      | dynamic => simp [add]
  | skip rule => simp [add]
  | centroid slot =>
      show (found.centroid.insert slot).bits.toNat.testBit i = true ↔ _
      rw [CentroidMask.testBit_insert, or_comm]
      simp

/-- The declarations are those of some directives, in order. -/
structure Gathers (directives : List Directive) (found : Declarations) : Prop where
  combos : ∀ list, found.combos list = directives.filterMap (asCombo? list)
  skipRules : found.skipRules = directives.filterMap asRule?
  centroid : ∀ i, found.centroid.bits.toNat.testBit i = true ↔
    ∃ slot : Fin 32, .centroid slot ∈ directives ∧ slot.val = i

/-- **One more directive** joins the list that it belongs to and leaves the others alone. -/
theorem Gathers.add {directives : List Directive} {found : Declarations} (h : Gathers directives found)
    (directive : Directive) : Gathers (directives ++ [directive]) (found.add directive) := by
  refine ⟨?_, ?_, ?_⟩
  · intro list
    rw [combos_add, h.combos, List.filterMap_append]
    rfl
  · rw [skipRules_add, h.skipRules, List.filterMap_append]
    rfl
  · intro i
    rw [testBit_centroid_add, h.centroid]
    constructor
    · rintro (⟨slot, hmem, rfl⟩ | ⟨slot, rfl, rfl⟩)
      · exact ⟨slot, List.mem_append_left _ hmem, rfl⟩
      · exact ⟨slot, List.mem_append_right _ List.mem_cons_self, rfl⟩
    · rintro ⟨slot, hmem, rfl⟩
      rcases List.mem_append.mp hmem with hmem | hlast
      · exact Or.inl ⟨slot, hmem, rfl⟩
      · exact Or.inr ⟨slot, (List.mem_singleton.mp hlast).symm, rfl⟩

/-- **What a list of directives amounts to.** Induction on the list from its end, where directives are
    added. -/
theorem gathers_foldl_add (directives : List Directive) : Gathers directives (directives.foldl add {}) := by
  induction directives using List.reverseRecOn with
  | nil =>
      refine ⟨fun list => by cases list <;> rfl, rfl, ?_⟩
      intro i
      show (0 : Nat).testBit i = true ↔ _
      rw [Nat.zero_testBit]
      simp
  | append_singleton directives directive ih =>
      rw [List.foldl_concat]
      exact ih.add directive

/-! ## All lines -/

variable {filter : Filter} {lines : List String} {found : Declarations}

/-- One more line adds what it declares, if it declares anything. -/
theorem addLine_eq_ok {d d' : Declarations} {line : String} :
    addLine filter d line = .ok d' ↔
      ∃ outcome, ofLine? filter line = .ok outcome ∧ d' = outcome.toList.foldl add d := by
  unfold addLine
  rw [except_map_eq_ok]
  constructor
  · rintro ⟨outcome, hline, rfl⟩
    refine ⟨outcome, hline, ?_⟩
    cases outcome with
    | none => rfl
    | some directive => rfl
  · rintro ⟨outcome, hline, rfl⟩
    refine ⟨outcome, hline, ?_⟩
    cases outcome with
    | none => rfl
    | some directive => rfl

/-- **The lines one by one.** The lines declare what the directives on them amount to, and a line is read
    without regard to the others. -/
theorem ofLines_eq_ok :
    ofLines filter lines = .ok found ↔
      ∃ outcomes, List.Forall₂ (fun line outcome => ofLine? filter line = .ok outcome) lines outcomes ∧
        found = (outcomes.flatMap Option.toList).foldl add {} := by
  unfold ofLines
  generalize ({} : Declarations) = start
  induction lines generalizing start with
  | nil =>
      constructor
      · intro h
        cases h
        exact ⟨[], .nil, rfl⟩
      · rintro ⟨outcomes, hread, rfl⟩
        cases hread
        rfl
  | cons line rest ih =>
      rw [List.foldlM_cons, except_bind_eq_ok]
      constructor
      · rintro ⟨next, hline, hrest⟩
        obtain ⟨outcome, hread, rfl⟩ := addLine_eq_ok.mp hline
        obtain ⟨outcomes, hothers, rfl⟩ := (ih _).mp hrest
        refine ⟨outcome :: outcomes, .cons hread hothers, ?_⟩
        rw [List.flatMap_cons, List.foldl_append]
      · rintro ⟨outcomes, hread, rfl⟩
        cases hread with
        | cons hline hothers =>
            refine ⟨_, addLine_eq_ok.mpr ⟨_, hline, rfl⟩, (ih _).mpr ⟨_, hothers, ?_⟩⟩
            rw [List.flatMap_cons, List.foldl_append]

/-- Each directive comes from a line. -/
theorem exists_line_of_mem {outcomes : List (Option Directive)} {directive : Directive}
    (hread : List.Forall₂ (fun line outcome => ofLine? filter line = .ok outcome) lines outcomes)
    (hmem : directive ∈ outcomes.flatMap Option.toList) :
    ∃ line ∈ lines, ofLine? filter line = .ok (some directive) := by
  induction hread with
  | nil => cases hmem
  | @cons line outcome rest outcomes hline _ ih =>
      rw [List.flatMap_cons, List.mem_append] at hmem
      rcases hmem with hhere | hlater
      · rw [Option.mem_toList] at hhere
        obtain rfl : outcome = some directive := hhere
        exact ⟨line, List.mem_cons_self, hline⟩
      · obtain ⟨other, hother, hreads⟩ := ih hlater
        exact ⟨other, List.mem_cons_of_mem _ hother, hreads⟩

/-- **Each combo comes from a line.** -/
theorem exists_line_of_mem_combos (h : ofLines filter lines = .ok found) {list : ComboKind} {c : Combo}
    (hc : c ∈ found.combos list) :
    ∃ line ∈ lines, ofLine? filter line = .ok (some (.combo list c)) := by
  obtain ⟨outcomes, hread, rfl⟩ := ofLines_eq_ok.mp h
  rw [(gathers_foldl_add _).combos, List.mem_filterMap] at hc
  obtain ⟨directive, hmem, hcombo⟩ := hc
  obtain rfl := asCombo?_eq_some.mp hcombo
  exact exists_line_of_mem hread hmem

end Declarations

end ShaderCombos
