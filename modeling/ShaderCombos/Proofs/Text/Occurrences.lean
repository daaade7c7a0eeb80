import Mathlib
import ShaderCombos.Proofs.Text.Marks

/-!
# `Proofs.Text.Occurrences` — the marks that are read are the marks that are there

A text is read from the left, and once a mark is taken the reading goes on behind it. A mark that begins
inside another one would be passed over. Marks in brackets cannot do that: what a mark takes holds no
bracket but its first character, so the next mark begins behind it at the earliest. For such marks the
reading finds every occurrence, wherever in the text it stands (`mem_marks_iff`).

## Contents
- **Marks that do not overlap.** `Enclosed`.
- **Reading on.** `marks_cons_of_none`, `marks_cons_of_some`.
- **Occurrences.** `mem_marks_iff`, and `hasMark_iff_exists_mem`.
- **The first mark.** `exists_beforeMark_append`: what is cut off in front of it.
-/

namespace ShaderCombos.Text

variable {α : Type} {mark : Mark α} {s : List Char} {meaning : α}

/-- What a mark takes begins with a bracket and holds no other. -/
def Enclosed (mark : Mark α) : Prop :=
  ∀ s meaning length, mark s = some (meaning, length) →
    ∃ inner rest, s = '[' :: (inner ++ rest) ∧ length = inner.length + 1 ∧ '[' ∉ inner

/-! ## Reading on -/

theorem marks_cons_of_none {c : Char} (h : mark (c :: s) = none) :
    marks mark (c :: s) = marks mark s := by
  unfold marks
  rw [pieces_cons_of_none h]
  rfl

theorem marks_cons_of_some {c : Char} {length : Nat} (h : mark (c :: s) = some (meaning, length)) :
    marks mark (c :: s) = meaning :: marks mark (s.drop (length - 1)) := by
  have hpieces : pieces mark (c :: s) = .mark meaning :: piecesFrom mark (length - 1) s := by
    unfold pieces
    rw [piecesFrom, h]
  unfold marks
  rw [hpieces, piecesFrom_eq_pieces_drop]
  rfl

/-! ## Occurrences -/

/-- What is read stands in the text. -/
theorem exists_of_mem_marks (h : meaning ∈ marks mark s) :
    ∃ before after length, s = before ++ after ∧ mark after = some (meaning, length) := by
  induction hn : s.length using Nat.strong_induction_on generalizing s with
  | _ n ih =>
    cases s with
    | nil => cases h
    | cons c s =>
        rw [List.length_cons] at hn
        cases hmark : mark (c :: s) with
        | none =>
            rw [marks_cons_of_none hmark] at h
            obtain ⟨before, after, length, rfl, hlater⟩ := ih s.length (by omega) h rfl
            exact ⟨c :: before, after, length, rfl, hlater⟩
        | some taken =>
            obtain ⟨first, length⟩ := taken
            rw [marks_cons_of_some hmark, List.mem_cons] at h
            rcases h with rfl | h
            · exact ⟨[], c :: s, length, rfl, hmark⟩
            · -- What is skipped over joins what stands before the occurrence.
              have hshorter : (s.drop (length - 1)).length < n := by
                rw [List.length_drop]
                omega
              obtain ⟨before, after, later, hrest, hlater⟩ := ih _ hshorter h rfl
              refine ⟨c :: (s.take (length - 1) ++ before), after, later, ?_, hlater⟩
              rw [List.cons_append, List.append_assoc, ← hrest, List.take_append_drop]

/-- A text without brackets cannot reach beyond the bracket of another. -/
theorem exists_append_of_bracket_notMem {inner rest before after : List Char} (h : '[' ∉ inner)
    (heq : before ++ '[' :: after = inner ++ rest) : ∃ between, before = inner ++ between := by
  rcases List.append_eq_append_iff.mp heq with ⟨more, hinner, hrest⟩ | ⟨more, hbefore, -⟩
  · cases more with
    | nil => exact ⟨[], by rw [hinner, List.append_nil, List.append_nil]⟩
    | cons c more =>
        have hbracket : '[' ∈ inner := by
          rw [hinner, (List.cons.inj hrest).1]
          exact List.mem_append_right _ List.mem_cons_self
        exact absurd hbracket h
  · exact ⟨more, hbefore⟩

/-- What stands in the text is read: a mark further in front ends before it. -/
theorem mem_marks_of_append (h : Enclosed mark) {before after : List Char} {length : Nat}
    (hmark : mark ('[' :: after) = some (meaning, length)) :
    meaning ∈ marks mark (before ++ '[' :: after) := by
  induction hn : before.length using Nat.strong_induction_on generalizing before with
  | _ n ih =>
    cases before with
    | nil =>
        rw [List.nil_append, marks_cons_of_some hmark]
        exact List.mem_cons_self
    | cons c before =>
        rw [List.length_cons] at hn
        rw [List.cons_append]
        cases hfront : mark (c :: (before ++ '[' :: after)) with
        | none =>
            rw [marks_cons_of_none hfront]
            exact ih before.length (by omega) rfl
        | some taken =>
            obtain ⟨first, length'⟩ := taken
            obtain ⟨inner, rest, htext, rfl, hinner⟩ := h _ _ _ hfront
            obtain ⟨between, rfl⟩ :=
              exists_append_of_bracket_notMem hinner (List.cons.inj htext).2
            rw [List.length_append] at hn
            rw [marks_cons_of_some hfront, Nat.add_sub_cancel, List.append_assoc, List.drop_left]
            exact List.mem_cons_of_mem _ (ih between.length (by omega) rfl)

/-- **Marks in brackets are read wherever they stand.** -/
theorem mem_marks_iff (h : Enclosed mark) :
    meaning ∈ marks mark s ↔
      ∃ before after length, s = before ++ after ∧ mark after = some (meaning, length) := by
  constructor
  · exact exists_of_mem_marks
  · rintro ⟨before, after, length, rfl, hmark⟩
    obtain ⟨inner, rest, rfl, -, -⟩ := h _ _ _ hmark
    exact mem_marks_of_append h hmark

theorem hasMark_iff_exists_mem : hasMark mark s = true ↔ ∃ meaning, meaning ∈ marks mark s := by
  unfold hasMark
  rw [Bool.not_eq_true', List.isEmpty_eq_false_iff_exists_mem]

/-! ## The first mark -/

theorem beforeMark_cons_of_none {c : Char} (h : mark (c :: s) = none) :
    beforeMark mark (c :: s) = c :: beforeMark mark s :=
  (Passes.cons (p := []) h Passes.nil).beforeMark

theorem beforeMark_cons_of_some {c : Char} {taken : α × Nat} (h : mark (c :: s) = some taken) :
    beforeMark mark (c :: s) = [] := by
  unfold beforeMark pieces
  rw [piecesFrom, h]
  rfl

/-- **A text up to its first mark.** What follows it is nothing, or begins with a mark, and no mark begins
further in front. -/
theorem exists_beforeMark_append (mark : Mark α) (s : List Char) :
    ∃ back, s = beforeMark mark s ++ back ∧ (back = [] ∨ ∃ taken, mark back = some taken) ∧
      ∀ before after, beforeMark mark s = before ++ after → after ≠ [] → mark (after ++ back) = none := by
  induction s with
  | nil =>
      refine ⟨[], rfl, Or.inl rfl, ?_⟩
      intro before after heq hne
      exact absurd (List.append_eq_nil_iff.mp heq.symm).2 hne
  | cons c s ih =>
      cases hmark : mark (c :: s) with
      | none =>
          obtain ⟨back, hsplit, hback, hfree⟩ := ih
          rw [beforeMark_cons_of_none hmark]
          refine ⟨back, congrArg (c :: ·) hsplit, hback, ?_⟩
          intro before after heq hne
          cases before with
          | nil =>
              rw [List.nil_append] at heq
              rw [← heq, List.cons_append, ← hsplit]
              exact hmark
          | cons d before => exact hfree before after (List.cons.inj heq).2 hne
      | some taken =>
          rw [beforeMark_cons_of_some hmark]
          refine ⟨c :: s, rfl, Or.inr ⟨taken, hmark⟩, ?_⟩
          intro before after heq hne
          exact absurd (List.append_eq_nil_iff.mp heq.symm).2 hne

end ShaderCombos.Text
