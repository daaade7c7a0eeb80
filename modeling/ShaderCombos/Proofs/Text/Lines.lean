import Mathlib
import ShaderCombos.Text.Lines

/-!
# `Proofs.Text.Lines` — generated lines in a text

What is generated is written line by line, and a reader splits the text at its line feeds. Lines that hold no
line feed are found again as they were written. Other lines are found in parts, and do not disturb what stands
behind them.

## Contents
- **Writing lines.** `toList_unlines`, `unlines_append`.
- **Finding lines.** `splitOn_unlines_append`, `exists_splitOn_unlines_append`, `length_splitOn`.
- **Joined texts.** `lineFeed_notMem_append_iff`, `lineFeed_notMem_intercalate`.
-/

namespace ShaderCombos.Text

variable {ls : List String}

/-! ## Writing lines -/

theorem toList_unlines (ls : List String) :
    (unlines ls).toList = ls.flatMap fun line => line.toList ++ ['\n'] := by
  unfold unlines
  rw [String.toList_join, List.flatMap_map]
  congr 1
  funext line
  exact String.toList_append

theorem unlines_append (a b : List String) : unlines (a ++ b) = unlines a ++ unlines b := by
  unfold unlines
  rw [List.map_append, String.join_append]

/-! ## Finding lines -/

/-- Lines without line feeds are found again in front of any text. -/
theorem splitOn_unlines_append (h : ∀ line ∈ ls, '\n' ∉ line.toList) (rest : List Char) :
    ((unlines ls).toList ++ rest).splitOn '\n' = ls.map String.toList ++ rest.splitOn '\n' := by
  rw [toList_unlines]
  induction ls with
  | nil => rfl
  | cons line ls ih =>
      have hline : '\n' ∉ line.toList := h line List.mem_cons_self
      rw [List.flatMap_cons, List.append_assoc, List.append_assoc, List.singleton_append,
        List.splitOn_append_cons_self_of_not_mem hline, ih fun l hl => h l (List.mem_cons_of_mem _ hl),
        List.map_cons, List.cons_append]

/-- Any lines leave the lines behind them alone. -/
theorem exists_splitOn_unlines_append (ls : List String) (rest : List Char) :
    ∃ front, ((unlines ls).toList ++ rest).splitOn '\n' = front ++ rest.splitOn '\n' := by
  rw [toList_unlines]
  induction ls with
  | nil => exact ⟨[], rfl⟩
  | cons line ls ih =>
      obtain ⟨front, hfront⟩ := ih
      refine ⟨line.toList.splitOn '\n' ++ front, ?_⟩
      rw [List.flatMap_cons, List.append_assoc, List.append_assoc, List.singleton_append,
        List.splitOn_append_cons_self, hfront, List.append_assoc]

/-- A text has one line more than line feeds. -/
theorem length_splitOn (s : List Char) : (s.splitOn '\n').length = s.count '\n' + 1 := by
  induction s with
  | nil => rfl
  | cons c s ih =>
      rw [List.splitOn_cons_eq_if_modifyHead]
      by_cases hc : c = '\n'
      · subst hc
        rw [if_pos (beq_self_eq_true _), List.length_cons, ih, List.count_cons_self]
      · rw [if_neg (by simpa using hc), List.length_modifyHead, ih, List.count_cons_of_ne hc]

/-! ## Joined texts -/

theorem lineFeed_notMem_append_iff {a b : String} :
    '\n' ∉ (a ++ b).toList ↔ '\n' ∉ a.toList ∧ '\n' ∉ b.toList := by
  rw [String.toList_append, List.mem_append, not_or]

/-- Texts without line feeds, joined by one without, hold none. -/
theorem lineFeed_notMem_intercalate {separator : String} {parts : List String}
    (hseparator : '\n' ∉ separator.toList) (hparts : ∀ part ∈ parts, '\n' ∉ part.toList) :
    '\n' ∉ (String.intercalate separator parts).toList := by
  rw [String.toList_intercalate]
  induction parts with
  | nil => exact List.not_mem_nil
  | cons first parts ih =>
      have hfirst : '\n' ∉ first.toList := hparts first List.mem_cons_self
      cases parts with
      | nil => simpa using hfirst
      | cons second parts =>
          have hrest := ih fun part hpart => hparts part (List.mem_cons_of_mem _ hpart)
          rw [List.map_cons, List.map_cons, List.intercalate_cons_cons, ← List.map_cons, List.mem_append,
            List.mem_append]
          rintro ((h | h) | h)
          · exact hfirst h
          · exact hseparator h
          · exact hrest h

end ShaderCombos.Text
