import Mathlib
import ShaderCombos.Header
import ShaderCombos.Proofs.IndexClass.Kept
import ShaderCombos.Proofs.Text.Lines

/-!
# `Proofs.Header.Classes` — the two classes of a header

The text of a header is made of blocks of lines, and two of the blocks are the index classes of the static and of
the dynamic combos. What is said of the classes of a header is said of these two.

## Contents
- **Blocks.** `Emits`, `emits_of_text`.
- **Their layouts.** `indexClass_eq_ok`, `Emits.exists_indexClass`.
-/

namespace ShaderCombos.Header

variable {u : ShaderUnit} {t : String} {static dynamic k : IndexClass} {kind : ComboKind} {seed : Nat}

/-! ## Blocks -/

/-- The two classes that a header holds. -/
structure Emits (u : ShaderUnit) (text : String) (static dynamic : IndexClass) : Prop where
  seeded : ∃ seed, staticSeed u = .ok seed ∧ indexClass u .static seed = .ok static
  unseeded : indexClass u .dynamic 1 = .ok dynamic
  written : ∃ before between after,
    text = before ++ static.text ++ between ++ dynamic.text ++ after

/-- The text of blocks of lines is the text of one block after another. -/
theorem unlines_blocks (a b c d e f : List String) :
    Text.unlines (a ++ b ++ c ++ d ++ e ++ f) = Text.unlines a ++ Text.unlines b ++ Text.unlines c
      ++ Text.unlines d ++ (Text.unlines e ++ Text.unlines f) := by
  rw [Text.unlines_append, Text.unlines_append, Text.unlines_append, Text.unlines_append,
    Text.unlines_append, String.append_assoc]

/-- **A header holds two classes**, one for each kind of combo. -/
theorem emits_of_text (h : text u = .ok t) : ∃ static dynamic, Emits u t static dynamic := by
  obtain ⟨ls, hlines, htext⟩ := except_bind_eq_ok.mp h
  obtain ⟨seed, hseed, hrest⟩ := except_bind_eq_ok.mp hlines
  obtain ⟨static, hstatic, hrest⟩ := except_bind_eq_ok.mp hrest
  obtain ⟨dynamic, hdynamic, hrest⟩ := except_bind_eq_ok.mp hrest
  obtain rfl := Except.ok.inj htext
  obtain rfl := Except.ok.inj hrest
  exact ⟨static, dynamic, ⟨seed, hseed, hstatic⟩, hdynamic, _, _, _, unlines_blocks _ _ _ _ _ _⟩

/-! ## Their layouts -/

/-- A class of a unit is the class of the unit's combos of that kind. -/
theorem indexClass_eq_ok (h : indexClass u kind seed = .ok k) :
    k.combos = u.combos kind ∧ Layout.ofCombos k.combos seed = .ok k.layout :=
  IndexClass.of_ofCombos h

/-- The static combos of a unit start from a positive scale. -/
theorem staticSeed_pos (h : staticSeed u = .ok seed) : 0 < seed := by
  obtain ⟨layout, hlayout, hseed⟩ := except_bind_eq_ok.mp h
  obtain rfl := Except.ok.inj hseed
  obtain ⟨hranges, hplace⟩ := Layout.ofCombos_eq (Attempt.ofFaulty_eq_ok.mp hlayout)
  rw [hplace]
  exact Layout.volume_pos hranges

/-- **Each class of a header** is a class of the unit, and its scales start from a positive one. -/
theorem Emits.exists_indexClass (h : Emits u t static dynamic) :
    ∀ k ∈ [static, dynamic], ∃ kind seed, 0 < seed ∧ indexClass u kind seed = .ok k := by
  intro k hk
  obtain ⟨seed, hseed, hstatic⟩ := h.seeded
  rcases List.mem_pair.mp hk with rfl | rfl
  · exact ⟨.static, seed, staticSeed_pos hseed, hstatic⟩
  · exact ⟨.dynamic, 1, Nat.one_pos, h.unseeded⟩

end ShaderCombos.Header
