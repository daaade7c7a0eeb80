import ShaderCombos.Text.Case

/-!
# `Proofs.Text.Lowercase` — what lower case does to a text

Names of shaders are compared and taken apart in lower case. Two things are needed of it. No character becomes a
slash, so a name stays a single segment of a path (`slash_notMem_lowerFrom`). And a text in lower case is in lower
case: it stays as it is (`lowerFrom_eq_self`), as every character in it is its own lower case
(`lowered_of_mem_lowerFrom`).

The second rests on the table: no letter that a run moves is moved on by another. That is checked run against run,
not letter against letter (`CaseRun.clears`).

## Contents
- **Slashes.** `slash_notMem_lowerFrom`.
- **The table.** `CaseRun.clears`, `lookupRuns_image`.
- **Lower case of lower case.** `Lowered`, `lowered_of_mem_lowerFrom`, `lowerFrom_eq_self`.
-/

namespace ShaderCombos.Text

/-! ## Slashes -/

/-- A number is the code of its character, or no character's. -/
theorem ofNat_cases (n : Nat) : Char.ofNat n = '\x00' ∨ (Char.ofNat n).toNat = n := by
  by_cases hvalid : n.isValidChar
  · exact Or.inr (congrArg Char.toNat (dif_pos hvalid : Char.ofNat n = Char.ofNatAux n hvalid))
  · exact Or.inl (dif_neg hvalid)

theorem eq_of_ofNat_eq_slash {n : Nat} (h : Char.ofNat n = '/') : n = 47 := by
  rcases ofNat_cases n with hnull | hcode
  · rw [hnull] at h
    exact absurd h (by decide)
  · rw [← hcode, h]
    rfl

/-- No run of letters moves onto the slash. -/
theorem slash_lt_first_add_distance : ∀ r ∈ lowerRuns, 47 < (r.first : Int) + r.distance := by
  decide +kernel

theorem slash_notMem_lowerChar {c : Char} (hc : c ≠ '/') : '/' ∉ lowerChar c := by
  unfold lowerChar
  split
  · decide
  · rw [List.mem_singleton]
    intro hslash
    have hcode := eq_of_ofNat_eq_slash hslash.symm
    cases hfound : lookupRuns lowerRuns c.toNat with
    | none =>
        rw [hfound] at hcode
        exact hc (Char.toNat_inj.mp hcode)
    | some image =>
        obtain ⟨r, hr, hlookup⟩ := List.exists_of_findSome?_eq_some hfound
        have habove := slash_lt_first_add_distance r hr
        unfold CaseRun.lookup at hlookup
        split at hlookup
        · next hcovers =>
          rw [hfound] at hcode
          simp only [Option.getD_some, Option.some.injEq] at hcode hlookup
          omega
        · cases hlookup

/-- **No letter becomes a slash in lower case.** -/
theorem slash_notMem_lowerFrom {before s : List Char} (hs : '/' ∉ s) : '/' ∉ lowerFrom before s := by
  induction s generalizing before with
  | nil => exact List.not_mem_nil
  | cons c rest ih =>
      rw [List.mem_cons, not_or] at hs
      unfold lowerFrom
      rw [List.mem_append, not_or]
      refine ⟨?_, ih hs.2⟩
      split
      · split <;> decide
      · exact slash_notMem_lowerChar (Ne.symm hs.1)

/-! ## The table -/

/-- Whether the images of one run are out of the reach of another: they lie before or behind it, or both go in
    steps of two and never meet. -/
def CaseRun.clears (r s : CaseRun) : Bool :=
  Nat.blt (r.last + r.distance).toNat s.first || Nat.blt s.last (r.first + r.distance).toNat ||
    ((Nat.beq r.first r.last || Nat.beq (r.step % 2) 0) && Nat.beq (s.step % 2) 0 &&
      Nat.beq (((r.first + r.distance).toNat + s.first) % 2) 1)

theorem all_clears : (lowerRuns.all fun r => lowerRuns.all r.clears) = true := by
  decide +kernel

/-- The capital I with a dot is no image either. -/
theorem image_ne_dotted : ∀ r ∈ lowerRuns,
    (r.last : Int) + r.distance < 0x130 ∨ 0x130 < (r.first : Int) + r.distance := by
  decide +kernel

theorem CaseRun.lookup_eq_some {r : CaseRun} {n image : Nat} (h : r.lookup n = some image) :
    r.first ≤ n ∧ n ≤ r.last ∧ (n - r.first) % r.step = 0 ∧ image = (n + r.distance).toNat := by
  unfold CaseRun.lookup at h
  split at h
  · next hcovers => exact ⟨hcovers.1, hcovers.2.1, hcovers.2.2, (Option.some.inj h).symm⟩
  · cases h

theorem mod_two_of_mod {n step : Nat} (h : n % step = 0) (hstep : step % 2 = 0) : n % 2 = 0 :=
  Nat.mod_eq_zero_of_dvd (Nat.dvd_trans (Nat.dvd_of_mod_eq_zero hstep) (Nat.dvd_of_mod_eq_zero h))

/-- Out of reach of a run, an image is not moved on by it. -/
theorem CaseRun.lookup_image {r s : CaseRun} {n image : Nat} (hclears : r.clears s = true)
    (habove : 47 < (r.first : Int) + r.distance) (h : r.lookup n = some image) : s.lookup image = none := by
  obtain ⟨hfirst, hlast, hstep, rfl⟩ := CaseRun.lookup_eq_some h
  cases hagain : s.lookup (n + r.distance).toNat with
  | none => rfl
  | some again =>
      exfalso
      obtain ⟨hfirst', hlast', hstep', -⟩ := CaseRun.lookup_eq_some hagain
      unfold CaseRun.clears at hclears
      simp only [Bool.or_eq_true, Bool.and_eq_true, Nat.blt_eq, Nat.beq_eq] at hclears
      rcases hclears with (hbefore | hbehind) | ⟨⟨hspaced, htwo⟩, hodd⟩
      · omega
      · omega
      · -- Both letters are an even number of steps behind the first of their runs, which is odd for the image.
        have heven' : ((n + r.distance).toNat - s.first) % 2 = 0 := mod_two_of_mod hstep' htwo
        have heven : (n - r.first) % 2 = 0 := by
          rcases hspaced with hsingle | hspaced
          · omega
          · exact mod_two_of_mod hstep hspaced
        omega

/-- **No letter is moved twice.** -/
theorem lookupRuns_image {n image : Nat} (h : lookupRuns lowerRuns n = some image) :
    lookupRuns lowerRuns image = none ∧ image ≠ 0x130 := by
  obtain ⟨r, hr, hlookup⟩ := List.exists_of_findSome?_eq_some h
  constructor
  · refine List.findSome?_eq_none_iff.mpr fun s hs => ?_
    have hclears : r.clears s = true := List.all_eq_true.mp (List.all_eq_true.mp all_clears r hr) s hs
    exact CaseRun.lookup_image hclears (slash_lt_first_add_distance r hr) hlookup
  · obtain ⟨hfirst, hlast, -, rfl⟩ := CaseRun.lookup_eq_some hlookup
    have hdotted := image_ne_dotted r hr
    omega

/-! ## Lower case of lower case -/

/-- A character is its own lower case, wherever it stands. -/
def Lowered (c : Char) : Prop :=
  c ≠ 'Σ' ∧ lowerChar c = [c]

instance (c : Char) : Decidable (Lowered c) :=
  inferInstanceAs (Decidable (_ ∧ _))

/-- A character that no run moves. -/
theorem lowered_of_lookupRuns {c : Char} (h : lookupRuns lowerRuns c.toNat = none) (hdotted : c ≠ 'İ') :
    Lowered c := by
  constructor
  · rintro rfl
    exact absurd h (by decide +kernel)
  · unfold lowerChar
    rw [if_neg hdotted, h, Option.getD_none, Char.ofNat_toNat]

theorem lowered_of_mem_lowerChar {c d : Char} (h : d ∈ lowerChar c) : Lowered d := by
  unfold lowerChar at h
  split at h
  · simp only [List.mem_cons, List.not_mem_nil, or_false] at h
    rcases h with rfl | rfl
    · decide +kernel
    · decide +kernel
  · next hdotted =>
    rw [List.mem_singleton] at h
    cases hfound : lookupRuns lowerRuns c.toNat with
    | none =>
        rw [hfound, Option.getD_none, Char.ofNat_toNat] at h
        subst h
        exact lowered_of_lookupRuns hfound hdotted
    | some image =>
        rw [hfound, Option.getD_some] at h
        subst h
        obtain ⟨hmoved, hdotted'⟩ := lookupRuns_image hfound
        rcases ofNat_cases image with hnull | hcode
        · rw [hnull]
          decide +kernel
        · refine lowered_of_lookupRuns (by rw [hcode]; exact hmoved) fun hsame => hdotted' ?_
          rw [← hcode, hsame]
          rfl

/-- **Every character of a text in lower case is its own lower case.** -/
theorem lowered_of_mem_lowerFrom {before s : List Char} {c : Char} (h : c ∈ lowerFrom before s) : Lowered c := by
  induction s generalizing before with
  | nil => cases h
  | cons first rest ih =>
      unfold lowerFrom at h
      rcases List.mem_append.mp h with himage | hrest
      · split at himage
        · split at himage
          all_goals
            obtain rfl := List.mem_singleton.mp himage
            decide +kernel
        · exact lowered_of_mem_lowerChar himage
      · exact ih hrest

/-- **A text of such characters is in lower case already.** -/
theorem lowerFrom_eq_self {before s : List Char} (h : ∀ c ∈ s, Lowered c) : lowerFrom before s = s := by
  induction s generalizing before with
  | nil => rfl
  | cons c rest ih =>
      obtain ⟨⟨hsigma, hlower⟩, hrest⟩ := List.forall_mem_cons.mp h
      unfold lowerFrom
      rw [if_neg hsigma, hlower, ih hrest]
      rfl

end ShaderCombos.Text
