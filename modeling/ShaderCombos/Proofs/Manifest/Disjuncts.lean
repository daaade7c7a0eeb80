import Mathlib
import ShaderCombos.Manifest.Basic

/-!
# `Proofs.Manifest.Disjuncts` — skip rules stay apart in their predicate

A manifest holds the skip rules of a shader as one predicate: each rule in parentheses, with `||` in between. A
rule is any text, so it may hold `||` and parentheses of its own. If every rule closes the parentheses that it
opens, nothing of a rule gets out of the pair around it. The predicate is then cut at its outer `||` into the
very rules that it was put together from (`combinedSkip_keeps_apart`).

The argument is a count of open parentheses. Behind the parenthesis in front of a rule at least one is open until
the one behind the rule (`disjunctsFrom_append`), so no `||` in between is an outer one.

## Contents
- **Balance.** `Balanced` with `append`, `enclosed` and `of_notMem`; it is decidable.
- **Outer disjuncts.** `disjuncts`, and that they make up the text (`intercalate_disjunctsFrom`).
- **Combined rules.** `toList_combinedSkip_cons`, `balanced_combinedSkip`, `disjuncts_combinedSkip`,
  `combinedSkip_keeps_apart`.
-/

namespace ShaderCombos

/-! ## Balance -/

/-- A text closes the parentheses that it opens: no beginning closes more than it opens, and the whole text
    closes as many. -/
structure Balanced (s : List Char) : Prop where
  opened : ∀ t, t <+: s → t.count ')' ≤ t.count '('
  closed : s.count ')' = s.count '('

theorem balanced_iff {s : List Char} :
    Balanced s ↔ (∀ t ∈ s.inits, t.count ')' ≤ t.count '(') ∧ s.count ')' = s.count '(' := by
  constructor
  · intro h
    exact ⟨fun t ht => h.opened t ((List.mem_inits t s).mp ht), h.closed⟩
  · rintro ⟨hopened, hclosed⟩
    exact ⟨fun t ht => hopened t ((List.mem_inits t s).mpr ht), hclosed⟩

instance (s : List Char) : Decidable (Balanced s) :=
  decidable_of_iff _ balanced_iff.symm

namespace Balanced

variable {a b s : List Char}

theorem append (ha : Balanced a) (hb : Balanced b) : Balanced (a ++ b) := by
  refine ⟨fun t ht => ?_, ?_⟩
  · -- A beginning of both texts ends within the first, or takes up the first and ends within the second.
    rcases List.prefix_or_prefix_of_prefix ht (List.prefix_append a b) with hfirst | ⟨u, rfl⟩
    · exact ha.opened t hfirst
    · have hrest := hb.opened u ((List.prefix_append_right_inj a).mp ht)
      rw [List.count_append, List.count_append, ha.closed]
      omega
  · rw [List.count_append, List.count_append, ha.closed, hb.closed]

theorem of_notMem (hopen : '(' ∉ s) (hclose : ')' ∉ s) : Balanced s := by
  refine ⟨fun t ht => ?_, ?_⟩
  · rw [List.count_eq_zero_of_not_mem fun h => hclose (ht.subset h)]
    exact Nat.zero_le _
  · rw [List.count_eq_zero_of_not_mem hopen, List.count_eq_zero_of_not_mem hclose]

/-- A pair of parentheses around a text that closes its own. -/
theorem enclosed (h : Balanced s) : Balanced ('(' :: s ++ [')']) := by
  refine ⟨fun t ht => ?_, ?_⟩
  · rcases List.prefix_concat_iff.mp ht with rfl | hwithin
    · simp [h.closed]
    · rcases List.prefix_cons_iff.mp hwithin with rfl | ⟨u, rfl, hu⟩
      · exact Nat.le_refl _
      · have hinside := h.opened u hu
        simp only [List.count_cons_self, List.count_cons_of_ne (show '(' ≠ ')' by decide)]
        omega
  · simp [h.closed]

end Balanced

/-! ## Outer disjuncts -/

/-- How many parentheses are open behind a character. -/
def openBehind (depth : Nat) (c : Char) : Nat :=
  if c = '(' then depth + 1 else if c = ')' then depth - 1 else depth

/-- What stands between the outer `||` of a text that is read with so many parentheses open. -/
def disjunctsFrom : Nat → List Char → List (List Char)
  | _, [] => [[]]
  | 0, '|' :: '|' :: rest => [] :: disjunctsFrom 0 rest
  | depth, c :: rest => (disjunctsFrom (openBehind depth c) rest).modifyHead (c :: ·)

/-- What stands between those `||` of a text that are outside all of its parentheses. -/
def disjuncts (s : String) : List String :=
  (disjunctsFrom 0 s.toList).map String.ofList

/-- A character that opens no outer `||` belongs to the disjunct that goes on behind it. -/
theorem disjunctsFrom_cons {depth : Nat} {c : Char} {rest : List Char} (h : depth ≠ 0 ∨ c ≠ '|') :
    disjunctsFrom depth (c :: rest) =
      (disjunctsFrom (openBehind depth c) rest).modifyHead (c :: ·) := by
  rw [disjunctsFrom]
  rintro more hdepth hbar -
  exact h.elim (fun hopen => hopen hdepth) (fun hother => hother hbar)

theorem disjunctsFrom_ne_nil (depth : Nat) (s : List Char) : disjunctsFrom depth s ≠ [] := by
  fun_induction disjunctsFrom depth s with
  | case1 => exact List.cons_ne_nil _ _
  | case2 => exact List.cons_ne_nil _ _
  | case3 depth c rest _ ih =>
      obtain ⟨first, others, hsome⟩ := List.exists_cons_of_ne_nil ih
      rw [hsome]
      exact List.cons_ne_nil _ _

/-- **Nothing is lost.** The disjuncts with `||` in between are the text. -/
theorem intercalate_disjunctsFrom (depth : Nat) (s : List Char) :
    ['|', '|'].intercalate (disjunctsFrom depth s) = s := by
  fun_induction disjunctsFrom depth s with
  | case1 => rfl
  | case2 rest ih =>
      rw [List.intercalate_cons_of_ne_nil (disjunctsFrom_ne_nil 0 rest), ih]
      rfl
  | case3 depth c rest _ ih =>
      obtain ⟨first, others, hsome⟩ :=
        List.exists_cons_of_ne_nil (disjunctsFrom_ne_nil (openBehind depth c) rest)
      rw [hsome] at ih ⊢
      cases others with
      | nil =>
          rw [List.intercalate_singleton] at ih
          rw [List.modifyHead_cons, List.intercalate_singleton, ih]
      | cons second others =>
          rw [List.intercalate_cons_cons] at ih
          rw [List.modifyHead_cons, List.intercalate_cons_cons, List.cons_append, List.cons_append, ih]

/-- What a character opens or closes counts for all that is read behind it. -/
theorem openBehind_add_count {depth : Nat} (h : depth ≠ 0) (c : Char) (t : List Char) :
    openBehind depth c + t.count '(' + (c :: t).count ')' = depth + (c :: t).count '(' + t.count ')' := by
  have hdiffer : ')' ≠ '(' := by decide
  unfold openBehind
  by_cases hopens : c = '('
  · subst hopens
    rw [if_pos rfl, List.count_cons_self, List.count_cons_of_ne hdiffer.symm]
    omega
  · by_cases hcloses : c = ')'
    · subst hcloses
      rw [if_neg hopens, if_pos rfl, List.count_cons_self, List.count_cons_of_ne hdiffer]
      omega
    · rw [if_neg hopens, if_neg hcloses, List.count_cons_of_ne hopens, List.count_cons_of_ne hcloses]

/-- **Where parentheses stay open, no `||` is an outer one.** A text with a parenthesis open all along belongs
    to one disjunct as a whole. By induction on the text, for any number of open parentheses. -/
theorem disjunctsFrom_append {depth : Nat} {s : List Char} (rest : List Char)
    (h : ∀ t, t <+: s → t.count ')' < depth + t.count '(') :
    disjunctsFrom depth (s ++ rest) =
      (disjunctsFrom (depth + s.count '(' - s.count ')') rest).modifyHead (s ++ ·) := by
  induction s generalizing depth with
  | nil =>
      obtain ⟨first, others, hsome⟩ := List.exists_cons_of_ne_nil (disjunctsFrom_ne_nil depth rest)
      simp [hsome]
  | cons c s ih =>
      have hopen : depth ≠ 0 := by
        have hstart := h [] List.nil_prefix
        simpa [Nat.pos_iff_ne_zero] using hstart
      have hopenBehind : ∀ t, t <+: s → t.count ')' < openBehind depth c + t.count '(' := by
        intro t ht
        have hlonger := h (c :: t) (List.cons_prefix_cons.mpr ⟨rfl, ht⟩)
        have hcount := openBehind_add_count hopen c t
        omega
      have hend : openBehind depth c + s.count '(' - s.count ')'
          = depth + (c :: s).count '(' - (c :: s).count ')' := by
        have hcount := openBehind_add_count hopen c s
        omega
      rw [List.cons_append, disjunctsFrom_cons (Or.inl hopen), ih hopenBehind, hend]
      obtain ⟨first, others, hsome⟩ := List.exists_cons_of_ne_nil (disjunctsFrom_ne_nil _ rest)
      rw [hsome]
      rfl

/-- A text in parentheses that closes its own is the beginning of one disjunct. -/
theorem disjunctsFrom_enclosed {s : List Char} (h : Balanced s) (rest : List Char) :
    disjunctsFrom 0 ('(' :: s ++ [')'] ++ rest) =
      (disjunctsFrom 0 rest).modifyHead ('(' :: s ++ [')'] ++ ·) := by
  have hinside : disjunctsFrom 1 (s ++ ')' :: rest) =
      (disjunctsFrom 1 (')' :: rest)).modifyHead (s ++ ·) := by
    rw [disjunctsFrom_append]
    · rw [h.closed, Nat.add_sub_cancel]
    · intro t ht
      have hopened := h.opened t ht
      omega
  have hclose : disjunctsFrom 1 (')' :: rest) = (disjunctsFrom 0 rest).modifyHead (')' :: ·) :=
    disjunctsFrom_cons (Or.inl Nat.one_ne_zero)
  have hopen : disjunctsFrom 0 ('(' :: (s ++ ')' :: rest))
      = (disjunctsFrom 1 (s ++ ')' :: rest)).modifyHead ('(' :: ·) :=
    disjunctsFrom_cons (Or.inr (by decide))
  obtain ⟨first, others, hsome⟩ := List.exists_cons_of_ne_nil (disjunctsFrom_ne_nil 0 rest)
  rw [List.cons_append, List.cons_append, List.append_assoc, List.singleton_append, hopen, hinside, hclose,
    hsome]
  simp

/-! ## Combined rules -/

theorem toList_enclosed (r : String) : ("(" ++ r ++ ")").toList = '(' :: r.toList ++ [')'] := by
  rw [String.toList_append, String.toList_append]
  rfl

theorem combinedSkip_singleton (r : String) : combinedSkip [r] = "(" ++ r ++ ")" := by
  unfold combinedSkip
  rw [String.intercalate_singleton]

/-- The first rule in parentheses, then `||`, then the predicate of the other rules. -/
theorem toList_combinedSkip_cons (r : String) {rules : List String} (h : rules ≠ []) :
    (combinedSkip (r :: rules)).toList =
      '(' :: r.toList ++ [')'] ++ (['|', '|'] ++ (combinedSkip rules).toList) := by
  have hmore : rules.map String.toList ≠ [] := by
    simpa using h
  unfold combinedSkip
  simp only [String.toList_append, String.toList_intercalate, List.map_cons,
    List.intercalate_cons_of_ne_nil hmore]
  simp

section

variable {rules : List String}

/-- **The predicate closes what it opens** if its rules do. -/
theorem balanced_combinedSkip (hsome : rules ≠ []) (hbalanced : ∀ r ∈ rules, Balanced r.toList) :
    Balanced (combinedSkip rules).toList := by
  induction rules with
  | nil => exact absurd rfl hsome
  | cons r rules ih =>
      obtain ⟨hr, hrest⟩ := List.forall_mem_cons.mp hbalanced
      cases rules with
      | nil =>
          rw [combinedSkip_singleton, toList_enclosed]
          exact hr.enclosed
      | cons next rules =>
          have hmore : next :: rules ≠ [] := List.cons_ne_nil next rules
          have hbars : Balanced ['|', '|'] := .of_notMem (by decide) (by decide)
          rw [toList_combinedSkip_cons r hmore]
          exact hr.enclosed.append (hbars.append (ih hmore hrest))

/-- **The outer disjuncts of the predicate are the rules**, each in its parentheses. By induction on the rules:
    the first one ends where the first outer `||` stands. -/
theorem disjuncts_combinedSkip (hsome : rules ≠ []) (hbalanced : ∀ r ∈ rules, Balanced r.toList) :
    disjuncts (combinedSkip rules) = rules.map fun r => "(" ++ r ++ ")" := by
  unfold disjuncts
  induction rules with
  | nil => exact absurd rfl hsome
  | cons r rules ih =>
      obtain ⟨hr, hrest⟩ := List.forall_mem_cons.mp hbalanced
      have hfirst : String.ofList ('(' :: r.toList ++ [')']) = "(" ++ r ++ ")" := by
        rw [← toList_enclosed, String.ofList_toList]
      cases rules with
      | nil =>
          have hread := disjunctsFrom_enclosed hr []
          rw [List.append_nil] at hread
          rw [combinedSkip_singleton, toList_enclosed, hread, List.map_singleton, ← hfirst]
          simp [disjunctsFrom]
      | cons next rules =>
          have hmore : next :: rules ≠ [] := List.cons_ne_nil next rules
          have hbars (rest : List Char) : disjunctsFrom 0 (['|', '|'] ++ rest) = [] :: disjunctsFrom 0 rest := by
            rw [List.cons_append, List.singleton_append, disjunctsFrom]
          rw [toList_combinedSkip_cons r hmore, disjunctsFrom_enclosed hr, hbars, List.modifyHead_cons,
            List.append_nil, List.map_cons, ih hmore hrest, hfirst]
          rfl

/-- Rules are told from each other in their parentheses. -/
theorem enclosed_injective : Function.Injective fun r : String => "(" ++ r ++ ")" := by
  intro r r' h
  have hchars := congrArg String.toList h
  simp only [toList_enclosed, List.cons_append, List.cons.injEq, true_and, List.append_cancel_right_eq] at hchars
  exact String.toList_inj.mp hchars

/-- **Skip rules stay apart.** If every rule closes the parentheses that it opens, the predicate does so too, its
    outer disjuncts are the rules in order, each in one pair of parentheses, and no other such rules give the
    same predicate. -/
theorem combinedSkip_keeps_apart (hsome : rules ≠ []) (hbalanced : ∀ r ∈ rules, Balanced r.toList) :
    Balanced (combinedSkip rules).toList ∧
      disjuncts (combinedSkip rules) = rules.map (fun r => "(" ++ r ++ ")") ∧
        ∀ others : List String, others ≠ [] → (∀ r ∈ others, Balanced r.toList) →
          combinedSkip others = combinedSkip rules → others = rules := by
  refine ⟨balanced_combinedSkip hsome hbalanced, disjuncts_combinedSkip hsome hbalanced, ?_⟩
  intro others hothers hbalanced' hsame
  have hread := disjuncts_combinedSkip hothers hbalanced'
  rw [hsame, disjuncts_combinedSkip hsome hbalanced] at hread
  exact enclosed_injective.list_map hread.symm

-- A rule that closes more than it opens lets its `||` out.
example : combinedSkip ["$A)||($B"] = combinedSkip ["$A", "$B"] := by decide

theorem combinedSkip_keeps_apart_inner_bars :
    Balanced "($A||($B&&$C))||()||($D)".toList ∧
      disjuncts "($A||($B&&$C))||()||($D)" = ["($A||($B&&$C))", "()", "($D)"] :=
  have h := @combinedSkip_keeps_apart ["$A||($B&&$C)", "", "$D"] (by decide) (by decide)
  ⟨h.1, h.2.1⟩

end

end ShaderCombos
