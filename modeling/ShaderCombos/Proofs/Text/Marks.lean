import ShaderCombos.Text.Pieces

/-!
# `Proofs.Text.Marks` — reading marks from the left

A text with marks is read as pieces, and everything that is asked of it is asked of its pieces. So it is
enough to know how the pieces begin: a beginning *passes* if all its characters are plain, and it is
*taken* if it is one mark. A text that is put together from beginnings of these two sorts is then read
beginning by beginning.

## Contents
- **Literals.** `dropLiteral?_eq_some_iff`, and where a literal does not begin.
- **One piece.** `pieces_cons_of_none`, `pieces_append_of_some`.
- **Beginnings.** `Passes` and `Takes`, with what they mean for `marks`, `replaceMarks`, `beforeMark`.
- **Marks in brackets.** `Bracketed`: a beginning without a bracket passes.
- **Texts of items.** `Reads` and `spaced`: their marks, what is left of them, what stands before the
  first mark.
-/

namespace ShaderCombos.Text

variable {α ι : Type} {mark : Mark α} {p q rest : List Char} {meaning : α}

/-! ## Literals -/

/-- A literal is taken off exactly the texts that begin with it. -/
theorem dropLiteral?_eq_some_iff {literal : String} {s rest : List Char} :
    dropLiteral? literal s = some rest ↔ s = literal.toList ++ rest := by
  unfold dropLiteral?
  induction literal.toList generalizing s with
  | nil => exact Option.some_inj
  | cons c literal ih =>
      cases s with
      | nil =>
          constructor
          · rintro ⟨⟩
          · rintro ⟨⟩
      | cons d s =>
          show (if c == d then literal.isPrefixOf? s else none) = some rest
            ↔ d :: s = c :: (literal ++ rest)
          by_cases h : c = d
          · subst h
            rw [beq_self_eq_true, if_pos rfl, ih, List.cons.injEq]
            exact (and_iff_right rfl).symm
          · rw [if_neg fun hbeq => h (beq_iff_eq.mp hbeq), List.cons.injEq]
            constructor
            · rintro ⟨⟩
            · rintro ⟨rfl, -⟩
              exact absurd rfl h

theorem dropLiteral?_append (literal : String) (s : List Char) :
    dropLiteral? literal (literal.toList ++ s) = some s :=
  dropLiteral?_eq_some_iff.mpr rfl

theorem dropLiteral?_eq_none {literal : String} {s : List Char}
    (h : ∀ rest, s ≠ literal.toList ++ rest) : dropLiteral? literal s = none := by
  apply Option.eq_none_iff_forall_ne_some.mpr
  intro rest hsome
  exact h rest (dropLiteral?_eq_some_iff.mp hsome)

theorem literalMark_eq_none {literal : String} {s : List Char}
    (h : ∀ rest, s ≠ literal.toList ++ rest) : literalMark literal s = none := by
  unfold literalMark
  rw [dropLiteral?_eq_none h]
  rfl

/-! ## One piece -/

theorem piecesFrom_eq_pieces_drop (mark : Mark α) (n : Nat) (s : List Char) :
    piecesFrom mark n s = pieces mark (s.drop n) := by
  induction s generalizing n with
  | nil =>
      rw [List.drop_nil]
      cases n with
      | zero => rfl
      | succ n => rfl
  | cons c s ih =>
      cases n with
      | zero => rfl
      | succ n =>
          rw [List.drop_succ_cons, ← ih]
          rfl

/-- Where no mark begins, a character is plain. -/
theorem pieces_cons_of_none {c : Char} (h : mark (c :: rest) = none) :
    pieces mark (c :: rest) = .plain c :: pieces mark rest := by
  unfold pieces
  rw [piecesFrom, h]

/-- Where a mark begins, it is taken, and the reading goes on behind it. -/
theorem pieces_append_of_some (hp : p ≠ []) (h : mark (p ++ rest) = some (meaning, p.length)) :
    pieces mark (p ++ rest) = .mark meaning :: pieces mark rest := by
  cases p with
  | nil => exact absurd rfl hp
  | cons c p =>
      rw [List.cons_append] at h ⊢
      -- The rest of the mark is skipped over.
      have hrest : (p ++ rest).drop ((c :: p).length - 1) = rest := by
        rw [List.length_cons, Nat.add_sub_cancel]
        exact List.drop_left
      unfold pieces
      rw [piecesFrom, h]
      show Piece.mark meaning :: piecesFrom mark ((c :: p).length - 1) (p ++ rest) = _
      rw [piecesFrom_eq_pieces_drop, hrest]
      rfl

/-! ## Beginnings -/

/-- All characters of `p`, which `rest` follows, are plain. -/
def Passes (mark : Mark α) (p rest : List Char) : Prop :=
  pieces mark (p ++ rest) = p.map .plain ++ pieces mark rest

/-- What stands in front of `rest` is one mark. -/
def Takes (mark : Mark α) (p : List Char) (meaning : α) (rest : List Char) : Prop :=
  pieces mark (p ++ rest) = .mark meaning :: pieces mark rest

theorem Passes.nil : Passes mark [] rest :=
  rfl

theorem Passes.cons {c : Char} (hc : mark (c :: (p ++ rest)) = none) (h : Passes mark p rest) :
    Passes mark (c :: p) rest := by
  unfold Passes at h ⊢
  rw [List.cons_append, pieces_cons_of_none hc, h]
  rfl

theorem Passes.append (hp : Passes mark p (q ++ rest)) (hq : Passes mark q rest) :
    Passes mark (p ++ q) rest := by
  unfold Passes at hp hq ⊢
  rw [List.append_assoc, hp, hq, List.map_append, List.append_assoc]

/-- A beginning passes if no mark begins within it. -/
theorem Passes.of_forall (h : ∀ before after, p = before ++ after → after ≠ [] → mark (after ++ rest) = none) :
    Passes mark p rest := by
  induction p with
  | nil => exact Passes.nil
  | cons c p ih =>
      apply Passes.cons
      · exact h [] (c :: p) rfl (List.cons_ne_nil c p)
      · apply ih
        intro before after heq hne
        exact h (c :: before) after (congrArg (c :: ·) heq) hne

theorem Passes.marks (h : Passes mark p rest) : marks mark (p ++ rest) = marks mark rest := by
  have hplain : (p.map Piece.plain).filterMap (Piece.mark? (α := α)) = [] := by
    rw [List.filterMap_map]
    exact List.filterMap_eq_nil_iff.mpr fun c _ => rfl
  unfold Text.marks
  rw [h, List.filterMap_append, hplain, List.nil_append]

theorem Passes.replaceMarks (h : Passes mark p rest) (replacement : List Char) :
    replaceMarks mark replacement (p ++ rest) = p ++ replaceMarks mark replacement rest := by
  unfold Text.replaceMarks
  rw [h, List.flatMap_append, List.flatMap_map]
  congr 1
  exact List.flatMap_singleton' p

theorem Passes.beforeMark (h : Passes mark p rest) :
    beforeMark mark (p ++ rest) = p ++ beforeMark mark rest := by
  unfold Text.beforeMark
  rw [h, List.takeWhile_append_of_pos]
  · rw [List.flatMap_append, List.flatMap_map]
    congr 1
    exact List.flatMap_singleton' p
  · intro piece hpiece
    obtain ⟨c, -, rfl⟩ := List.mem_map.mp hpiece
    rfl

theorem Takes.marks (h : Takes mark p meaning rest) :
    marks mark (p ++ rest) = meaning :: marks mark rest := by
  unfold Text.marks
  rw [h]
  rfl

theorem Takes.replaceMarks (h : Takes mark p meaning rest) (replacement : List Char) :
    replaceMarks mark replacement (p ++ rest) = replacement ++ replaceMarks mark replacement rest := by
  unfold Text.replaceMarks
  rw [h]
  rfl

theorem Takes.beforeMark (h : Takes mark p meaning rest) : beforeMark mark (p ++ rest) = [] := by
  unfold Text.beforeMark
  rw [h]
  rfl

/-! ## Marks in brackets -/

/-- No mark begins with anything but a bracket. -/
def Bracketed (mark : Mark α) : Prop :=
  ∀ c rest, c ≠ '[' → mark (c :: rest) = none

theorem Bracketed.passes (h : Bracketed mark) (hp : '[' ∉ p) : Passes mark p rest := by
  induction p with
  | nil => exact Passes.nil
  | cons c p ih =>
      have hc : c ≠ '[' := fun heq => hp (heq ▸ List.mem_cons_self)
      have htail : '[' ∉ p := fun hmem => hp (List.mem_cons_of_mem c hmem)
      exact Passes.cons (h c (p ++ rest) hc) (ih htail)

/-- Only the first character of a text in brackets can begin a mark. -/
theorem Bracketed.passes_bracket (h : Bracketed mark) (hp : '[' ∉ p)
    (hnone : mark ('[' :: (p ++ rest)) = none) : Passes mark ('[' :: p) rest :=
  Passes.cons hnone (h.passes hp)

/-! ## Texts of items -/

/-- Each of some items is read as one mark, if it says something, and passes otherwise. -/
def Reads (mark : Mark α) (text : ι → List Char) (sense : ι → Option α) (i : ι) : Prop :=
  ∀ rest, match sense i with
    | some meaning => Takes mark (text i) meaning rest
    | none => Passes mark (text i) rest

/-- The text of some items, with a plain text behind each. -/
def spaced (text : ι → List Char) (items : List (ι × List Char)) : List Char :=
  items.flatMap fun item => text item.1 ++ item.2

section

variable {text : ι → List Char} {sense : ι → Option α} {items : List (ι × List Char)}

theorem spaced_cons (item : ι × List Char) (items : List (ι × List Char)) :
    spaced text (item :: items) = text item.1 ++ (item.2 ++ spaced text items) := by
  unfold spaced
  rw [List.flatMap_cons, List.append_assoc]

/-- The marks of a text of items are what the items say. -/
theorem marks_spaced (hreads : ∀ item ∈ items, Reads mark text sense item.1)
    (hplain : ∀ item ∈ items, ∀ rest, Passes mark item.2 rest) :
    marks mark (spaced text items) = items.filterMap fun item => sense item.1 := by
  induction items with
  | nil => rfl
  | cons item items ih =>
      have hitem := hreads item List.mem_cons_self (item.2 ++ spaced text items)
      have hbehind := hplain item List.mem_cons_self (spaced text items)
      have hitems := ih (fun i hi => hreads i (List.mem_cons_of_mem item hi))
        fun i hi => hplain i (List.mem_cons_of_mem item hi)
      rw [spaced_cons, List.filterMap_cons]
      cases hsense : sense item.1 with
      | none =>
          rw [hsense] at hitem
          rw [Passes.marks hitem, hbehind.marks, hitems]
      | some meaning =>
          rw [hsense] at hitem
          rw [Takes.marks hitem, hbehind.marks, hitems]

/-- Where every item says something, only what stands behind them is left once marks are taken away. -/
theorem replaceMarks_spaced (hreads : ∀ item ∈ items, Reads mark text sense item.1)
    (hsense : ∀ item ∈ items, (sense item.1).isSome)
    (hplain : ∀ item ∈ items, ∀ rest, Passes mark item.2 rest) :
    replaceMarks mark [] (spaced text items) = items.flatMap Prod.snd := by
  induction items with
  | nil => rfl
  | cons item items ih =>
      have hitem := hreads item List.mem_cons_self (item.2 ++ spaced text items)
      have hbehind := hplain item List.mem_cons_self (spaced text items)
      have hitems := ih (fun i hi => hreads i (List.mem_cons_of_mem item hi))
        (fun i hi => hsense i (List.mem_cons_of_mem item hi))
        fun i hi => hplain i (List.mem_cons_of_mem item hi)
      obtain ⟨meaning, hmeaning⟩ := Option.isSome_iff_exists.mp (hsense item List.mem_cons_self)
      rw [hmeaning] at hitem
      rw [spaced_cons, Takes.replaceMarks hitem, hbehind.replaceMarks, hitems]
      rfl

/-- What stands before the first mark is the text of the items before it. -/
theorem beforeMark_spaced (hreads : ∀ item ∈ items, Reads mark text sense item.1)
    (hplain : ∀ item ∈ items, ∀ rest, Passes mark item.2 rest) :
    beforeMark mark (spaced text items) =
      spaced text (items.takeWhile fun item => (sense item.1).isNone) := by
  induction items with
  | nil => rfl
  | cons item items ih =>
      have hitem := hreads item List.mem_cons_self (item.2 ++ spaced text items)
      have hbehind := hplain item List.mem_cons_self (spaced text items)
      have hitems := ih (fun i hi => hreads i (List.mem_cons_of_mem item hi))
        fun i hi => hplain i (List.mem_cons_of_mem item hi)
      rw [spaced_cons]
      cases hsense : sense item.1 with
      | none =>
          rw [hsense] at hitem
          rw [Passes.beforeMark hitem, hbehind.beforeMark, hitems,
            List.takeWhile_cons_of_pos (by rw [hsense]; rfl), spaced_cons]
      | some meaning =>
          rw [hsense] at hitem
          rw [Takes.beforeMark hitem,
            List.takeWhile_cons_of_neg (by rw [hsense]; exact Bool.false_ne_true)]
          rfl

end

end ShaderCombos.Text
