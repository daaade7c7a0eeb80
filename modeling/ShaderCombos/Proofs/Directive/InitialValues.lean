import Mathlib
import ShaderCombos.IndexClass
import ShaderCombos.Proofs.Directive.Bounds
import ShaderCombos.Proofs.Directive.Brackets
import ShaderCombos.Proofs.Text.Occurrences

/-!
# `Proofs.Directive.InitialValues` — what is left of an initial expression

A combo can be given an initial expression in brackets, such as `[=1]`, and the expression may have a semicolon
behind it, which is not part of it. The text in the brackets is trimmed, cut at its last semicolon, wherever that
stands, and trimmed again. So an expression without semicolons is kept, and so is one with a single semicolon
behind it. Any other expression is not: of one with a semicolon inside the rest is lost, and of several semicolons
behind it one is taken away (`init_of_soleInit`).

## Contents
- **The mark of a line.** `InitAt`, `SoleInit`: the line has one mark of an initial expression; `init_of_sole`.
- **Cleaning.** `Cleans` says what is kept of a text, and `declared` what is declared by it;
  `cleanInit_eq_declared_iff` says when they agree.
- **Combos.** `init_of_soleInit`, and an expression with a semicolon inside.
-/

namespace ShaderCombos.Directive

open Text

variable {line front t u e : List Char}

/-! ## The mark of a line -/

/-- Behind `front`, a line has the mark of an initial expression with the text `t`. -/
def InitAt (line front t : List Char) : Prop :=
  ∃ lead behind, (∀ c ∈ lead, isBlank c = true) ∧ ']' ∉ t ∧
    line = front ++ '[' :: (lead ++ '=' :: (t ++ ']' :: behind))

/-- **The only mark** of an initial expression in a line has the text `t`. -/
def SoleInit (line t : List Char) : Prop :=
  ∃ front, InitAt line front t ∧ ∀ front' t', InitAt line front' t' → front' = front

/-- In one place there is one mark. -/
theorem InitAt.unique (h : InitAt line front t) (h' : InitAt line front u) : t = u := by
  obtain ⟨lead, behind, hlead, ht, rfl⟩ := h
  obtain ⟨lead', behind', hlead', hu, heq⟩ := h'
  have htail := (List.cons.inj (List.append_cancel_left heq)).2
  have hinner : t ++ ']' :: behind = u ++ ']' :: behind' := by
    have hdrop := dropWhile_run hlead (d := '=') (by decide) (t ++ ']' :: behind)
    rw [htail, dropWhile_run hlead' (d := '=') (by decide)] at hdrop
    exact (List.cons.inj hdrop).2.symm
  rw [← takeWhile_ne ht behind, hinner, takeWhile_ne hu behind']

/-- What is read as an initial expression is one. -/
theorem initAt_of_initMark (before : List Char) {after : List Char} {length : Nat}
    (h : initMark after = some (u, length)) :
    InitAt (before ++ after) before u ∧ u ≠ [] := by
  unfold initMark at h
  split at h
  · next rest =>
    simp only at h
    split at h
    · next inner hequals =>
      split at h
      · next behind hclose =>
        split at h
        · cases h
        · next hempty =>
          obtain ⟨rfl, -⟩ := Prod.mk.inj (Option.some.inj h)
          have hinner : inner = inner.takeWhile (· ≠ ']') ++ ']' :: behind := by
            rw [← hclose]
            exact List.takeWhile_append_dropWhile.symm
          have hrest : rest = rest.takeWhile isBlank ++ '=' :: inner := by
            rw [← hequals]
            exact List.takeWhile_append_dropWhile.symm
          refine ⟨⟨rest.takeWhile isBlank, behind, fun c hc => List.mem_takeWhile_imp hc, ?_, ?_⟩, ?_⟩
          · intro hmem
            exact of_decide_eq_true (List.mem_takeWhile_imp (p := (· ≠ ']')) hmem) rfl
          · rw [← hinner, ← hrest]
          · exact fun hnil => hempty (List.isEmpty_iff.mpr hnil)
      · cases h
    · cases h
  · cases h

/-- **A line with one mark** reads as the text of the mark says, if there is any text. -/
theorem init_of_sole (h : SoleInit line t) :
    init line = if t = [] then .mustBeSet else .expression (String.ofList (cleanInit t)) := by
  obtain ⟨front, hat, hsole⟩ := h
  by_cases hempty : t = []
  · -- Nothing else is read as a mark, and an empty text is not.
    have hnone : marks initMark line = [] := by
      apply List.eq_nil_iff_forall_not_mem.mpr
      intro u hu
      obtain ⟨before, after, length, rfl, hmark⟩ := exists_of_mem_marks hu
      obtain ⟨hat', hne⟩ := initAt_of_initMark before hmark
      obtain rfl := hsole _ _ hat'
      exact hne ((hat'.unique hat).trans hempty)
    unfold init
    rw [hnone, if_pos hempty]
    rfl
  · obtain ⟨lead, behind, hlead, ht, rfl⟩ := hat
    have hpasses : Passes initMark front ('[' :: (lead ++ '=' :: (t ++ ']' :: behind))) := by
      apply Passes.of_forall
      intro before after heq hne
      by_contra hsome
      obtain ⟨⟨u, length⟩, hmark⟩ := Option.ne_none_iff_exists'.mp hsome
      obtain ⟨hat', -⟩ := initAt_of_initMark before hmark
      rw [← List.append_assoc, ← heq] at hat'
      have hwhole : before = before ++ after := (hsole _ _ hat').trans heq
      exact hne (List.self_eq_append_right.mp hwhole)
    have hmarks := marks_cons_of_some (initMark_eq hlead hempty ht behind)
    unfold init
    rw [hpasses.marks, hmarks, if_neg hempty]
    rfl

/-- A line with one bracket has at most one mark. -/
theorem soleInit_of_notMem {lead behind : List Char} (hfront : '[' ∉ front)
    (hlead : ∀ c ∈ lead, isBlank c = true) (ht : ']' ∉ t)
    (hrest : '[' ∉ lead ++ '=' :: (t ++ ']' :: behind)) :
    SoleInit (front ++ '[' :: (lead ++ '=' :: (t ++ ']' :: behind))) t := by
  refine ⟨front, ⟨lead, behind, hlead, ht, rfl⟩, ?_⟩
  rintro front' t' ⟨lead', behind', -, -, heq⟩
  obtain ⟨between, hbetween⟩ := exists_append_of_bracket_notMem hfront heq.symm
  cases between with
  | nil => rw [hbetween, List.append_nil]
  | cons c between =>
      rw [hbetween, List.append_assoc] at heq
      have htail := List.append_cancel_left heq
      rw [List.cons_append, List.cons.injEq] at htail
      exact absurd (htail.2 ▸ List.mem_append_right between List.mem_cons_self) hrest

/-! ## Cleaning -/

/-- **What is kept of a text**: it is trimmed, and if there is a semicolon in it, the last one is cut off with all
that stands behind it. -/
inductive Cleans (t : List Char) : List Char → Prop where
  | whole (h : ';' ∉ trim t) : Cleans t (trim t)
  | cut {before after : List Char} (h : trim t = before ++ ';' :: after) (hafter : ';' ∉ after) :
      Cleans t (trim before)

/-- Blanks, and the semicolons among them. -/
def isTail (c : Char) : Bool :=
  isBlank c || c = ';'

/-- **What a text declares**: the text without the blanks around it, and if it ends in semicolons, without these
and the blanks around them. -/
def declared (t : List Char) : List Char :=
  if (trim t).getLast? = some ';' then (trim t).rdropWhile isTail else trim t

/-- A text with a semicolon has a last one. -/
theorem exists_last_semicolon (h : ';' ∈ t) : ∃ before after, t = before ++ ';' :: after ∧ ';' ∉ after := by
  obtain ⟨after, before, hreverse, hafter⟩ := List.eq_append_cons_of_mem (List.mem_reverse.mpr h)
  refine ⟨before.reverse, after.reverse, ?_, fun hmem => hafter (List.mem_reverse.mp hmem)⟩
  rw [← List.reverse_reverse t, hreverse, List.reverse_append, List.reverse_cons, List.append_assoc,
    List.singleton_append]

theorem cleans_cleanInit (t : List Char) : Cleans t (cleanInit t) := by
  by_cases h : ';' ∈ trim t
  · obtain ⟨before, after, hsplit, hafter⟩ := exists_last_semicolon h
    rw [cleanInit_of_semicolon hsplit hafter]
    exact .cut hsplit hafter
  · rw [cleanInit_of_notMem h]
    exact .whole h

/-- A text is cleaned in one way. -/
theorem Cleans.eq (h : Cleans t e) : e = cleanInit t := by
  cases h with
  | whole h => exact (cleanInit_of_notMem h).symm
  | cut h hafter => exact (cleanInit_of_semicolon h hafter).symm

/-- The front of a trimmed text has no blanks in front. -/
theorem dropBlanks_of_isPrefix_trim (h : e <+: trim t) : dropBlanks e = e := by
  cases e with
  | nil => rfl
  | cons c e =>
      have hfront : c :: e <+: dropBlanks t := h.trans (List.rdropWhile_prefix isBlank (dropBlanks t))
      obtain ⟨rest, hrest⟩ := hfront
      have hhead := List.head?_dropWhile_not isBlank t
      unfold dropBlanks at hrest
      rw [← hrest] at hhead
      exact dropBlanks_cons_of_notBlank (by simpa using hhead) e

theorem rdropWhile_isTail (s : List Char) : s.rdropWhile isTail = (s.rdropWhile isBlank).rdropWhile isTail := by
  induction s using List.reverseRecOn with
  | nil => rfl
  | append_singleton s c ih =>
      by_cases hc : isBlank c = true
      · have htail : isTail c = true := by
          unfold isTail
          rw [hc]
          rfl
        rw [List.rdropWhile_concat_pos isTail s c htail, List.rdropWhile_concat_pos isBlank s c hc, ih]
      · rw [List.rdropWhile_concat_neg isBlank s c hc]

/-- One semicolon behind an expression is all that has to go, if the expression does not end in another. -/
theorem trim_eq_rdropWhile_iff {before : List Char} (h : trim t = before ++ [';']) :
    trim before = before.rdropWhile isTail ↔ (trim before).getLast? ≠ some ';' := by
  have htrim : trim before = before.rdropWhile isBlank := by
    show (dropBlanks before).rdropWhile isBlank = before.rdropWhile isBlank
    rw [dropBlanks_of_isPrefix_trim ⟨[';'], h.symm⟩]
  rw [htrim, rdropWhile_isTail, eq_comm, List.rdropWhile_eq_self_iff]
  constructor
  · intro hkept hsome
    have hne : before.rdropWhile isBlank ≠ [] := by
      intro hnil
      rw [hnil] at hsome
      cases hsome
    rw [List.getLast?_eq_some_getLast hne, Option.some.injEq] at hsome
    apply hkept hne
    rw [hsome]
    rfl
  · intro hlast hne htail
    unfold isTail at htail
    rcases Bool.or_eq_true_iff.mp htail with hblank | hsemicolon
    · exact List.rdropWhile_last_not isBlank before hne hblank
    · apply hlast
      rw [List.getLast?_eq_some_getLast hne, of_decide_eq_true hsemicolon]

/-- **When cleaning keeps what is declared**: there is no semicolon, or only one behind the expression. -/
theorem cleanInit_eq_declared_iff (t : List Char) :
    cleanInit t = declared t ↔
      ';' ∉ trim t ∨ ∃ before, trim t = before ++ [';'] ∧ (trim before).getLast? ≠ some ';' := by
  by_cases hsemicolon : ';' ∈ trim t
  · obtain ⟨before, after, hsplit, hafter⟩ := exists_last_semicolon hsemicolon
    rw [cleanInit_of_semicolon hsplit hafter, or_iff_right (not_not.mpr hsemicolon)]
    unfold declared
    cases after with
    | nil =>
        have hlast : (trim t).getLast? = some ';' := by
          rw [hsplit]
          exact List.getLast?_concat
        have htail : isTail ';' = true := rfl
        rw [if_pos hlast, hsplit, List.rdropWhile_concat_pos isTail before ';' htail,
          trim_eq_rdropWhile_iff hsplit]
        constructor
        · intro hne
          exact ⟨before, rfl, hne⟩
        · rintro ⟨other, hother, hne⟩
          rw [List.append_cancel_right hother]
          exact hne
    | cons d after =>
        have hlast : (trim t).getLast? ≠ some ';' := by
          rw [hsplit, List.getLast?_append_of_ne_nil _ (List.cons_ne_nil _ _), List.getLast?_cons_cons]
          exact fun hsome => hafter (List.mem_of_getLast? hsome)
        have hshorter : (trim before).length < (trim t).length := by
          have hle := length_trim_le before
          rw [hsplit, List.length_append, List.length_cons]
          omega
        rw [if_neg hlast]
        constructor
        · intro heq
          rw [heq] at hshorter
          exact absurd hshorter (Nat.lt_irrefl _)
        · rintro ⟨other, hother, -⟩
          rw [hother] at hlast
          exact absurd List.getLast?_concat hlast
  · have hlast : (trim t).getLast? ≠ some ';' := fun hsome => hsemicolon (List.mem_of_getLast? hsome)
    unfold declared
    rw [cleanInit_of_notMem hsemicolon, if_neg hlast]
    exact ⟨fun _ => Or.inl hsemicolon, fun _ => rfl⟩

/-! ## Combos -/

/-- A constructor starts the field of a combo at its initial value. -/
theorem mem_constructorLines {k : IndexClass} {c : Combo} {text : String} (hc : c ∈ k.combos)
    (h : c.init = .expression text) :
    s!"\t\t{IndexClass.fieldName c.name} = {text};" ∈ k.constructorLines := by
  have hinitial : c.initialExpression = text := by
    unfold Combo.initialExpression
    rw [h]
  have hline : s!"\t\t{IndexClass.fieldName c.name} = {c.initialExpression};"
      ∈ k.combos.map fun c => s!"\t\t{IndexClass.fieldName c.name} = {c.initialExpression};" :=
    List.mem_map_of_mem hc
  rw [hinitial] at hline
  unfold IndexClass.constructorLines
  exact List.mem_append_left _ (List.mem_append_left _ (List.mem_append_right _ hline))

/-- **Initial expressions are cut at their last semicolon.** Where a line declares a combo and has one mark of an
initial expression, with some text, the combo's initial value is the text cleaned, and every class that has the
combo starts its field at that; a mark without text gives none. It is what the text declares exactly if there is no
semicolon in it, or a single one behind the expression. -/
theorem init_of_soleInit {f : Filter} {list : ComboKind} {line : String} {c : Combo} {t : List Char}
    (h : ofLine? f line = .ok (some (.combo list c))) (hsole : SoleInit line.toList t) :
    (t = [] → c.init = .mustBeSet) ∧
      (t ≠ [] → ∃ e, Cleans t e ∧ c.init = .expression (String.ofList e) ∧ ∀ k : IndexClass, c ∈ k.combos →
        s!"\t\t{IndexClass.fieldName c.name} = {String.ofList e};" ∈ k.constructorLines) ∧
      (c.init = .expression (String.ofList (declared t)) ↔
        t ≠ [] ∧ (';' ∉ trim t ∨
          ∃ before, trim t = before ++ [';'] ∧ (trim before).getLast? ≠ some ';')) := by
  have hinit : c.init = if t = [] then .mustBeSet else .expression (String.ofList (cleanInit t)) := by
    obtain ⟨-, -, hline⟩ := of_combo?_eq_some (combo?_of_ofLine? h)
    rw [hline, init_of_sole hsole]
  by_cases hempty : t = []
  · rw [if_pos hempty] at hinit
    refine ⟨fun _ => hinit, fun hne => absurd hempty hne, ?_⟩
    rw [hinit]
    constructor
    · rintro ⟨⟩
    · rintro ⟨hne, -⟩
      exact absurd hempty hne
  · rw [if_neg hempty] at hinit
    refine ⟨fun hnil => absurd hnil hempty, ?_, ?_⟩
    · intro _
      exact ⟨_, cleans_cleanInit t, hinit, fun k hc => mem_constructorLines hc hinit⟩
    · have hsame : c.init = .expression (String.ofList (declared t)) ↔ cleanInit t = declared t := by
        rw [hinit, Combo.Init.expression.injEq, ← String.toList_inj, String.toList_ofList,
          String.toList_ofList]
      rw [hsame, cleanInit_eq_declared_iff]
      exact (and_iff_right hempty).symm

/-! ### A semicolon behind an expression, and one inside -/

namespace Semicolons

def behind : String :=
  "// STATIC: \"A\" \"0..9\" [=1;]"

def inside : String :=
  "// STATIC: \"A\" \"0..9\" [=f(\";\")]"

def one : Combo where
  name := "A"
  min := 0
  max := 9
  init := .expression "1"

theorem ofLine?_behind : ofLine? (Filter.forModel .pixel .three) behind = .ok (some (.combo .static one)) := by
  decide +kernel

theorem ofLine?_inside : ofLine? (Filter.forModel .pixel .three) inside
    = .ok (some (.combo .static ⟨"A", 0, 9, .expression "f(\""⟩)) := by
  decide +kernel

theorem soleInit_behind : SoleInit behind.toList "1;".toList := by
  have hlead : ∀ c ∈ ([] : List Char), isBlank c = true := fun c hc => by cases hc
  have hfront : '[' ∉ "// STATIC: \"A\" \"0..9\" ".toList := by decide +kernel
  show SoleInit ("// STATIC: \"A\" \"0..9\" ".toList ++ '[' :: ([] ++ '=' :: ("1;".toList ++ ']' :: []))) _
  exact soleInit_of_notMem hfront hlead (by decide) (by decide)

theorem soleInit_inside : SoleInit inside.toList "f(\";\")".toList := by
  have hlead : ∀ c ∈ ([] : List Char), isBlank c = true := fun c hc => by cases hc
  have hfront : '[' ∉ "// STATIC: \"A\" \"0..9\" ".toList := by decide +kernel
  show SoleInit ("// STATIC: \"A\" \"0..9\" ".toList ++ '[' :: ([] ++ '=' :: ("f(\";\")".toList ++ ']' :: []))) _
  exact soleInit_of_notMem hfront hlead (by decide) (by decide)

end Semicolons

theorem init_of_soleInit_semicolon_behind :
    ∃ e, Cleans "1;".toList e ∧ Semicolons.one.init = .expression (String.ofList e) ∧
      ∀ k : IndexClass, Semicolons.one ∈ k.combos →
        s!"\t\t{IndexClass.fieldName Semicolons.one.name} = {String.ofList e};" ∈ k.constructorLines :=
  (init_of_soleInit Semicolons.ofLine?_behind Semicolons.soleInit_behind).2.1 (by decide)

/-- **An initial expression can be cut short**: not all that it declares is kept. -/
theorem not_forall_init_declared :
    ¬ ∀ (f : Filter) (list : ComboKind) (line : String) (c : Combo) (t : List Char),
      ofLine? f line = .ok (some (.combo list c)) → SoleInit line.toList t →
        '[' ∉ t → ']' ∉ t → '\n' ∉ t → c.init = .expression (String.ofList (declared t)) := by
  intro h
  have hinit := h _ _ _ _ _ Semicolons.ofLine?_inside Semicolons.soleInit_inside (by decide) (by decide)
    (by decide)
  exact absurd hinit (by decide)

end ShaderCombos.Directive
