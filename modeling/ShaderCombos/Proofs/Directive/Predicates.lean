import Mathlib
import ShaderCombos.Proofs.Directive.Desktop
import ShaderCombos.Proofs.Directive.LineByLine

/-!
# `Proofs.Directive.Predicates` — what is left of a skip predicate

The body of a skip directive is a predicate with marks in it: desktop marks, and versions of the stage that the
source is read for. The two are handled in different ways. Desktop marks are taken out, but at the first version
the body is cut, and what stands behind the cut is lost, whether or not it belongs to the predicate. So a rule
holds everything of the predicate that stands in front of the first version, and nothing else (`skip_keeps`); a
version in front of the predicate makes an empty rule.

White space does not count: `signs` are the characters that are not blank.

## Contents
- **Signs.** `signs`, and that trimming keeps them.
- **Marks of a body.** `IsMark`; `Unmarked`, a text without its marks, which exists once for each text
  (`exists_unmarked`, `Unmarked.unique`).
- **The cut.** `Cut`: what stands in front of the first version of a body. There is one cut, where the body is
  cut off (`cut_beforeMark`, `Cut.front_eq`).
- **Rules.** `desktopSigns_eq`: taking desktop marks out keeps the other signs. `Stores`, `Keeps`, `skip_keeps`.
-/

namespace ShaderCombos.Directive

open Text

variable {stage : Stage} {s t kept : List Char}

/-! ## Signs -/

/-- The characters of a text that are not blank. -/
def signs (s : List Char) : List Char :=
  s.filter fun c => !isBlank c

theorem signs_append (s t : List Char) : signs (s ++ t) = signs s ++ signs t :=
  List.filter_append s t

theorem signs_of_blank (h : ∀ c ∈ s, isBlank c = true) : signs s = [] := by
  apply List.filter_eq_nil_iff.mpr
  intro c hc
  rw [h c hc]
  exact Bool.false_ne_true

theorem signs_dropBlanks (s : List Char) : signs (dropBlanks s) = signs s := by
  have hblank : signs (s.takeWhile isBlank) = [] := signs_of_blank fun c hc => List.mem_takeWhile_imp hc
  have hsplit : s = s.takeWhile isBlank ++ dropBlanks s := List.takeWhile_append_dropWhile.symm
  conv_rhs => rw [hsplit, signs_append, hblank, List.nil_append]

theorem signs_reverse (s : List Char) : signs s.reverse = (signs s).reverse :=
  List.filter_reverse ..

/-- Trimming takes no signs away. -/
theorem signs_trim (s : List Char) : signs (trim s) = signs s := by
  have htrailing : ∀ s, signs (dropTrailingBlanks s) = signs s := by
    intro s
    show signs (dropBlanks s.reverse).reverse = signs s
    rw [signs_reverse, signs_dropBlanks, signs_reverse, List.reverse_reverse]
  unfold trim
  rw [htrailing, signs_dropBlanks]

/-- Only blanks are trimmed away altogether. -/
theorem trim_eq_nil_iff : trim s = [] ↔ signs s = [] := by
  constructor
  · intro h
    rw [← signs_trim, h]
    rfl
  · intro h
    have hblank : ∀ c ∈ s, isBlank c = true := by
      intro c hc
      have hnone := List.filter_eq_nil_iff.mp h c hc
      rw [Bool.not_eq_true', Bool.not_eq_false] at hnone
      exact hnone
    unfold trim
    rw [dropBlanks_eq_nil_of_blank hblank]
    rfl

/-! ## Marks of a body -/

/-- The marks of a body: the desktop mark, and the versions of the stage. -/
inductive IsMark (stage : Stage) : List Char → Prop where
  | desktop : IsMark stage "[PC]".toList
  | version (first second : Char) (letters : isStage stage first second = true) (version : Version) :
      IsMark stage (Marker.version first second letters version).text

/-- **A text without its marks**: reading from the left, marks are left out, and what begins no mark stays. -/
inductive Unmarked (stage : Stage) : List Char → List Char → Prop where
  | nil : Unmarked stage [] []
  | plain {c : Char} {s kept : List Char} (hc : ∀ t, IsMark stage t → ¬ t <+: c :: s)
      (h : Unmarked stage s kept) : Unmarked stage (c :: s) (c :: kept)
  | mark {t s kept : List Char} (ht : IsMark stage t) (h : Unmarked stage s kept) :
      Unmarked stage (t ++ s) kept

/-- A mark is a bracket, a text without brackets, and the other bracket. -/
theorem IsMark.eq (h : IsMark stage t) : ∃ inner, t = '[' :: (inner ++ [']']) ∧ '[' ∉ inner ∧ ']' ∉ inner := by
  cases h with
  | desktop => exact ⟨['P', 'C'], rfl, by decide, by decide⟩
  | version first second letters version =>
      refine ⟨first :: second :: version.chars, rfl, ?_, ?_⟩
      · obtain ⟨inner, htext, hinner⟩ := (Marker.version first second letters version).text_eq
        obtain rfl : inner = first :: second :: version.chars := by
          have htail : (first :: second :: version.chars) ++ [']'] = inner ++ [']'] := (List.cons.inj htext).2
          exact (List.append_cancel_right htail).symm
        exact fun hmem => (hinner _ hmem).1 rfl
      · have hfirst : first ≠ ']' := by
          cases stage with
          | vertex => rcases first_of_isStage letters with rfl | rfl <;> decide
          | pixel => rcases first_of_isStage letters with rfl | rfl <;> decide
        have hsecond : second ≠ ']' := by
          rcases second_of_isStage letters with rfl | rfl | rfl <;> decide
        intro hmem
        rcases List.mem_cons.mp hmem with heq | hmem
        · exact hfirst heq.symm
        · rcases List.mem_cons.mp hmem with heq | hmem
          · exact hsecond heq.symm
          · exact version.ne_of_mem hmem (by decide) (by decide) rfl

/-- Where a mark begins, no other one does. -/
theorem IsMark.unique {t' s' : List Char} (h : IsMark stage t) (h' : IsMark stage t') (heq : t ++ s = t' ++ s') :
    t = t' ∧ s = s' := by
  obtain ⟨inner, rfl, -, hinner⟩ := h.eq
  obtain ⟨inner', rfl, -, hinner'⟩ := h'.eq
  have htail : inner ++ ']' :: s = inner' ++ ']' :: s' := by
    rw [List.cons_append, List.cons_append, List.append_assoc, List.append_assoc] at heq
    exact (List.cons.inj heq).2
  have hsame : inner = inner' := by
    rw [← takeWhile_ne hinner s, htail, takeWhile_ne hinner' s']
  subst hsame
  exact ⟨rfl, (List.cons.inj (List.append_cancel_left htail)).2⟩

/-- A mark does not reach into a text that begins with a bracket. -/
theorem IsMark.prefix_of_append {back : List Char} (h : IsMark stage t) {c : Char}
    (hback : back = [] ∨ ∃ rest, back = '[' :: rest) (hbegins : t <+: c :: (s ++ back)) : t <+: c :: s := by
  obtain ⟨rest, hrest⟩ := hbegins
  rw [← List.cons_append] at hrest
  rcases List.append_eq_append_iff.mp hrest with ⟨more, hfront, -⟩ | ⟨more, hmark, hmore⟩
  · exact ⟨more, hfront.symm⟩
  · cases more with
    | nil =>
        rw [List.append_nil] at hmark
        exact ⟨[], by rw [List.append_nil, hmark]⟩
    | cons d more =>
        -- The bracket would stand within the mark.
        rcases hback with rfl | ⟨tail, rfl⟩
        · cases hmore
        · obtain ⟨inner, heq, hinner, -⟩ := h.eq
          obtain rfl := (List.cons.inj hmore).1
          rw [hmark, List.cons_append] at heq
          have hbracket : '[' ∈ inner ++ [']'] := by
            rw [← (List.cons.inj heq).2]
            exact List.mem_append_right _ List.mem_cons_self
          rcases List.mem_append.mp hbracket with hmem | hmem
          · exact absurd hmem hinner
          · exact absurd (List.mem_singleton.mp hmem) (by decide)

/-- Every text can be read without its marks. -/
theorem exists_unmarked (stage : Stage) (s : List Char) : ∃ kept, Unmarked stage s kept := by
  induction hn : s.length using Nat.strong_induction_on generalizing s with
  | _ n ih =>
    cases s with
    | nil => exact ⟨[], .nil⟩
    | cons c s =>
        rw [List.length_cons] at hn
        by_cases hmark : ∃ t, IsMark stage t ∧ t <+: c :: s
        · obtain ⟨t, ht, rest, hrest⟩ := hmark
          have hshorter : rest.length < n := by
            obtain ⟨inner, rfl, -, -⟩ := ht.eq
            have hlength := congrArg List.length hrest
            simp only [List.length_append, List.length_cons] at hlength
            omega
          obtain ⟨kept, hkept⟩ := ih rest.length hshorter rest rfl
          rw [← hrest]
          exact ⟨kept, .mark ht hkept⟩
        · obtain ⟨kept, hkept⟩ := ih s.length (by omega) s rfl
          exact ⟨c :: kept, .plain (fun t ht hbegins => hmark ⟨t, ht, hbegins⟩) hkept⟩

/-- **There is one way to read a text without its marks.** -/
theorem Unmarked.unique {kept' : List Char} (h : Unmarked stage s kept) (h' : Unmarked stage s kept') :
    kept = kept' := by
  induction h generalizing kept' with
  | nil =>
      generalize hs : ([] : List Char) = s at h'
      cases h' with
      | nil => rfl
      | plain hc h' => cases hs
      | mark ht h' =>
          obtain ⟨inner, rfl, -, -⟩ := ht.eq
          cases hs
  | @plain c s kept hc _ ih =>
      generalize hs : c :: s = whole at h'
      cases h' with
      | nil => cases hs
      | plain hc' h' =>
          cases hs
          rw [ih h']
      | mark ht h' => exact absurd ⟨_, hs.symm⟩ (hc _ ht)
  | @mark t s kept ht _ ih =>
      generalize hs : t ++ s = whole at h'
      cases h' with
      | nil =>
          obtain ⟨inner, rfl, -, -⟩ := ht.eq
          cases hs
      | plain hc' h' => exact absurd ⟨_, hs⟩ (hc' _ ht)
      | mark ht' h' =>
          obtain ⟨-, rfl⟩ := ht.unique ht' hs
          exact ih h'

/-- A text without brackets has no marks. -/
theorem Unmarked.of_bracket_notMem (h : '[' ∉ s) : Unmarked stage s s := by
  induction s with
  | nil => exact .nil
  | cons c s ih =>
      rw [List.mem_cons, not_or] at h
      refine .plain ?_ (ih h.2)
      rintro t ht ⟨rest, hrest⟩
      obtain ⟨inner, rfl, -, -⟩ := ht.eq
      exact h.1 (List.cons.inj hrest).1

/-- **Two texts in a row** are read one after the other if no mark reaches from one into the other. -/
theorem Unmarked.append {back lost : List Char} (h : Unmarked stage s kept) (hback : Unmarked stage back lost)
    (hstart : back = [] ∨ ∃ rest, back = '[' :: rest) : Unmarked stage (s ++ back) (kept ++ lost) := by
  induction h with
  | nil => exact hback
  | plain hc _ ih => exact .plain (fun t ht hbegins => hc t ht (ht.prefix_of_append hstart hbegins)) ih
  | mark ht _ ih =>
      rw [List.append_assoc]
      exact .mark ht ih

/-! ## The cut -/

/-- **The cut of a body**, in front of its first version of the stage. -/
structure Cut (stage : Stage) (body front back : List Char) : Prop where
  split : body = front ++ back
  front_names : ∀ version, ¬ Names stage version front
  back_version : back = [] ∨ ∃ (first second : Char) (letters : isStage stage first second = true)
    (version : Version), (Marker.version first second letters version).text <+: back

/-- What stands behind a cut is nothing, or begins with a bracket. -/
theorem Cut.start {body front back : List Char} (h : Cut stage body front back) :
    back = [] ∨ ∃ rest, back = '[' :: rest := by
  rcases h.back_version with hnil | ⟨first, second, letters, version, rest, hback⟩
  · exact Or.inl hnil
  · exact Or.inr ⟨_, hback.symm⟩

/-- **Where a body is cut.** -/
theorem cut_beforeMark (stage : Stage) (body : List Char) :
    ∃ back, Cut stage body (beforeMark (versionMark stage) body) back := by
  obtain ⟨back, hsplit, hback, hfree⟩ := exists_beforeMark_append (versionMark stage) body
  refine ⟨back, hsplit, ?_, ?_⟩
  · rintro version ⟨first, second, letters, before, after, hfront⟩
    rw [List.append_assoc] at hfront
    have hnone := hfree before _ hfront.symm (List.append_ne_nil_of_left_ne_nil (List.cons_ne_nil _ _) _)
    have hsome : versionMark stage ((Marker.version first second letters version).text ++ after ++ back)
        = some (version.chars, _) :=
      versionMark_eq_some_iff.mpr ⟨first, second, letters, version, after ++ back, List.append_assoc ..,
        rfl, rfl⟩
    rw [hnone] at hsome
    cases hsome
  · rcases hback with hnil | ⟨⟨v, length⟩, hmark⟩
    · exact Or.inl hnil
    · obtain ⟨first, second, letters, version, rest, hrest, -, -⟩ := versionMark_eq_some_iff.mp hmark
      exact Or.inr ⟨first, second, letters, version, rest, hrest.symm⟩

/-- **A body is cut in one place.** -/
theorem Cut.front_eq {body front back : List Char} (h : Cut stage body front back) :
    front = beforeMark (versionMark stage) body := by
  have hbehind : beforeMark (versionMark stage) back = [] := by
    rcases h.back_version with rfl | ⟨first, second, letters, version, rest, rfl⟩
    · rfl
    · exact beforeMark_cons_of_some (versionMark_eq_some_iff.mpr
        ⟨first, second, letters, version, rest, rfl, rfl, rfl⟩)
  -- No version begins in front of the cut, because it would end there as well.
  have hpasses : Passes (versionMark stage) front back := by
    apply Passes.of_forall
    intro before after heq hne
    obtain ⟨c, after, rfl⟩ := List.exists_cons_of_ne_nil hne
    by_contra hsome
    obtain ⟨⟨v, length⟩, hmark⟩ := Option.ne_none_iff_exists'.mp hsome
    obtain ⟨first, second, letters, version, rest, htext, -, -⟩ := versionMark_eq_some_iff.mp hmark
    have hversion : IsMark stage (Marker.version first second letters version).text :=
      .version first second letters version
    obtain ⟨tail, htail⟩ := hversion.prefix_of_append h.start ⟨rest, htext.symm⟩
    refine h.front_names version ⟨first, second, letters, before, tail, ?_⟩
    rw [List.append_assoc, htail]
    exact heq.symm
  rw [h.split, hpasses.beforeMark, hbehind, List.append_nil]

/-! ## Rules -/

theorem replaceMarks_cons_of_none {α : Type} {mark : Mark α} {c : Char} (h : mark (c :: s) = none) :
    replaceMarks mark [] (c :: s) = c :: replaceMarks mark [] s :=
  (Passes.cons (p := []) h Passes.nil).replaceMarks []

/-- A desktop mark at the front is taken out with the blanks on both sides of it. -/
theorem replaceMarks_desktop {lead : List Char} (hlead : ∀ c ∈ lead, isBlank c = true) (behind : List Char) :
    replaceMarks desktopMark [] (lead ++ ("[PC]".toList ++ behind))
      = replaceMarks desktopMark [] (dropBlanks behind) := by
  have hbehind : ∀ c ∈ behind.takeWhile isBlank, isBlank c = true := fun c hc => List.mem_takeWhile_imp hc
  have hrest : (dropBlanks behind).takeWhile isBlank = [] := by
    cases hdrop : dropBlanks behind with
    | nil => rfl
    | cons d rest =>
        have hhead := List.head?_dropWhile_not isBlank behind
        unfold dropBlanks at hdrop
        rw [hdrop] at hhead
        exact List.takeWhile_cons_of_neg (by simpa using hhead)
  have hsplit : lead ++ ("[PC]".toList ++ behind)
      = lead ++ (['[', 'P', 'C', ']'] ++ behind.takeWhile isBlank) ++ dropBlanks behind := by
    have hbehind : behind = behind.takeWhile isBlank ++ dropBlanks behind :=
      List.takeWhile_append_dropWhile.symm
    rw [List.append_assoc, List.append_assoc, ← hbehind]
    rfl
  rw [hsplit, (takes_desktop hlead hbehind hrest).replaceMarks]
  rfl

/-- The signs that are left without the desktop marks. -/
def desktopSigns (s : List Char) : List Char :=
  signs (replaceMarks desktopMark [] s)

/-- A blank makes no difference, even if a desktop mark takes it along. -/
theorem desktopSigns_cons_of_blank {c : Char} (hc : isBlank c = true) (s : List Char) :
    desktopSigns (c :: s) = desktopSigns s := by
  have hdrop : dropBlanks (c :: s) = dropBlanks s := List.dropWhile_cons_of_pos hc
  unfold desktopSigns
  cases hmark : dropLiteral? "[PC]" (dropBlanks s) with
  | none =>
      have hnone : desktopMark (c :: s) = none := by
        apply desktopMark_eq_none
        rw [hdrop]
        exact hmark
      have hsign : ¬ (!isBlank c) = true := by
        rw [hc]
        exact Bool.false_ne_true
      rw [replaceMarks_cons_of_none hnone]
      exact List.filter_cons_of_neg hsign
  | some behind =>
      have hlead : ∀ d ∈ s.takeWhile isBlank, isBlank d = true := fun d hd => List.mem_takeWhile_imp hd
      have hsplit : s = s.takeWhile isBlank ++ ("[PC]".toList ++ behind) := by
        rw [← dropLiteral?_eq_some_iff.mp hmark]
        exact List.takeWhile_append_dropWhile.symm
      have hlead' : ∀ d ∈ c :: s.takeWhile isBlank, isBlank d = true := List.forall_mem_cons.mpr ⟨hc, hlead⟩
      have hfirst := replaceMarks_desktop hlead' behind
      have hsecond := replaceMarks_desktop hlead behind
      rw [List.cons_append, ← hsplit] at hfirst
      rw [← hsplit] at hsecond
      rw [hfirst, hsecond]

theorem desktopSigns_dropBlanks (s : List Char) : desktopSigns (dropBlanks s) = desktopSigns s := by
  induction s with
  | nil => rfl
  | cons c s ih =>
      cases hc : isBlank c with
      | true =>
          have hdrop : dropBlanks (c :: s) = dropBlanks s := List.dropWhile_cons_of_pos hc
          rw [hdrop, ih, desktopSigns_cons_of_blank hc]
      | false => rw [dropBlanks_cons_of_notBlank hc]

theorem desktopSigns_desktop (s : List Char) : desktopSigns ("[PC]".toList ++ s) = desktopSigns s := by
  have hlead : ∀ c ∈ ([] : List Char), isBlank c = true := fun c hc => by cases hc
  have htaken := replaceMarks_desktop hlead s
  rw [List.nil_append] at htaken
  rw [← desktopSigns_dropBlanks s]
  unfold desktopSigns
  rw [htaken]

theorem desktopSigns_cons {c : Char} (hc : isBlank c = false) (hmark : ¬ "[PC]".toList <+: c :: s) :
    desktopSigns (c :: s) = c :: desktopSigns s := by
  have hnone : desktopMark (c :: s) = none := by
    apply desktopMark_eq_none
    rw [dropBlanks_cons_of_notBlank hc]
    exact dropLiteral?_eq_none fun rest heq => hmark ⟨rest, heq.symm⟩
  have hsign : (!isBlank c) = true := by
    rw [hc]
    rfl
  unfold desktopSigns
  rw [replaceMarks_cons_of_none hnone]
  exact List.filter_cons_of_pos hsign

/-- What a part of a text names, the text names. -/
theorem Names.of_infix {version : Version} (h : Names stage version s) (hpart : s <:+: t) :
    Names stage version t := by
  obtain ⟨first, second, letters, hversion⟩ := h
  exact ⟨first, second, letters, hversion.trans hpart⟩

/-- **Taking desktop marks out** of a text that names no version keeps the other signs. By induction on how the
text is read without its marks; a desktop mark takes along blanks only. -/
theorem desktopSigns_eq (h : Unmarked stage s kept) (hnames : ∀ version, ¬ Names stage version s) :
    desktopSigns s = signs kept := by
  induction h with
  | nil => rfl
  | @plain c s kept hc _ ih =>
      have hrest : desktopSigns s = signs kept := by
        apply ih
        intro version hversion
        exact hnames version (hversion.of_infix (List.suffix_cons c s).isInfix)
      cases hblank : isBlank c with
      | true =>
          rw [desktopSigns_cons_of_blank hblank, hrest]
          exact (List.filter_cons_of_neg (by rw [hblank]; exact Bool.false_ne_true)).symm
      | false =>
          rw [desktopSigns_cons hblank (hc _ .desktop), hrest]
          exact (List.filter_cons_of_pos (by rw [hblank]; rfl)).symm
  | @mark t s kept ht _ ih =>
      have hrest : desktopSigns s = signs kept := by
        apply ih
        intro version hversion
        exact hnames version (hversion.of_infix (List.suffix_append t s).isInfix)
      cases ht with
      | desktop => rw [desktopSigns_desktop, hrest]
      | version first second letters version =>
          exact absurd ⟨first, second, letters, (List.prefix_append _ _).isInfix⟩ (hnames version)

/-- **A rule keeps the signs in front of the cut** that belong to no mark. -/
theorem signs_skipRule {body front back : List Char} (hcut : Cut stage body front back)
    (hkept : Unmarked stage front kept) : signs (skipRule stage body) = signs kept := by
  unfold skipRule
  rw [signs_trim, ← hcut.front_eq]
  exact desktopSigns_eq hkept hcut.front_names

/-- An empty rule is what is left of nothing but marks and blanks. -/
theorem skipRule_eq_nil_iff {body front back : List Char} (hcut : Cut stage body front back)
    (hkept : Unmarked stage front kept) : skipRule stage body = [] ↔ signs kept = [] := by
  rw [← signs_skipRule hcut hkept]
  unfold skipRule
  rw [trim_eq_nil_iff, signs_trim]

/-- What a skip directive that applies declares. -/
theorem ofLine?_of_skip {f : Filter} {line : String} {body : List Char}
    (hhead : head? line.toList = some (.skip, body)) (haccepts : f.accepts line.toList = true) :
    ofLine? f line = .ok (some (.skip (String.ofList (skipRule f.stage body)))) := by
  unfold ofLine?
  rw [hhead]
  exact if_pos haccepts

/-- **A line stores a rule**: it declares the rule, and so it does among any other lines. -/
structure Stores (f : Filter) (line rule : String) : Prop where
  declares : ofLine? f line = .ok (some (.skip rule))
  inserts : ∀ xs ys a b, Declarations.ofLines f xs = .ok a → Declarations.ofLines f ys = .ok b →
    ∃ found, Declarations.ofLines f (xs ++ line :: ys) = .ok found ∧
      found.skipRules = a.skipRules ++ rule :: b.skipRules

theorem stores_of_ofLine? {f : Filter} {line rule : String} (h : ofLine? f line = .ok (some (.skip rule))) :
    Stores f line rule where
  declares := h
  inserts := by
    intro xs ys a b ha hb
    have hline : Declarations.ofLines f [line] = .ok (Declarations.add {} (.skip rule)) := by
      rw [Declarations.ofLines_singleton]
      unfold Declarations.addLine
      rw [h]
      rfl
    have hbehind : Declarations.ofLines f (line :: ys)
        = .ok ((Declarations.add {} (.skip rule)).append b) := by
      rw [← List.singleton_append, Declarations.ofLines_append, hline, hb]
      rfl
    refine ⟨a.append ((Declarations.add {} (.skip rule)).append b), ?_, rfl⟩
    rw [Declarations.ofLines_append, ha, hbehind]
    rfl

/-- **What a rule keeps of a body**: the signs in front of the first version, but for marks. -/
structure Keeps (stage : Stage) (body : List Char) (rule : String) (front back kept lost : List Char) : Prop where
  cut : Cut stage body front back
  unmarked_front : Unmarked stage front kept
  unmarked_back : Unmarked stage back lost
  unmarked_body : Unmarked stage body (kept ++ lost)
  /-- The rule has the signs in front of the cut, in order. -/
  signs_eq : signs rule.toList = signs kept
  /-- It has all signs of the predicate if no others stand behind the cut. -/
  complete_iff : signs rule.toList = signs (kept ++ lost) ↔ signs lost = []
  /-- It is empty if there are none in front. -/
  empty_iff : rule = "" ↔ signs kept = []

/-- **Skip predicates are cut at the first version.** A skip directive that applies stores one rule. It consists
of the characters in front of the first version of the stage that are not blank and belong to no mark, in order.
So it is the whole predicate exactly if only marks and blanks follow, and it is empty exactly if only marks and
blanks stand in front. -/
theorem skip_keeps {f : Filter} {line : String} {body : List Char}
    (hhead : head? line.toList = some (.skip, body)) (haccepts : f.accepts line.toList = true) :
    ∃ rule front back kept lost, Stores f line rule ∧ Keeps f.stage body rule front back kept lost := by
  obtain ⟨back, hcut⟩ := cut_beforeMark f.stage body
  obtain ⟨kept, hkept⟩ := exists_unmarked f.stage (beforeMark (versionMark f.stage) body)
  obtain ⟨lost, hlost⟩ := exists_unmarked f.stage back
  have hrule : signs (String.ofList (skipRule f.stage body)).toList = signs kept := by
    rw [String.toList_ofList]
    exact signs_skipRule hcut hkept
  have hempty : ∀ r : List Char, String.ofList r = "" ↔ r = [] := by
    intro r
    rw [← String.toList_inj, String.toList_ofList]
    exact Iff.rfl
  refine ⟨String.ofList (skipRule f.stage body), beforeMark (versionMark f.stage) body, back, kept, lost,
    stores_of_ofLine? (ofLine?_of_skip hhead haccepts), ?_⟩
  exact {
    cut := hcut
    unmarked_front := hkept
    unmarked_back := hlost
    unmarked_body := by
      rw [hcut.split]
      exact hkept.append hlost hcut.start
    signs_eq := hrule
    complete_iff := by rw [hrule, signs_append, List.self_eq_append_right]
    empty_iff := by rw [hempty, skipRule_eq_nil_iff hcut hkept] }

/-! ### A version in front of a predicate -/

namespace VersionFirst

def line : String :=
  "// SKIP: [ps30] $A"

def body : List Char :=
  "[ps30] $A".toList

def version : Version where
  chars := "30".toList
  spelled := ⟨"30".toList, [], rfl, by decide, List.all_eq_true.mp rfl, Or.inl rfl⟩

theorem head?_eq : head? line.toList = some (.skip, body) := by
  decide +kernel

theorem accepts_eq : (Filter.forModel .pixel .three).accepts line.toList = true := by
  decide +kernel

end VersionFirst

theorem skip_keeps_version_first :
    ∃ rule front back kept lost, Stores (Filter.forModel .pixel .three) VersionFirst.line rule ∧
      Keeps .pixel VersionFirst.body rule front back kept lost :=
  skip_keeps VersionFirst.head?_eq VersionFirst.accepts_eq

/-- **A predicate can be lost**: a version in front of it takes all of it away. -/
theorem not_forall_signs_kept :
    ¬ ∀ (f : Filter) (line : String) (body kept : List Char) (rule : String),
      head? line.toList = some (.skip, body) → f.accepts line.toList = true →
        ofLine? f line = .ok (some (.skip rule)) → Unmarked f.stage body kept →
          signs rule.toList = signs kept := by
  intro h
  have hplain : Unmarked .pixel " $A".toList " $A".toList :=
    .of_bracket_notMem (by decide)
  have hbody : Unmarked .pixel VersionFirst.body " $A".toList :=
    .mark (.version 'p' 's' rfl VersionFirst.version) hplain
  have hline : ofLine? (Filter.forModel .pixel .three) VersionFirst.line = .ok (some (.skip "")) := by
    decide +kernel
  have hsigns := h _ _ _ _ _ VersionFirst.head?_eq VersionFirst.accepts_eq hline hbody
  exact absurd hsigns (by decide)

end ShaderCombos.Directive
