import Mathlib
import ShaderCombos.Proofs.IndexClass.Returned
import ShaderCombos.Proofs.Text.Blanks

/-!
# `Proofs.IndexClass.Members` — the member functions of a class, found in its text

A class is text, and whoever reads it sees lines. A member function is a line, its head, with the body behind it
between two braces that have a line of their own. `members` reads a text that way, without knowing what a class
is made of. For a class whose parts hold no line feeds it finds what was put in (`members_text`): a setter for
each combo, the constructor, and the index function, in this order.

## Contents
- **Lines.** `framed?` reads a line with a fixed beginning and a fixed end; `framed?_eq_none`.
- **Member functions.** `Member`, `members`; `membersFrom_append` for lines between them, `membersFrom_lines` for
  one of them and `exists_membersFrom_flatMap` for a run of them.
- **Debug blocks.** `mem_of_mem_debugOnly`, `filterMap_debugOnly`, and `filterMap_setterLines` for a setter.
- **The members of a class.** `setter`, `constructor`, `indexFunction`, and `map_toList_lines`. How the lines
  begin (`of_mem_classLines`), that they hold no line feeds (`SingleLine.lines`), `members_text` and
  `membersFrom_lines_toList`.
-/

namespace ShaderCombos.IndexClass

open Text

/-! ## Lines -/

/-- What stands between two fixed texts that a line begins and ends with. -/
def framed? (front back : String) (line : List Char) : Option String :=
  (dropLiteral? front line).bind fun rest => (rest.dropSuffix? back.toList).map String.ofList

theorem framed?_append (front middle back : String) :
    framed? front back (front.toList ++ (middle.toList ++ back.toList)) = some middle := by
  have hmiddle : (middle.toList ++ back.toList).dropSuffix? back.toList = some middle.toList :=
    List.dropSuffix?_eq_some_iff.mpr ⟨_, rfl, beq_self_eq_true _⟩
  unfold framed?
  rw [dropLiteral?_append, Option.bind_some, hmiddle, Option.map_some, String.ofList_toList]

/-- Two fixed texts stand apart if no text begins with both. -/
def Apart (a b : String) : Prop :=
  ¬ a.toList <+: b.toList ∧ ¬ b.toList <+: a.toList

instance (a b : String) : Decidable (Apart a b) :=
  inferInstanceAs (Decidable (_ ∧ _))

/-- A line that begins with one of two such texts does not begin with the other. -/
theorem not_begins_of_apart {front start : String} {line : List Char} (h : start.toList <+: line)
    (hapart : Apart front start) : ¬ front.toList <+: line := by
  intro hfront
  rcases List.prefix_or_prefix_of_prefix hfront h with hleft | hright
  · exact hapart.1 hleft
  · exact hapart.2 hright

theorem dropLiteral?_eq_none_of_apart {front start : String} {line : List Char} (h : start.toList <+: line)
    (hapart : Apart front start) : dropLiteral? front line = none :=
  dropLiteral?_eq_none fun rest heq => not_begins_of_apart h hapart ⟨rest, heq.symm⟩

/-- A line that begins in another way is not framed. -/
theorem framed?_eq_none {front start : String} {line : List Char} (back : String) (h : start.toList <+: line)
    (hapart : Apart front start) : framed? front back line = none := by
  unfold framed?
  rw [dropLiteral?_eq_none_of_apart h hapart]
  rfl

/-! ## Member functions -/

/-- A member function: its head, and the lines of its body. -/
structure Member where
  head : List Char
  body : List (List Char)
  deriving DecidableEq

/-- The line that opens the body of a member function. -/
def opening : List Char :=
  "\t\x7b".toList

/-- The line that closes the body of a member function. -/
def closing : List Char :=
  "\t\x7d".toList

/-- The member functions in some lines that follow the line `head`. -/
def membersFrom (head : List Char) : List (List Char) → List Member
  | [] => []
  | line :: rest =>
    if line = opening then ⟨head, rest.takeWhile (· ≠ closing)⟩ :: membersFrom line rest
    else membersFrom line rest

/-- The member functions in a text. -/
def members (text : String) : List Member :=
  membersFrom [] (text.toList.splitOn '\n')

namespace Member

/-- The member function as it is written. -/
def lines (m : Member) : List (List Char) :=
  m.head :: opening :: (m.body ++ [closing])

/-- No line of the member function can be taken for one of its braces. -/
structure Proper (m : Member) : Prop where
  head : m.head ≠ opening
  opening_notMem : opening ∉ m.body
  closing_notMem : closing ∉ m.body

end Member

variable {ls : List (List Char)} {m : Member} {ms : List Member}

/-- Lines without an opening brace are passed over. -/
theorem membersFrom_append (h : opening ∉ ls) (head : List Char) (rest : List (List Char)) :
    membersFrom head (ls ++ rest) = membersFrom (ls.getLastD head) rest := by
  induction ls generalizing head with
  | nil => rfl
  | cons line ls ih =>
      have hline : line ≠ opening := fun heq => h (heq ▸ List.mem_cons_self)
      have hrest : opening ∉ ls := fun hmem => h (List.mem_cons_of_mem line hmem)
      rw [List.cons_append, membersFrom, if_neg hline, ih hrest, List.getLastD_cons]

/-- **One member function** is found as it was written. -/
theorem membersFrom_lines (hm : m.Proper) (head : List Char) (rest : List (List Char)) :
    membersFrom head (m.lines ++ rest) = m :: membersFrom closing rest := by
  have hassoc : m.lines ++ rest = m.head :: opening :: (m.body ++ closing :: rest) := by
    simp [Member.lines]
  have htake : (m.body ++ closing :: rest).takeWhile (· ≠ closing) = m.body :=
    takeWhile_ne hm.closing_notMem rest
  -- The body is passed over, up to and with the brace that closes it.
  have hplain : opening ∉ m.body ++ [closing] := by
    intro hmem
    rcases List.mem_append.mp hmem with hmem | hmem
    · exact hm.opening_notMem hmem
    · exact absurd (List.mem_singleton.mp hmem) (by decide)
  have hbehind : membersFrom opening (m.body ++ closing :: rest) = membersFrom closing rest := by
    have hskip := membersFrom_append hplain opening rest
    rw [List.append_assoc, List.singleton_append, List.getLastD_eq_getLast?, List.getLast?_concat] at hskip
    exact hskip
  rw [hassoc, membersFrom, if_neg hm.head, membersFrom, if_pos rfl, htake, hbehind]

/-- **Member functions in a row**, with an empty line behind each, are found in order. -/
theorem exists_membersFrom_flatMap (h : ∀ m ∈ ms, m.Proper) (head : List Char) (rest : List (List Char)) :
    ∃ last, membersFrom head (ms.flatMap (fun m => m.lines ++ [[]]) ++ rest) = ms ++ membersFrom last rest := by
  induction ms generalizing head with
  | nil => exact ⟨head, rfl⟩
  | cons m ms ih =>
      obtain ⟨last, hlast⟩ := ih (fun n hn => h n (List.mem_cons_of_mem m hn)) []
      have hblank : ([] : List Char) ≠ opening := by decide
      refine ⟨last, ?_⟩
      rw [List.flatMap_cons, List.append_assoc, List.append_assoc, membersFrom_lines (h m List.mem_cons_self),
        List.singleton_append, membersFrom, if_neg hblank, hlast, List.cons_append]

/-! ## Debug blocks -/

theorem mem_of_mem_debugOnly {line : String} {ls : List String} (h : line ∈ debugOnly ls) :
    line ∈ ls ∨ ls ≠ [] ∧ (line = "#ifdef _DEBUG" ∨ line = "#endif\t// _DEBUG") := by
  cases ls with
  | nil => cases h
  | cons first ls =>
      have hblock : line ∈ ["#ifdef _DEBUG"] ++ first :: ls ++ ["#endif\t// _DEBUG"] := h
      rcases List.mem_append.mp hblock with hblock | hend
      · rcases List.mem_append.mp hblock with hstart | hinner
        · exact Or.inr ⟨List.cons_ne_nil _ _, Or.inl (List.mem_singleton.mp hstart)⟩
        · exact Or.inl hinner
      · exact Or.inr ⟨List.cons_ne_nil _ _, Or.inr (List.mem_singleton.mp hend)⟩

/-- A reader that makes nothing of the guards reads the lines between them. -/
theorem filterMap_debugOnly {β : Type} {read : List Char → Option β}
    (hstart : read "#ifdef _DEBUG".toList = none) (hend : read "#endif\t// _DEBUG".toList = none)
    (ls : List String) :
    ((debugOnly ls).map String.toList).filterMap read = (ls.map String.toList).filterMap read := by
  cases ls with
  | nil => rfl
  | cons first ls =>
      show ((["#ifdef _DEBUG"] ++ first :: ls ++ ["#endif\t// _DEBUG"]).map String.toList).filterMap read = _
      rw [List.map_append, List.map_append, List.filterMap_append, List.filterMap_append, List.map_singleton,
        List.map_singleton, List.filterMap_cons_none hstart, List.filterMap_cons_none hend]
      exact List.append_nil _

/-- The lines of a setter that are the same for all combos. -/
def fixedLines : List String :=
  ["\t\x7b", "#ifdef _DEBUG", "#endif\t// _DEBUG", "\t\x7d", ""]

/-- **What is read from the lines of a setter** comes from its assertion and its assignment, if the reader makes
nothing of the head, of the flag and of the lines that all setters have. -/
theorem filterMap_setterLines {β : Type} {read : List Char → Option β} (c : Combo)
    (hfixed : ∀ l ∈ fixedLines, read l.toList = none)
    (hhead : read s!"\tvoid Set{c.name}( int i )".toList = none)
    (hraise : read s!"\t\t{flagName c.name} = true;".toList = none) :
    ((setterLines c).map String.toList).filterMap read
      = [s!"\t\tAssert( i >= {c.min.toInt} && i <= {c.max.toInt} );".toList,
          s!"\t\t{fieldName c.name} = i;".toList].filterMap read := by
  have hopen : read "\t\x7b".toList = none := hfixed _ (by decide)
  have hdebug : ((debugOnly (if c.mustBeSet then [s!"\t\t{flagName c.name} = true;"] else [])).map
      String.toList).filterMap read = [] := by
    rw [filterMap_debugOnly (hfixed _ (by decide)) (hfixed _ (by decide))]
    by_cases h : c.mustBeSet = true
    · rw [if_pos h, List.map_singleton, List.filterMap_cons_none hraise, List.filterMap_nil]
    · rw [if_neg h]
      rfl
  have hclose : ["\t\x7d".toList, "".toList].filterMap read = [] := by
    rw [List.filterMap_cons_none (hfixed _ (by decide)), List.filterMap_cons_none (hfixed _ (by decide)),
      List.filterMap_nil]
  unfold setterLines
  rw [List.map_append, List.map_append, List.filterMap_append, List.filterMap_append, hdebug, List.append_nil]
  simp only [List.map_cons, List.map_nil]
  rw [List.filterMap_cons_none hhead, List.filterMap_cons_none hopen, hclose, List.append_nil]

/-! ## The members of a class -/

/-- The setter of a combo. -/
def setter (c : Combo) : Member where
  head := s!"\tvoid Set{c.name}( int i )".toList
  body := ([s!"\t\tAssert( i >= {c.min.toInt} && i <= {c.max.toInt} );", s!"\t\t{fieldName c.name} = i;"]
    ++ debugOnly (if c.mustBeSet then [s!"\t\t{flagName c.name} = true;"] else [])).map String.toList

/-- The constructor of a class. -/
def constructor (k : IndexClass) : Member where
  head := s!"\t{k.name}( {k.parameters} )".toList
  body := (k.combos.map (fun c => s!"\t\t{fieldName c.name} = {c.initialExpression};")
    ++ debugOnly (k.tracked.map fun c => s!"\t\t{flagName c.name} = false;")).map String.toList

/-- The index function of a class. -/
def indexFunction (k : IndexClass) : Member where
  head := "\tint GetIndex()".toList
  body := (k.checkLines ++ [k.returnLine]).map String.toList

/-- The lines in front of the member functions. -/
def declarationLines (k : IndexClass) : List String :=
  [s!"class {k.name}", "\x7b"] ++ k.fieldLines ++ k.flagLines ++ ["public:"]

/-- The lines of a class without its macro: declarations, and then members. -/
def classLines (k : IndexClass) : List (List Char) :=
  k.declarationLines.map String.toList
    ++ ((k.combos.map setter ++ [k.constructor]).flatMap (fun m => m.lines ++ [[]])
      ++ (k.indexFunction.lines ++ ["\x7d;".toList, []]))

variable {k : IndexClass} {c : Combo} {line : List Char}

/-- **A class is made of its members**, with declarations in front and the macro behind. -/
theorem map_toList_lines (h : k.combos = [] → k.layout.fields = []) :
    k.lines.map String.toList = k.classLines ++ [k.macroLine.toList, []] := by
  have hsetters : (k.combos.flatMap setterLines).map String.toList
      = (k.combos.map setter).flatMap fun m => m.lines ++ [[]] := by
    rw [List.map_flatMap, List.flatMap_map]
    congr 1
    funext c
    unfold setterLines setter Member.lines
    simp only [List.map_append, List.map_cons, List.map_nil, List.cons_append, List.nil_append,
      List.append_assoc]
    rfl
  have hconstructor : k.constructorLines.map String.toList = k.constructor.lines ++ [[]] := by
    unfold constructorLines constructor Member.lines
    simp only [List.map_append, List.map_cons, List.map_nil, List.cons_append, List.nil_append,
      List.append_assoc]
    rfl
  have hindex : k.indexLines.map String.toList = k.indexFunction.lines := by
    unfold indexLines indexFunction Member.lines
    rw [indexBodyLines_eq h, List.map_append, List.map_append]
    rfl
  have hend : ["\x7d;", ""].map String.toList = ["\x7d;".toList, []] := rfl
  have hmacro : [k.macroLine, ""].map String.toList = [k.macroLine.toList, []] := rfl
  have hsplit : k.lines = k.declarationLines ++ (k.combos.flatMap setterLines ++ k.constructorLines
      ++ (k.indexLines ++ ["\x7d;", ""])) ++ [k.macroLine, ""] := by
    unfold lines declarationLines
    simp only [List.append_assoc]
  unfold classLines
  rw [hsplit, List.map_append, hmacro, List.map_append, List.map_append, List.map_append, List.map_append,
    hsetters, hconstructor, hindex, hend, List.flatMap_append, List.flatMap_singleton]

/-! ### How lines begin -/

/-- The lines that guard what only debug builds compile. -/
def guardLines : List (List Char) :=
  ["#ifdef _DEBUG".toList, "#endif\t// _DEBUG".toList]

/-- A member function as classes have them, guarded or not: the head is indented, and the body still more. -/
structure Member.Indented (guarded : Prop) (m : Member) : Prop where
  head : "\t".toList <+: m.head
  head_ne : m.head ≠ opening
  body : ∀ line ∈ m.body, "\t\t".toList <+: line ∨ guarded ∧ line ∈ guardLines

theorem begins_append {start a : String} (h : start.toList <+: a.toList) (b : String) :
    start.toList <+: (a ++ b).toList := by
  rw [String.toList_append]
  exact h.trans (List.prefix_append _ _)

theorem ne_of_apart {start text : String} (h : start.toList <+: line) (hapart : Apart start text) :
    line ≠ text.toList := by
  rintro rfl
  exact hapart.1 h

theorem Member.Indented.proper {guarded : Prop} (h : m.Indented guarded) : m.Proper where
  head := h.head_ne
  opening_notMem := by
    intro hmem
    rcases h.body _ hmem with hbody | ⟨-, hguard⟩
    · exact ne_of_apart hbody (show Apart "\t\t" "\t\x7b" by decide) rfl
    · exact absurd hguard (by decide)
  closing_notMem := by
    intro hmem
    rcases h.body _ hmem with hbody | ⟨-, hguard⟩
    · exact ne_of_apart hbody (show Apart "\t\t" "\t\x7d" by decide) rfl
    · exact absurd hguard (by decide)

theorem Member.Indented.of_mem_lines {guarded : Prop} (h : m.Indented guarded) (hline : line ∈ m.lines) :
    "\t".toList <+: line ∨ guarded ∧ line ∈ guardLines := by
  have hbraces : ∀ line ∈ [opening, closing], "\t".toList <+: line := by decide
  have htwo : "\t".toList <+: "\t\t".toList := by decide
  rcases List.mem_cons.mp hline with rfl | hline
  · exact Or.inl h.head
  · rcases List.mem_cons.mp hline with rfl | hline
    · exact Or.inl (hbraces _ List.mem_cons_self)
    · rcases List.mem_append.mp hline with hbody | hline
      · exact (h.body line hbody).imp_left htwo.trans
      · obtain rfl := List.mem_singleton.mp hline
        exact Or.inl (hbraces _ (List.mem_cons_of_mem _ List.mem_cons_self))

/-- Indented lines, guarded if they are for debug builds only. -/
theorem of_mem_debugOnly {start : String} {ls : List String} (h : ∀ l ∈ ls, start.toList <+: l.toList)
    (hline : line ∈ (debugOnly ls).map String.toList) :
    start.toList <+: line ∨ ls ≠ [] ∧ line ∈ guardLines := by
  obtain ⟨l, hl, rfl⟩ := List.mem_map.mp hline
  rcases mem_of_mem_debugOnly hl with hmem | ⟨hne, hguard⟩
  · exact Or.inl (h l hmem)
  · refine Or.inr ⟨hne, ?_⟩
    rcases hguard with rfl | rfl
    · exact List.mem_cons_self
    · exact List.mem_cons_of_mem _ List.mem_cons_self

theorem begins_setterHead (c : Combo) : "\tvoid Set".toList <+: (setter c).head :=
  begins_append (begins_append List.prefix_rfl _) _

theorem begins_constructorHead (k : IndexClass) : ("\t" ++ k.name).toList <+: k.constructor.head :=
  begins_append (begins_append (begins_append List.prefix_rfl _) _) _

theorem begins_macroLine (k : IndexClass) : "#define ".toList <+: k.macroLine.toList :=
  begins_append (begins_append (begins_append List.prefix_rfl _) _) _

/-- The lines of a setter are indented, and guarded only if there is a flag. -/
theorem indented_setter (c : Combo) : (setter c).Indented (c.mustBeSet = true) where
  head := List.IsPrefix.trans (by decide) (begins_setterHead c)
  head_ne := ne_of_apart (begins_setterHead c) (by decide)
  body := by
    have hassert : "\t\t".toList
        <+: s!"\t\tAssert( i >= {c.min.toInt} && i <= {c.max.toInt} );".toList :=
      begins_append (begins_append (begins_append (begins_append (by decide) _) _) _) _
    have hstore : "\t\t".toList <+: s!"\t\t{fieldName c.name} = i;".toList :=
      begins_append (begins_append List.prefix_rfl _) _
    have hraise : "\t\t".toList <+: s!"\t\t{flagName c.name} = true;".toList :=
      begins_append (begins_append List.prefix_rfl _) _
    intro line hline
    unfold setter at hline
    rw [List.map_append, List.mem_append] at hline
    rcases hline with hline | hline
    · simp only [List.map_cons, List.map_nil, List.mem_cons, List.not_mem_nil, or_false] at hline
      rcases hline with rfl | rfl
      · exact Or.inl hassert
      · exact Or.inl hstore
    · by_cases h : c.mustBeSet = true
      · rw [if_pos h] at hline
        have hflag : ∀ l ∈ [s!"\t\t{flagName c.name} = true;"], "\t\t".toList <+: l.toList :=
          List.forall_mem_singleton.mpr hraise
        rcases of_mem_debugOnly hflag hline with hbody | ⟨-, hguard⟩
        · exact Or.inl hbody
        · exact Or.inr ⟨h, hguard⟩
      · rw [if_neg h] at hline
        cases hline

/-- The lines of a constructor are indented, and guarded only if there are flags. -/
theorem indented_constructor (k : IndexClass) : k.constructor.Indented (k.tracked ≠ []) where
  head := (begins_append List.prefix_rfl k.name).trans (begins_constructorHead k)
  head_ne := by
    intro heq
    -- The head ends in a parenthesis.
    have hlast : k.constructor.head.getLast? = some ')' := by
      show ("\t" ++ k.name ++ "( " ++ k.parameters ++ " )").toList.getLast? = some ')'
      have hend : " )".toList ≠ [] := by decide
      rw [String.toList_append, List.getLast?_append_of_ne_nil _ hend]
      rfl
    have hbrace : opening.getLast? = some '\x7b' := rfl
    rw [heq, hbrace] at hlast
    cases hlast
  body := by
    have hinit : ∀ c : Combo, "\t\t".toList
        <+: s!"\t\t{fieldName c.name} = {c.initialExpression};".toList := fun c =>
      begins_append (begins_append (begins_append (begins_append List.prefix_rfl _) _) _) _
    have hclear : ∀ c : Combo, "\t\t".toList <+: s!"\t\t{flagName c.name} = false;".toList := fun c =>
      begins_append (begins_append List.prefix_rfl _) _
    intro line hline
    unfold constructor at hline
    rw [List.map_append, List.mem_append] at hline
    rcases hline with hline | hline
    · rw [List.map_map] at hline
      obtain ⟨c, -, rfl⟩ := List.mem_map.mp hline
      exact Or.inl (hinit c)
    · have hflags : ∀ l ∈ k.tracked.map (fun c => s!"\t\t{flagName c.name} = false;"),
          "\t\t".toList <+: l.toList := by
        intro l hl
        obtain ⟨c, -, rfl⟩ := List.mem_map.mp hl
        exact hclear c
      rcases of_mem_debugOnly hflags hline with hbody | ⟨hne, hguard⟩
      · exact Or.inl hbody
      · exact Or.inr ⟨fun hnone => hne (List.map_eq_nil_iff.mpr hnone), hguard⟩

/-- The lines of the index function are indented, and none is guarded. -/
theorem indented_indexFunction (k : IndexClass) : k.indexFunction.Indented False where
  head := by
    show "\t".toList <+: "\tint GetIndex()".toList
    decide
  head_ne := by
    show "\tint GetIndex()".toList ≠ opening
    decide
  body := by
    intro line hline
    obtain ⟨l, hl, rfl⟩ := List.mem_map.mp hline
    rcases List.mem_append.mp hl with hcheck | hreturn
    · rw [eq_of_mem_checkLines hcheck]
      exact Or.inl (begins_append (begins_append (by decide) _) _)
    · obtain rfl := List.mem_singleton.mp hreturn
      exact Or.inl (begins_append (begins_append (by decide) _) _)

theorem of_mem_flagLines (h : line ∈ k.flagLines.map String.toList) :
    "\tbool m_b".toList <+: line ∨ k.tracked ≠ [] ∧ line ∈ guardLines := by
  have hflags : ∀ l ∈ k.tracked.map (fun c => s!"\tbool {flagName c.name} : 1;"),
      "\tbool m_b".toList <+: l.toList := by
    intro l hl
    obtain ⟨c, -, rfl⟩ := List.mem_map.mp hl
    show "\tbool m_b".toList <+: ("\tbool " ++ ("m_b" ++ c.name) ++ " : 1;").toList
    rw [String.toList_append, String.toList_append, String.toList_append]
    exact ⟨_, rfl⟩
  rcases of_mem_debugOnly hflags h with hflag | ⟨hne, hguard⟩
  · exact Or.inl hflag
  · exact Or.inr ⟨fun hnone => hne (List.map_eq_nil_iff.mpr hnone), hguard⟩

theorem of_mem_fieldLines (h : line ∈ k.fieldLines.map String.toList) : "\tunsigned int ".toList <+: line := by
  obtain ⟨l, hl, rfl⟩ := List.mem_map.mp h
  obtain ⟨f, -, rfl⟩ := List.mem_map.mp hl
  exact begins_append (begins_append (begins_append (begins_append List.prefix_rfl _) _) _) _

/-- How the declarations of a class begin, guards apart. -/
def declarationStarts : List String :=
  ["class ", "\x7b", "\tunsigned int ", "\tbool m_b", "public:"]

theorem of_mem_declarationLines (h : line ∈ k.declarationLines.map String.toList) :
    (∃ start ∈ declarationStarts, start.toList <+: line) ∨ k.tracked ≠ [] ∧ line ∈ guardLines := by
  unfold declarationLines at h
  simp only [List.map_append, List.mem_append, List.map_cons, List.map_nil, List.mem_cons,
    List.not_mem_nil, or_false] at h
  unfold declarationStarts
  rcases h with (((rfl | rfl) | hfield) | hflag) | rfl
  · exact Or.inl ⟨"class ", by decide, begins_append List.prefix_rfl k.name⟩
  · exact Or.inl ⟨"\x7b", by decide, List.prefix_rfl⟩
  · exact Or.inl ⟨"\tunsigned int ", by decide, of_mem_fieldLines hfield⟩
  · exact (of_mem_flagLines hflag).imp_left fun hstart => ⟨"\tbool m_b", by decide, hstart⟩
  · exact Or.inl ⟨"public:", by decide, List.prefix_rfl⟩

/-- How the lines of a class begin, guards apart. -/
def classStarts : List String :=
  ["class ", "\x7b", "\t", "public:", "\x7d;"]

/-- **Each line of a class** is empty, begins in one of a few ways, or is a guard. -/
theorem of_mem_classLines (h : line ∈ k.classLines) :
    line = [] ∨ (∃ start ∈ classStarts, start.toList <+: line) ∨ k.tracked ≠ [] ∧ line ∈ guardLines := by
  have hdeclared : ∀ start ∈ declarationStarts, ∃ other ∈ classStarts, other.toList <+: start.toList := by
    decide
  have htab : "\t" ∈ classStarts := by decide
  unfold classLines at h
  simp only [List.mem_append, List.mem_flatMap, List.mem_map, List.mem_cons, List.not_mem_nil, or_false] at h
  rcases h with hdeclaration | ⟨m, hm, hline⟩ | hindex | rfl | rfl
  · refine Or.inr ((of_mem_declarationLines (List.mem_map.mpr hdeclaration)).imp_left ?_)
    rintro ⟨start, hmem, hstart⟩
    obtain ⟨other, hother, hshort⟩ := hdeclared start hmem
    exact ⟨other, hother, hshort.trans hstart⟩
  · rcases hline with hline | rfl
    · refine Or.inr ?_
      rcases hm with ⟨c, hc, rfl⟩ | rfl
      · rcases (indented_setter c).of_mem_lines hline with hstart | ⟨hset, hguard⟩
        · exact Or.inl ⟨"\t", htab, hstart⟩
        · have hmem : c ∈ k.tracked := List.mem_filter.mpr ⟨hc, hset⟩
          exact Or.inr ⟨List.ne_nil_of_mem hmem, hguard⟩
      · exact ((indented_constructor k).of_mem_lines hline).imp_left fun hstart => ⟨"\t", htab, hstart⟩
    · exact Or.inl rfl
  · rcases (indented_indexFunction k).of_mem_lines hindex with hstart | ⟨hfalse, -⟩
    · exact Or.inr (Or.inl ⟨"\t", htab, hstart⟩)
    · exact hfalse.elim
  · exact Or.inr (Or.inl ⟨"\x7d;", by decide, List.prefix_rfl⟩)
  · exact Or.inl rfl

/-! ### Line feeds -/

/-- Nothing that a class is made of holds a line feed. -/
structure SingleLine (k : IndexClass) : Prop where
  name : '\n' ∉ k.name.toList
  macroName : '\n' ∉ (macroName k.base k.kind).toList
  parameters : '\n' ∉ k.parameters.toList
  combos : ∀ c ∈ k.combos, '\n' ∉ c.name.toList
  expressions : ∀ c ∈ k.combos, '\n' ∉ c.initialExpression.toList
  fields : ∀ f ∈ k.layout.fields, '\n' ∉ f.name.toList

theorem lineFeed_notMem_debugOnly {ls : List String} (h : ∀ l ∈ ls, '\n' ∉ l.toList) :
    ∀ l ∈ debugOnly ls, '\n' ∉ l.toList := by
  intro l hl
  rcases mem_of_mem_debugOnly hl with hmem | ⟨-, rfl | rfl⟩
  · exact h l hmem
  · decide
  · decide

theorem lineFeed_notMem_repr (n : Nat) : '\n' ∉ n.repr.toList := by
  rw [Nat.toList_repr]
  intro hmem
  have hdigit := isDigit_of_mem_toDigits hmem
  exact absurd hdigit (by decide)

theorem lineFeed_notMem_toString (i : Int) : '\n' ∉ (toString i).toList := by
  cases i with
  | ofNat n => exact lineFeed_notMem_repr n
  | negSucc n =>
      show '\n' ∉ ("-" ++ (n + 1).repr).toList
      rw [lineFeed_notMem_append_iff]
      exact ⟨by decide, lineFeed_notMem_repr (n + 1)⟩

theorem SingleLine.fieldLines (h : k.SingleLine) : ∀ l ∈ k.fieldLines, '\n' ∉ l.toList := by
  intro l hl
  obtain ⟨f, hf, rfl⟩ := List.mem_map.mp hl
  show '\n' ∉ ("\tunsigned int " ++ ("m_n" ++ f.name) ++ " : " ++ f.bits.repr ++ ";").toList
  simp only [lineFeed_notMem_append_iff]
  exact ⟨⟨⟨⟨by decide, by decide, h.fields f hf⟩, by decide⟩, lineFeed_notMem_repr f.bits⟩, by decide⟩

theorem SingleLine.flagLines (h : k.SingleLine) : ∀ l ∈ k.flagLines, '\n' ∉ l.toList := by
  apply lineFeed_notMem_debugOnly
  intro l hl
  obtain ⟨c, hc, rfl⟩ := List.mem_map.mp hl
  show '\n' ∉ ("\tbool " ++ ("m_b" ++ c.name) ++ " : 1;").toList
  simp only [lineFeed_notMem_append_iff]
  exact ⟨⟨by decide, by decide, h.combos c (List.mem_of_mem_filter hc)⟩, by decide⟩

theorem lineFeed_notMem_setterLines (h : '\n' ∉ c.name.toList) : ∀ l ∈ setterLines c, '\n' ∉ l.toList := by
  have hhead : '\n' ∉ ("\tvoid Set" ++ c.name ++ "( int i )").toList := by
    simp only [lineFeed_notMem_append_iff]
    exact ⟨⟨by decide, h⟩, by decide⟩
  have hassert : '\n' ∉ ("\t\tAssert( i >= " ++ toString c.min.toInt ++ " && i <= "
      ++ toString c.max.toInt ++ " );").toList := by
    simp only [lineFeed_notMem_append_iff]
    exact ⟨⟨⟨⟨by decide, lineFeed_notMem_toString _⟩, by decide⟩, lineFeed_notMem_toString _⟩, by decide⟩
  have hstore : '\n' ∉ ("\t\t" ++ ("m_n" ++ c.name) ++ " = i;").toList := by
    simp only [lineFeed_notMem_append_iff]
    exact ⟨⟨by decide, by decide, h⟩, by decide⟩
  have hraise : '\n' ∉ ("\t\t" ++ ("m_b" ++ c.name) ++ " = true;").toList := by
    simp only [lineFeed_notMem_append_iff]
    exact ⟨⟨by decide, by decide, h⟩, by decide⟩
  have hflag : ∀ l ∈ debugOnly (if c.mustBeSet then [s!"\t\t{flagName c.name} = true;"] else []),
      '\n' ∉ l.toList := by
    apply lineFeed_notMem_debugOnly
    intro l hl
    by_cases hset : c.mustBeSet = true
    · rw [if_pos hset] at hl
      rw [List.mem_singleton.mp hl]
      exact hraise
    · rw [if_neg hset] at hl
      cases hl
  intro l hl
  unfold setterLines at hl
  simp only [List.mem_append, List.mem_cons, List.not_mem_nil, or_false] at hl
  rcases hl with ((rfl | rfl | rfl | rfl) | hl) | rfl | rfl
  · exact hhead
  · decide
  · exact hassert
  · exact hstore
  · exact hflag l hl
  · decide
  · decide

theorem SingleLine.constructorLines (h : k.SingleLine) : ∀ l ∈ k.constructorLines, '\n' ∉ l.toList := by
  have hhead : '\n' ∉ ("\t" ++ k.name ++ "( " ++ k.parameters ++ " )").toList := by
    simp only [lineFeed_notMem_append_iff]
    exact ⟨⟨⟨⟨by decide, h.name⟩, by decide⟩, h.parameters⟩, by decide⟩
  have hflag : ∀ l ∈ debugOnly (k.tracked.map fun c => s!"\t\t{flagName c.name} = false;"),
      '\n' ∉ l.toList := by
    apply lineFeed_notMem_debugOnly
    intro l hl
    obtain ⟨c, hc, rfl⟩ := List.mem_map.mp hl
    show '\n' ∉ ("\t\t" ++ ("m_b" ++ c.name) ++ " = false;").toList
    simp only [lineFeed_notMem_append_iff]
    exact ⟨⟨by decide, by decide, h.combos c (List.mem_of_mem_filter hc)⟩, by decide⟩
  intro l hl
  unfold IndexClass.constructorLines at hl
  simp only [List.mem_append, List.mem_cons, List.not_mem_nil, or_false, List.mem_map] at hl
  rcases hl with (((rfl | rfl) | ⟨c, hc, rfl⟩) | hl) | rfl | rfl
  · exact hhead
  · decide
  · show '\n' ∉ ("\t\t" ++ ("m_n" ++ c.name) ++ " = " ++ c.initialExpression ++ ";").toList
    simp only [lineFeed_notMem_append_iff]
    exact ⟨⟨⟨⟨by decide, by decide, h.combos c hc⟩, by decide⟩, h.expressions c hc⟩, by decide⟩
  · exact hflag l hl
  · decide
  · decide

/-- **A class made of single lines** holds no line feeds within its lines. -/
theorem SingleLine.lines (h : k.SingleLine) (hempty : k.combos = [] → k.layout.fields = []) :
    ∀ l ∈ k.lines, '\n' ∉ l.toList := by
  have hclass : '\n' ∉ ("class " ++ k.name).toList :=
    lineFeed_notMem_append_iff.mpr ⟨by decide, h.name⟩
  have hmacro : '\n' ∉ k.macroLine.toList := by
    rw [← List.count_eq_zero, count_macroLine h.combos, List.count_eq_zero]
    exact h.macroName
  intro l hl
  rw [lines_eq hempty] at hl
  unfold frontLines at hl
  simp only [List.mem_append, List.mem_cons, List.not_mem_nil, or_false, List.mem_flatMap] at hl
  rcases hl with ((((((rfl | rfl) | hl) | hl) | rfl) | ⟨c, hc, hl⟩) | hl) | hl | rfl | rfl
  · exact hclass
  · decide
  · exact h.fieldLines l hl
  · exact h.flagLines l hl
  · decide
  · exact lineFeed_notMem_setterLines (h.combos c hc) l hl
  · exact h.constructorLines l hl
  · exact lineFeed_notMem_endLines h.combos h.fields l hl
  · exact hmacro
  · decide

/-! ### Finding the members -/

/-- The lines of a class and its macro are found again. -/
theorem splitOn_text (h : k.SingleLine) (hempty : k.combos = [] → k.layout.fields = []) :
    k.text.toList.splitOn '\n' = k.classLines ++ [k.macroLine.toList, [], []] := by
  have hsplit := splitOn_unlines_append (h.lines hempty) []
  rw [List.append_nil, List.splitOn_nil, map_toList_lines hempty, List.append_assoc] at hsplit
  exact hsplit

/-- **The members of a class** are what is found in its lines, if no line behind them is an opening brace. -/
theorem membersFrom_classLines (k : IndexClass) {rest : List (List Char)} (hrest : opening ∉ rest) :
    membersFrom [] (k.classLines ++ rest) = k.combos.map setter ++ [k.constructor, k.indexFunction] := by
  have hproper : ∀ m ∈ k.combos.map setter ++ [k.constructor], m.Proper := by
    intro m hm
    rcases List.mem_append.mp hm with hsetter | hconstructor
    · obtain ⟨c, -, rfl⟩ := List.mem_map.mp hsetter
      exact (indented_setter c).proper
    · rw [List.mem_singleton.mp hconstructor]
      exact (indented_constructor k).proper
  have hapart : ∀ start ∈ declarationStarts, Apart start "\t\x7b" := by decide
  have hdeclarations : opening ∉ k.declarationLines.map String.toList := by
    intro hmem
    rcases of_mem_declarationLines hmem with ⟨start, hstart, hopening⟩ | ⟨-, hguard⟩
    · exact ne_of_apart hopening (hapart start hstart) rfl
    · exact absurd hguard (by decide)
  have hend : opening ∉ ["\x7d;".toList, []] ++ rest := by
    have hclass : opening ∉ ["\x7d;".toList, []] := by decide
    rw [List.mem_append, not_or]
    exact ⟨hclass, hrest⟩
  obtain ⟨last, hlast⟩ := exists_membersFrom_flatMap hproper
    ((k.declarationLines.map String.toList).getLastD [])
    (k.indexFunction.lines ++ (["\x7d;".toList, []] ++ rest))
  have hindex : membersFrom last (k.indexFunction.lines ++ (["\x7d;".toList, []] ++ rest))
      = [k.indexFunction] := by
    have hnone := membersFrom_append hend closing []
    rw [List.append_nil] at hnone
    rw [membersFrom_lines (indented_indexFunction k).proper, hnone]
    rfl
  unfold classLines
  rw [List.append_assoc, List.append_assoc, List.append_assoc, membersFrom_append hdeclarations, hlast, hindex,
    List.append_assoc]
  rfl

theorem opening_ne_macroLine (k : IndexClass) : opening ≠ k.macroLine.toList :=
  (ne_of_apart (begins_macroLine k) (by decide)).symm

/-- So they are found in the text. -/
theorem members_text (h : k.SingleLine) (hempty : k.combos = [] → k.layout.fields = []) :
    members k.text = k.combos.map setter ++ [k.constructor, k.indexFunction] := by
  have hend : opening ∉ [k.macroLine.toList, [], []] := by
    have hblank : opening ∉ ([[], []] : List (List Char)) := by decide
    rw [List.mem_cons, not_or]
    exact ⟨opening_ne_macroLine k, hblank⟩
  unfold members
  rw [splitOn_text h hempty]
  exact membersFrom_classLines k hend

/-- And in the lines that it is made of, which may hold line feeds of their own. -/
theorem membersFrom_lines_toList (hempty : k.combos = [] → k.layout.fields = []) :
    membersFrom [] (k.lines.map String.toList) = k.combos.map setter ++ [k.constructor, k.indexFunction] := by
  have hend : opening ∉ [k.macroLine.toList, []] := by
    have hblank : opening ∉ ([[]] : List (List Char)) := by decide
    rw [List.mem_cons, not_or]
    exact ⟨opening_ne_macroLine k, hblank⟩
  rw [map_toList_lines hempty]
  exact membersFrom_classLines k hend

end ShaderCombos.IndexClass
