import Mathlib
import ShaderCombos.Proofs.IndexClass.Members

/-!
# `Proofs.IndexClass.Bookkeeping` — a class keeps track of the same combos everywhere

Some combos have no default, and whoever uses a class has to set them. Five places of the generated text take
care of that. In debug builds the class has a flag for each of these combos; the setter raises it, the constructor
clears it, and the index function asserts that all of them are up. The macro adds up one unresolved symbol for
each. If one place forgot a combo, a program would not link, or would use a value that nobody has set.

So the five lists of names are read from the text, each on its own, and they are the same (`bookkeeping?_text`):
the combos without an initial value, in the order in which they were declared.

## Contents
- **Joined names.** `operands?`, and that it reads what was joined (`operands?_intercalate`).
- **Reading a class.** `declaredFlags`, `raisedFlags`, `clearedFlags`, `checkedFlags?`, `unresolved?`, and all
  five of them as a `Bookkeeping`.
- **Flags.** What is read from the lines of a setter and of the constructor.
- **Members told apart.** The constructor is no setter and no index function.
- **The five lists.** One lemma for each, and `bookkeeping?_text`.
-/

namespace ShaderCombos.IndexClass

open Text

/-! ## Joined names -/

/-- The names in some words that begin in the same way and have an operator between them. -/
def operands? (sign start : String) : List (List Char) → Option (List String)
  | [] => none
  | [word] => (framed? start "" word).map fun name => [name]
  | word :: between :: rest =>
    if between = sign.toList then do
      let name ← framed? start "" word
      let names ← operands? sign start rest
      some (name :: names)
    else none

/-- A name is read behind the beginning of its word. -/
theorem framed?_word (start name : String) : framed? start "" (start ++ name).toList = some name := by
  have hword : (start ++ name).toList = start.toList ++ (name.toList ++ "".toList) := by
    rw [String.toList_append, String.toList_empty, List.append_nil]
  rw [hword]
  exact framed?_append start name ""

/-- **Joined names are read back.** By induction on the names. -/
theorem operands?_intercalate {sign start : String} {names : List String} (hsign : ' ' ∉ sign.toList)
    (hstart : ' ' ∉ start.toList) (hnames : ∀ name ∈ names, ' ' ∉ name.toList) (hne : names ≠ []) :
    operands? sign start ((String.intercalate (" " ++ sign ++ " ")
      (names.map fun name => start ++ name)).toList.splitOn ' ') = some names := by
  have hword : ∀ name ∈ names, ' ' ∉ (start ++ name).toList := by
    intro name hname
    rw [String.toList_append, List.mem_append, not_or]
    exact ⟨hstart, hnames name hname⟩
  rw [String.toList_intercalate]
  induction names with
  | nil => exact absurd rfl hne
  | cons name names ih =>
      have hfirst := hword name List.mem_cons_self
      cases names with
      | nil =>
          have hsingle : (start ++ name).toList.splitOn ' ' = [(start ++ name).toList] :=
            List.splitOn_eq_singleton hfirst
          rw [List.map_singleton, List.map_singleton, List.intercalate_singleton, hsingle, operands?,
            framed?_word]
          rfl
      | cons second names =>
          have hrest := ih (fun n hn => hnames n (List.mem_cons_of_mem _ hn)) (List.cons_ne_nil _ _)
            (fun n hn => hword n (List.mem_cons_of_mem _ hn))
          have hjoined : (" " ++ sign ++ " ").toList = ' ' :: (sign.toList ++ [' ']) := by
            rw [String.toList_append, String.toList_append]
            rfl
          rw [hjoined] at hrest
          rw [List.map_cons, List.map_cons, List.map_cons, List.map_cons, List.intercalate_cons_cons,
            ← List.map_cons, ← List.map_cons, hjoined, List.append_assoc, List.cons_append,
            List.append_assoc, List.singleton_append, List.splitOn_append_cons_self_of_not_mem hfirst,
            List.splitOn_append_cons_self_of_not_mem hsign, operands?, if_pos rfl, framed?_word]
          refine Option.bind_eq_some_iff.mpr ⟨name, rfl, ?_⟩
          exact Option.bind_eq_some_iff.mpr ⟨_, hrest, rfl⟩

/-! ## Reading a class -/

/-- The names of the combos that have a flag: the flags are declared in front of the members. -/
def declaredFlags (text : String) : List String :=
  ((text.toList.splitOn '\n').takeWhile (· ≠ "public:".toList)).filterMap (framed? "\tbool m_b" " : 1;")

/-- The name of the combo that a member function sets. -/
def setterName? (m : Member) : Option String :=
  framed? "\tvoid Set" "( int i )" m.head

/-- The flags that setters raise, each with the name that is in the head of the setter. -/
def raisedFlags (text : String) : List (String × String) :=
  (members text).flatMap fun m => match setterName? m with
    | some name => (m.body.filterMap (framed? "\t\tm_b" " = true;")).map fun flag => (name, flag)
    | none => []

/-- Whether a member function is the constructor of the class of a given name. -/
def isConstructor (className : String) (m : Member) : Bool :=
  (dropLiteral? ("\t" ++ className ++ "( ") m.head).isSome

/-- The flags that the constructor clears. -/
def clearedFlags (className text : String) : List String :=
  ((members text).filter (isConstructor className)).flatMap fun m =>
    m.body.filterMap (framed? "\t\tm_b" " = false;")

/-- Whether a member function is the index function. -/
def isIndexFunction (m : Member) : Bool :=
  m.head = "\tint GetIndex()".toList

/-- The conditions that the index function asserts. -/
def conditions (text : String) : List String :=
  ((members text).filter isIndexFunction).flatMap fun m => m.body.filterMap (framed? "\t\tAssert( " " );")

/-- The flags that the index function checks, in one assertion or in none. -/
def checkedFlags? (text : String) : Option (List String) :=
  match conditions text with
  | [] => some []
  | [condition] => operands? "&&" "m_b" (condition.toList.splitOn ' ')
  | _ => none

/-- What a line defines a macro to be. -/
def definition? (macroName : String) (line : List Char) : Option String :=
  (dropLiteral? "#define " line).bind (framed? (macroName ++ " ") "")

/-- What a text defines a macro to be, definition by definition. -/
def definitions (macroName text : String) : List String :=
  (text.toList.splitOn '\n').filterMap (definition? macroName)

/-- How the symbols begin that tell of combos nobody has set. -/
def forgotten : Stage → ComboKind → String
  | .vertex, .static => "vsh_forgot_to_set_static_"
  | .vertex, .dynamic => "vsh_forgot_to_set_dynamic_"
  | .pixel, .static => "psh_forgot_to_set_static_"
  | .pixel, .dynamic => "psh_forgot_to_set_dynamic_"

/-- The names in the symbols that a macro adds up. It has one definition, which is one if there are none. -/
def unresolved? (stage : Stage) (kind : ComboKind) (macroName text : String) : Option (List String) :=
  match definitions macroName text with
  | [sum] => (operands? "+" (forgotten stage kind) (sum.toList.splitOn ' ')).or
      (if sum = "1" then some [] else none)
  | _ => none

/-- What a class keeps track of: the names in each of the five places. -/
structure Bookkeeping where
  declared : List String
  raised : List (String × String)
  cleared : List String
  checked : List String
  unresolved : List String
  deriving DecidableEq

/-- The bookkeeping that names the same combos everywhere, each raised by its own setter. -/
def Bookkeeping.ofNames (names : List String) : Bookkeeping where
  declared := names
  raised := names.map fun name => (name, name)
  cleared := names
  checked := names
  unresolved := names

/-- What a class keeps track of according to its text. -/
def bookkeeping? (base : String) (kind : ComboKind) (stage : Stage) (text : String) : Option Bookkeeping := do
  let checked ← checkedFlags? text
  let unresolved ← unresolved? stage kind (macroName base kind) text
  some {
    declared := declaredFlags text
    raised := raisedFlags text
    cleared := clearedFlags (className base kind) text
    checked
    unresolved }

/-! ## Flags -/

variable {k : IndexClass} {c : Combo}

/-- The names of the combos that a class keeps track of. -/
def trackedNames (k : IndexClass) : List String :=
  k.tracked.map Combo.name

/-- Lines that are generated for the tracked combos and read as their names give all these names. -/
theorem filterMap_tracked {read : List Char → Option String} {write : Combo → String}
    (h : ∀ c, read (write c).toList = some c.name)
    (hstart : read "#ifdef _DEBUG".toList = none) (hend : read "#endif\t// _DEBUG".toList = none) :
    ((debugOnly (k.tracked.map write)).map String.toList).filterMap read = k.trackedNames := by
  rw [filterMap_debugOnly hstart hend, List.map_map, List.filterMap_map]
  exact List.filterMap_eq_map_iff_forall_eq_some.mpr fun c _ => h c

theorem framed?_declaredFlag (c : Combo) :
    framed? "\tbool m_b" " : 1;" s!"\tbool {flagName c.name} : 1;".toList = some c.name := by
  show framed? "\tbool m_b" " : 1;" ("\tbool " ++ ("m_b" ++ c.name) ++ " : 1;").toList = some c.name
  rw [String.toList_append, String.toList_append, String.toList_append, List.append_assoc, List.append_assoc]
  exact framed?_append "\tbool m_b" c.name " : 1;"

theorem framed?_assignedFlag (c : Combo) (value : String) :
    framed? "\t\tm_b" value ("\t\t" ++ flagName c.name ++ value).toList = some c.name := by
  show framed? "\t\tm_b" value ("\t\t" ++ ("m_b" ++ c.name) ++ value).toList = some c.name
  rw [String.toList_append, String.toList_append, String.toList_append, List.append_assoc, List.append_assoc]
  exact framed?_append "\t\tm_b" c.name value

/-- A setter raises the flag of its combo, if there is one. -/
theorem filterMap_setter (c : Combo) :
    (setter c).body.filterMap (framed? "\t\tm_b" " = true;") = if c.mustBeSet then [c.name] else [] := by
  have hassert : framed? "\t\tm_b" " = true;"
      s!"\t\tAssert( i >= {c.min.toInt} && i <= {c.max.toInt} );".toList = none :=
    framed?_eq_none " = true;" (begins_append (begins_append (begins_append (begins_append List.prefix_rfl _) _)
      _) _) (show Apart "\t\tm_b" "\t\tAssert( i >= " by decide)
  have hstore : framed? "\t\tm_b" " = true;" s!"\t\t{fieldName c.name} = i;".toList = none := by
    have hline : "\t\tm_n".toList <+: ("\t\t" ++ ("m_n" ++ c.name) ++ " = i;").toList := by
      rw [String.toList_append, String.toList_append, String.toList_append]
      exact ⟨_, rfl⟩
    exact framed?_eq_none " = true;" hline (by decide)
  have hraise : framed? "\t\tm_b" " = true;" s!"\t\t{flagName c.name} = true;".toList = some c.name :=
    framed?_assignedFlag c " = true;"
  unfold setter
  rw [List.map_append, List.filterMap_append, List.map_cons, List.map_singleton,
    List.filterMap_cons_none hassert, List.filterMap_cons_none hstore, List.filterMap_nil, List.nil_append,
    filterMap_debugOnly rfl rfl]
  by_cases h : c.mustBeSet = true
  · rw [if_pos h, if_pos h, List.map_singleton, List.filterMap_cons_some hraise]
    rfl
  · rw [if_neg h, if_neg h]
    rfl

/-- The constructor clears the flags of all combos that the class keeps track of. -/
theorem filterMap_constructor (k : IndexClass) :
    k.constructor.body.filterMap (framed? "\t\tm_b" " = false;") = k.trackedNames := by
  have hinit : ((k.combos.map fun c => s!"\t\t{fieldName c.name} = {c.initialExpression};").map
      String.toList).filterMap (framed? "\t\tm_b" " = false;") = [] := by
    rw [List.map_map, List.filterMap_map]
    apply List.filterMap_eq_nil_iff.mpr
    intro c _
    have hline : "\t\tm_n".toList
        <+: ("\t\t" ++ ("m_n" ++ c.name) ++ " = " ++ c.initialExpression ++ ";").toList := by
      rw [String.toList_append, String.toList_append, String.toList_append, String.toList_append,
        String.toList_append]
      exact ⟨_, rfl⟩
    exact framed?_eq_none " = false;" hline (by decide)
  have hclear : ((debugOnly (k.tracked.map fun c => s!"\t\t{flagName c.name} = false;")).map
      String.toList).filterMap (framed? "\t\tm_b" " = false;") = k.trackedNames :=
    filterMap_tracked (fun c => framed?_assignedFlag c " = false;") rfl rfl
  unfold constructor
  rw [List.map_append, List.filterMap_append, hclear, hinit, List.nil_append]

/-- The index function asserts that all flags are up, if there are flags. -/
theorem filterMap_indexFunction (k : IndexClass) :
    k.indexFunction.body.filterMap (framed? "\t\tAssert( " " );")
      = if k.tracked = [] then []
        else [String.intercalate " && " (k.trackedNames.map fun name => "m_b" ++ name)] := by
  have hreturn : framed? "\t\tAssert( " " );" k.returnLine.toList = none :=
    framed?_eq_none " );" (begins_append (begins_append List.prefix_rfl _) _)
      (show Apart "\t\tAssert( " "\t\treturn " by decide)
  unfold indexFunction checkLines
  by_cases hnone : k.tracked = []
  · rw [if_pos (List.isEmpty_iff.mpr hnone), if_pos hnone, List.nil_append, List.map_singleton,
      List.filterMap_cons_none hreturn]
    rfl
  · have hflags : k.trackedNames.map (fun name => "m_b" ++ name)
        = k.tracked.map fun c => flagName c.name := by
      unfold trackedNames
      rw [List.map_map]
      rfl
    have hcheck : ∀ flags : String,
        framed? "\t\tAssert( " " );" s!"\t\tAssert( {flags} );".toList = some flags := by
      intro flags
      show framed? "\t\tAssert( " " );" ("\t\tAssert( " ++ flags ++ " );").toList = some flags
      rw [String.toList_append, String.toList_append, List.append_assoc]
      exact framed?_append "\t\tAssert( " flags " );"
    rw [if_neg (fun h => hnone (List.isEmpty_iff.mp h)), if_neg hnone, List.map_append, List.map_singleton,
      List.map_singleton, List.singleton_append, List.filterMap_cons_some (hcheck _),
      List.filterMap_cons_none hreturn, hflags]
    rfl

/-! ## Members told apart -/

/-- Texts that begin with runs of name characters and then differ are different. -/
theorem ne_of_run {u v x y : List Char} {a b : Char} (hu : ∀ c ∈ u, isNameChar c = true)
    (hv : ∀ c ∈ v, isNameChar c = true) (ha : isNameChar a = false) (hb : isNameChar b = false) (hne : a ≠ b) :
    u ++ a :: x ≠ v ++ b :: y := by
  intro heq
  have hleft := dropWhile_run hu ha x
  rw [heq, dropWhile_run hv hb y, List.cons.injEq] at hleft
  exact hne hleft.1.symm

theorem constructorHead_eq (k : IndexClass) :
    k.constructor.head = ("\t" ++ k.name ++ "( ").toList ++ (k.parameters ++ " )").toList := by
  rw [← String.toList_append, ← String.append_assoc]
  rfl

/-- A constructor begins with the name of the class, and another member with the type of what it returns. -/
theorem opens_ne (hname : ∀ ch ∈ k.name.toList, isNameChar ch = true) {type : List Char}
    (htype : ∀ ch ∈ type, isNameChar ch = true) (tail rest : List Char) :
    ("\t" ++ k.name ++ "( ").toList ++ tail ≠ '\t' :: (type ++ ' ' :: rest) := by
  intro heq
  have hopens : ("\t" ++ k.name ++ "( ").toList ++ tail = '\t' :: (k.name.toList ++ '(' :: (' ' :: tail)) := by
    rw [String.toList_append, String.toList_append, List.append_assoc, List.append_assoc]
    rfl
  rw [hopens, List.cons.injEq] at heq
  exact ne_of_run hname htype rfl rfl (by decide) heq.2

/-- A setter is read as the setter of its combo. -/
theorem setterName?_setter (c : Combo) : setterName? (setter c) = some c.name := by
  show framed? "\tvoid Set" "( int i )" ("\tvoid Set" ++ c.name ++ "( int i )").toList = some c.name
  rw [String.toList_append, String.toList_append, List.append_assoc]
  exact framed?_append "\tvoid Set" c.name "( int i )"

theorem setterName?_constructor (hname : ∀ ch ∈ k.name.toList, isNameChar ch = true) :
    setterName? k.constructor = none := by
  have htype : ∀ ch ∈ "void".toList, isNameChar ch = true := List.all_eq_true.mp rfl
  have hnone : dropLiteral? "\tvoid Set" k.constructor.head = none := by
    apply dropLiteral?_eq_none
    intro rest
    rw [constructorHead_eq]
    exact opens_ne hname htype _ ("Set".toList ++ rest)
  unfold setterName? framed?
  rw [hnone]
  rfl

theorem isConstructor_constructor (k : IndexClass) : isConstructor k.name k.constructor = true := by
  unfold isConstructor
  rw [constructorHead_eq, dropLiteral?_append]
  rfl

theorem isConstructor_of_type (hname : ∀ ch ∈ k.name.toList, isNameChar ch = true) {m : Member}
    {type rest : List Char} (htype : ∀ ch ∈ type, isNameChar ch = true)
    (hhead : m.head = '\t' :: (type ++ ' ' :: rest)) : isConstructor k.name m = false := by
  have hnone : dropLiteral? ("\t" ++ k.name ++ "( ") m.head = none := by
    apply dropLiteral?_eq_none
    intro tail
    rw [hhead]
    exact (opens_ne hname htype tail rest).symm
  unfold isConstructor
  rw [hnone]
  rfl

theorem isConstructor_setter (hname : ∀ ch ∈ k.name.toList, isNameChar ch = true) (c : Combo) :
    isConstructor k.name (setter c) = false := by
  have htype : ∀ ch ∈ "void".toList, isNameChar ch = true := List.all_eq_true.mp rfl
  obtain ⟨rest, hrest⟩ := begins_setterHead c
  have hhead : (setter c).head = '\t' :: ("void".toList ++ ' ' :: ("Set".toList ++ rest)) := hrest.symm
  exact isConstructor_of_type hname htype hhead

theorem isConstructor_indexFunction (hname : ∀ ch ∈ k.name.toList, isNameChar ch = true) :
    isConstructor k.name k.indexFunction = false := by
  have htype : ∀ ch ∈ "int".toList, isNameChar ch = true := List.all_eq_true.mp rfl
  have hhead : k.indexFunction.head = '\t' :: ("int".toList ++ ' ' :: "GetIndex()".toList) := rfl
  exact isConstructor_of_type hname htype hhead

theorem isIndexFunction_setter (c : Combo) : isIndexFunction (setter c) = false :=
  decide_eq_false (ne_of_apart (begins_setterHead c) (by decide))

theorem isIndexFunction_constructor (hname : ∀ ch ∈ k.name.toList, isNameChar ch = true) :
    isIndexFunction k.constructor = false := by
  have htype : ∀ ch ∈ "int".toList, isNameChar ch = true := List.all_eq_true.mp rfl
  apply decide_eq_false
  rw [constructorHead_eq]
  exact opens_ne hname htype _ "GetIndex()".toList

/-- Where no setter is looked for, none is found. -/
theorem filter_setters {p : Member → Bool} (h : ∀ c, p (setter c) = false) (combos : List Combo) :
    (combos.map setter).filter p = [] := by
  rw [List.filter_eq_nil_iff]
  intro m hm
  obtain ⟨c, -, rfl⟩ := List.mem_map.mp hm
  rw [h]
  exact Bool.false_ne_true

/-! ## The five lists -/

/-- One item for each combo that has to be set. -/
theorem flatMap_mustBeSet {β : Type} (f : Combo → β) (combos : List Combo) :
    (combos.flatMap fun c => if c.mustBeSet then [f c] else []) = (combos.filter Combo.mustBeSet).map f := by
  induction combos with
  | nil => rfl
  | cons c combos ih =>
      rw [List.flatMap_cons, ih]
      by_cases h : c.mustBeSet = true
      · rw [if_pos h, List.filter_cons_of_pos h]
        rfl
      · rw [if_neg h, List.filter_cons_of_neg h]
        rfl

/-- The lines in front of the public part of a class. -/
def privateLines (k : IndexClass) : List (List Char) :=
  [("class " ++ k.name).toList, "\x7b".toList] ++ k.fieldLines.map String.toList ++ k.flagLines.map String.toList

theorem begins_class (k : IndexClass) : "class ".toList <+: ("class " ++ k.name).toList :=
  begins_append List.prefix_rfl k.name

theorem public_notMem_privateLines (k : IndexClass) : "public:".toList ∉ k.privateLines := by
  intro hmem
  rcases List.mem_append.mp hmem with hmem | hflag
  · rcases List.mem_append.mp hmem with hhead | hfield
    · rcases List.mem_pair.mp hhead with heq | heq
      · exact ne_of_apart (begins_class k) (by decide) heq.symm
      · exact absurd heq (by decide)
    · exact ne_of_apart (of_mem_fieldLines hfield) (by decide) rfl
  · rcases of_mem_flagLines hflag with hstart | ⟨-, hguard⟩
    · exact ne_of_apart hstart (by decide) rfl
    · exact absurd hguard (by decide)

/-- The private lines are what is in front of the public ones. -/
theorem takeWhile_text (h : k.SingleLine) (hempty : k.combos = [] → k.layout.fields = []) :
    (k.text.toList.splitOn '\n').takeWhile (· ≠ "public:".toList) = k.privateLines := by
  have hlines : k.text.toList.splitOn '\n' = k.privateLines ++ "public:".toList
      :: ((k.combos.map setter ++ [k.constructor]).flatMap (fun m => m.lines ++ [[]])
        ++ (k.indexFunction.lines ++ ["\x7d;".toList, [], k.macroLine.toList, [], []])) := by
    rw [splitOn_text h hempty]
    unfold classLines declarationLines privateLines
    simp only [List.map_append, List.append_assoc, List.cons_append, List.nil_append, List.map_cons,
      List.map_nil]
    rfl
  rw [hlines]
  exact takeWhile_ne (public_notMem_privateLines k) _

theorem declaredFlags_text (h : k.SingleLine) (hempty : k.combos = [] → k.layout.fields = []) :
    declaredFlags k.text = k.trackedNames := by
  have hflags : (k.flagLines.map String.toList).filterMap (framed? "\tbool m_b" " : 1;") = k.trackedNames :=
    filterMap_tracked framed?_declaredFlag rfl rfl
  have hfields : (k.fieldLines.map String.toList).filterMap (framed? "\tbool m_b" " : 1;") = [] := by
    apply List.filterMap_eq_nil_iff.mpr
    intro line hline
    exact framed?_eq_none " : 1;" (of_mem_fieldLines hline) (by decide)
  have hhead : [("class " ++ k.name).toList, "\x7b".toList].filterMap (framed? "\tbool m_b" " : 1;") = [] := by
    rw [List.filterMap_cons_none (framed?_eq_none " : 1;" (begins_class k) (by decide))]
    rfl
  unfold declaredFlags
  rw [takeWhile_text h hempty]
  unfold privateLines
  rw [List.filterMap_append, List.filterMap_append, hhead, hfields, hflags]
  rfl

theorem raisedFlags_text (h : k.SingleLine) (hempty : k.combos = [] → k.layout.fields = [])
    (hname : ∀ ch ∈ k.name.toList, isNameChar ch = true) :
    raisedFlags k.text = k.trackedNames.map fun name => (name, name) := by
  have hsetter : ∀ c : Combo, ((setter c).body.filterMap (framed? "\t\tm_b" " = true;")).map
      (fun flag => (c.name, flag)) = if c.mustBeSet then [(c.name, c.name)] else [] := by
    intro c
    rw [filterMap_setter]
    by_cases hset : c.mustBeSet = true
    · rw [if_pos hset, if_pos hset, List.map_singleton]
    · rw [if_neg hset, if_neg hset, List.map_nil]
  have hindex : setterName? k.indexFunction = none := rfl
  unfold raisedFlags
  rw [members_text h hempty, List.flatMap_append, List.flatMap_map]
  simp only [setterName?_setter, hsetter, List.flatMap_cons, List.flatMap_nil, setterName?_constructor hname,
    hindex, List.append_nil]
  rw [flatMap_mustBeSet]
  unfold trackedNames
  rw [List.map_map]
  rfl

theorem clearedFlags_text (h : k.SingleLine) (hempty : k.combos = [] → k.layout.fields = [])
    (hname : ∀ ch ∈ k.name.toList, isNameChar ch = true) :
    clearedFlags k.name k.text = k.trackedNames := by
  have hsetters : (k.combos.map setter).filter (isConstructor k.name) = [] :=
    filter_setters (isConstructor_setter hname) k.combos
  have hothers : [k.constructor, k.indexFunction].filter (isConstructor k.name) = [k.constructor] := by
    rw [List.filter_cons_of_pos (isConstructor_constructor k),
      List.filter_cons_of_neg (by rw [isConstructor_indexFunction hname]; exact Bool.false_ne_true),
      List.filter_nil]
  unfold clearedFlags
  rw [members_text h hempty, List.filter_append, hsetters, hothers, List.nil_append, List.flatMap_singleton]
  exact filterMap_constructor k

theorem conditions_text (h : k.SingleLine) (hempty : k.combos = [] → k.layout.fields = [])
    (hname : ∀ ch ∈ k.name.toList, isNameChar ch = true) :
    conditions k.text = if k.tracked = [] then []
      else [String.intercalate " && " (k.trackedNames.map fun name => "m_b" ++ name)] := by
  have hsetters : (k.combos.map setter).filter isIndexFunction = [] :=
    filter_setters isIndexFunction_setter k.combos
  have hothers : [k.constructor, k.indexFunction].filter isIndexFunction = [k.indexFunction] := by
    have hindex : isIndexFunction k.indexFunction = true := decide_eq_true rfl
    rw [List.filter_cons_of_neg (by rw [isIndexFunction_constructor hname]; exact Bool.false_ne_true),
      List.filter_cons_of_pos hindex, List.filter_nil]
  unfold conditions
  rw [members_text h hempty, List.filter_append, hsetters, hothers, List.nil_append, List.flatMap_singleton]
  exact filterMap_indexFunction k

/-- A symbol tells which combo nobody has set. -/
theorem symbolName_eq (k : IndexClass) (name : String) :
    k.symbolName name = forgotten k.stage k.kind ++ name := by
  unfold symbolName
  cases k.stage with
  | vertex =>
      cases k.kind with
      | static => rfl
      | dynamic => rfl
  | pixel =>
      cases k.kind with
      | static => rfl
      | dynamic => rfl

/-- What the macro of a class is defined to be. -/
def macroSum (k : IndexClass) : String :=
  if k.tracked = [] then "1"
  else String.intercalate " + " (k.trackedNames.map fun name => forgotten k.stage k.kind ++ name)

theorem definition?_macroLine (k : IndexClass) :
    definition? (macroName k.base k.kind) k.macroLine.toList = some k.macroSum := by
  have hsum : k.macroLine = "#define " ++ macroName k.base k.kind ++ " " ++ k.macroSum := by
    unfold macroLine macroSum
    by_cases hnone : k.tracked = []
    · rw [if_pos (List.isEmpty_iff.mpr hnone), if_pos hnone]
      rfl
    · have hsymbols : k.trackedNames.map (fun name => forgotten k.stage k.kind ++ name)
          = k.tracked.map fun c => k.symbolName c.name := by
        unfold trackedNames
        simp only [symbolName_eq, List.map_map]
        rfl
      rw [if_neg (fun h => hnone (List.isEmpty_iff.mp h)), if_neg hnone, hsymbols]
      rfl
  have hline : k.macroLine.toList
      = "#define ".toList ++ ((macroName k.base k.kind ++ " ") ++ k.macroSum).toList := by
    rw [hsum, ← String.toList_append, String.append_assoc, String.append_assoc, String.append_assoc]
  unfold definition?
  rw [hline, dropLiteral?_append, Option.bind_some]
  exact framed?_word (macroName k.base k.kind ++ " ") k.macroSum

/-- **The macro is defined once**, behind the class. -/
theorem definitions_text (h : k.SingleLine) (hempty : k.combos = [] → k.layout.fields = []) :
    definitions (macroName k.base k.kind) k.text = [k.macroSum] := by
  have hapart : ∀ start ∈ classStarts, Apart "#define " start := by decide
  have hguards : ∀ line ∈ guardLines, dropLiteral? "#define " line = none := by decide
  have hclass : k.classLines.filterMap (definition? (macroName k.base k.kind)) = [] := by
    apply List.filterMap_eq_nil_iff.mpr
    intro line hline
    have hnone : dropLiteral? "#define " line = none := by
      rcases of_mem_classLines hline with rfl | ⟨start, hstart, hbegins⟩ | ⟨-, hguard⟩
      · rfl
      · exact dropLiteral?_eq_none_of_apart hbegins (hapart start hstart)
      · exact hguards line hguard
    unfold definition?
    rw [hnone]
    rfl
  unfold definitions
  rw [splitOn_text h hempty, List.filterMap_append, hclass, List.filterMap_cons_some (definition?_macroLine k)]
  rfl

theorem checkedFlags?_text (h : k.SingleLine) (hempty : k.combos = [] → k.layout.fields = [])
    (hname : ∀ ch ∈ k.name.toList, isNameChar ch = true) (hcombos : ∀ name ∈ k.trackedNames, ' ' ∉ name.toList) :
    checkedFlags? k.text = some k.trackedNames := by
  unfold checkedFlags?
  rw [conditions_text h hempty hname]
  by_cases hnone : k.tracked = []
  · rw [if_pos hnone]
    unfold trackedNames
    rw [hnone]
    rfl
  · have hnames : k.trackedNames ≠ [] := fun hnil => hnone (List.map_eq_nil_iff.mp hnil)
    rw [if_neg hnone]
    exact operands?_intercalate (by decide) (by decide) hcombos hnames

theorem unresolved?_text (h : k.SingleLine) (hempty : k.combos = [] → k.layout.fields = [])
    (hcombos : ∀ name ∈ k.trackedNames, ' ' ∉ name.toList) :
    unresolved? k.stage k.kind (macroName k.base k.kind) k.text = some k.trackedNames := by
  have hforgotten : ∀ stage kind, ' ' ∉ (forgotten stage kind).toList := by
    intro stage kind
    cases stage with
    | vertex =>
        cases kind with
        | static => decide
        | dynamic => decide
    | pixel =>
        cases kind with
        | static => decide
        | dynamic => decide
  have hone : ∀ stage kind, operands? "+" (forgotten stage kind) ("1".toList.splitOn ' ') = none := by
    intro stage kind
    cases stage with
    | vertex =>
        cases kind with
        | static => rfl
        | dynamic => rfl
    | pixel =>
        cases kind with
        | static => rfl
        | dynamic => rfl
  unfold unresolved?
  rw [definitions_text h hempty]
  unfold macroSum
  by_cases hnone : k.tracked = []
  · unfold trackedNames
    rw [if_pos hnone, hnone]
    show (operands? "+" _ _).or _ = _
    rw [hone]
    rfl
  · have hnames : k.trackedNames ≠ [] := fun hnil => hnone (List.map_eq_nil_iff.mp hnil)
    have hsign : ' ' ∉ "+".toList := by decide
    have hread := operands?_intercalate hsign (hforgotten k.stage k.kind) hcombos hnames
    rw [if_neg hnone]
    show (operands? "+" _ _).or _ = _
    rw [show (" + " : String) = " " ++ "+" ++ " " from rfl, hread]
    rfl

/-- **The five lists are read together.** -/
theorem bookkeeping?_of_singleLine (h : k.SingleLine) (hempty : k.combos = [] → k.layout.fields = [])
    (hname : ∀ ch ∈ k.name.toList, isNameChar ch = true) (hcombos : ∀ name ∈ k.trackedNames, ' ' ∉ name.toList) :
    bookkeeping? k.base k.kind k.stage k.text = some (.ofNames k.trackedNames) := by
  have hcleared : clearedFlags (className k.base k.kind) k.text = k.trackedNames :=
    clearedFlags_text h hempty hname
  unfold bookkeeping?
  rw [checkedFlags?_text h hempty hname hcombos, unresolved?_text h hempty hcombos, declaredFlags_text h hempty,
    raisedFlags_text h hempty hname, hcleared]
  rfl

/-- No debug block is needed where nothing is kept track of. -/
theorem not_guarded_text (h : k.SingleLine) (hempty : k.combos = [] → k.layout.fields = [])
    (hnone : k.tracked = []) : ∀ line ∈ k.text.toList.splitOn '\n', ¬ "#ifdef _DEBUG".toList <+: line := by
  have hapart : ∀ start ∈ classStarts, Apart "#ifdef _DEBUG" start := by decide
  have hblank : ¬ "#ifdef _DEBUG".toList <+: [] := by decide
  intro line hline
  rw [splitOn_text h hempty] at hline
  rcases List.mem_append.mp hline with hclass | hend
  · rcases of_mem_classLines hclass with rfl | ⟨start, hstart, hbegins⟩ | ⟨hne, -⟩
    · exact hblank
    · exact not_begins_of_apart hbegins (hapart start hstart)
    · exact absurd hnone hne
  · simp only [List.mem_cons, List.not_mem_nil, or_false] at hend
    rcases hend with rfl | rfl | rfl
    · exact not_begins_of_apart (begins_macroLine k) (by decide)
    · exact hblank
    · exact hblank

/-- Names over letters, digits and underscores hold no other characters. -/
theorem notMem_of_isNameChar {s : String} {c : Char} (h : ∀ ch ∈ s.toList, isNameChar ch = true)
    (hc : isNameChar c = false) : c ∉ s.toList := by
  intro hmem
  rw [h c hmem] at hc
  cases hc

variable {combos : List Combo} {base parameters : String} {kind : ComboKind} {stage : Stage} {seed : Nat}

theorem isNameChar_className (hbase : ∀ ch ∈ base.toList, isNameChar ch = true) (kind : ComboKind) :
    ∀ ch ∈ (className base kind).toList, isNameChar ch = true := by
  have hkind : ∀ ch ∈ ("_" ++ kind.typeName ++ "_Index").toList, isNameChar ch = true := by
    cases kind with
    | static => exact List.all_eq_true.mp rfl
    | dynamic => exact List.all_eq_true.mp rfl
  have hname : className base kind = base ++ ("_" ++ kind.typeName ++ "_Index") := by
    unfold className
    rw [String.append_assoc, String.append_assoc, String.append_assoc]
  intro ch hch
  rw [hname, String.toList_append] at hch
  rcases List.mem_append.mp hch with hch | hch
  · exact hbase ch hch
  · exact hkind ch hch

/-- A class of plain names and single lines is written in single lines. -/
theorem SingleLine.of_ofCombos {layout : Layout} (hlayout : Layout.ofCombos combos seed = .ok layout)
    (hnames : ∀ c ∈ combos, '\n' ∉ c.name.toList)
    (hexpressions : ∀ c ∈ combos, '\n' ∉ c.initialExpression.toList) (hparameters : '\n' ∉ parameters.toList)
    (hbase : '\n' ∉ base.toList) : SingleLine ⟨base, kind, stage, parameters, combos, layout⟩ where
  name := by
    show '\n' ∉ (base ++ "_" ++ kind.typeName ++ "_Index").toList
    simp only [lineFeed_notMem_append_iff]
    exact ⟨⟨⟨hbase, by decide⟩, by cases kind <;> decide⟩, by decide⟩
  macroName := by
    show '\n' ∉ ("shader" ++ kind.typeName ++ "Test_" ++ base).toList
    simp only [lineFeed_notMem_append_iff]
    exact ⟨⟨⟨by decide, by cases kind <;> decide⟩, by decide⟩, hbase⟩
  parameters := hparameters
  combos := hnames
  expressions := hexpressions
  fields := by
    intro f hf
    have hfields : layout.fields.map Field.name = combos.map Combo.name := by
      rw [Layout.fields_eq_place hlayout, Layout.map_name_place]
    obtain ⟨c, hc, hname⟩ := exists_combo_of_mem hfields hf
    exact hname ▸ hnames c hc

/-- **All bookkeeping names the same combos.** In the text of every class of combos with plain names, the names of
the flags, of the setters with the flags that they raise, of the flags that the constructor clears, of those that
the index function checks and of the symbols that the macro adds up are the names of the combos without an initial
value, in the order of declaration. If there are none, the text has no debug block, the index function asserts
nothing, and the macro is one. -/
theorem bookkeeping?_text (h : ofCombos combos base kind stage parameters seed = .ok k)
    (hnames : ∀ c ∈ combos, ∀ ch ∈ c.name.toList, isNameChar ch = true)
    (hexpressions : ∀ c ∈ combos, '\n' ∉ c.initialExpression.toList) (hparameters : '\n' ∉ parameters.toList)
    (hbase : ∀ ch ∈ base.toList, isNameChar ch = true) :
    bookkeeping? base kind stage k.text
        = some (.ofNames ((combos.filter Combo.mustBeSet).map Combo.name)) ∧
      (combos.filter Combo.mustBeSet = [] →
        (∀ line ∈ k.text.toList.splitOn '\n', ¬ "#ifdef _DEBUG".toList <+: line) ∧ conditions k.text = [] ∧
          definitions (macroName base kind) k.text = ["1"]) := by
  obtain ⟨layout, hfaulty, hk⟩ := except_bind_eq_ok.mp h
  obtain rfl := Except.ok.inj hk
  have hlayout := Attempt.ofFaulty_eq_ok.mp hfaulty
  have hempty : combos = [] → layout.fields = [] := by
    rintro rfl
    exact Layout.fields_eq_place hlayout
  have hsingle : SingleLine ⟨base, kind, stage, parameters, combos, layout⟩ :=
    SingleLine.of_ofCombos hlayout (fun c hc => notMem_of_isNameChar (hnames c hc) rfl) hexpressions
      hparameters (notMem_of_isNameChar hbase rfl)
  have hclass := isNameChar_className hbase kind
  have htracked : ∀ name ∈ (combos.filter Combo.mustBeSet).map Combo.name, ' ' ∉ name.toList := by
    intro name hname
    obtain ⟨c, hc, rfl⟩ := List.mem_map.mp hname
    exact notMem_of_isNameChar (hnames c (List.mem_of_mem_filter hc)) rfl
  constructor
  · exact bookkeeping?_of_singleLine hsingle hempty hclass htracked
  · intro hnone
    have hconditions := conditions_text hsingle hempty hclass
    have hdefinitions := definitions_text hsingle hempty
    refine ⟨not_guarded_text hsingle hempty hnone, ?_, ?_⟩
    · rw [hconditions]
      exact if_pos hnone
    · rw [hdefinitions]
      exact congrArg (fun sum => [sum]) (if_pos hnone)

/-! ### Combos of both sorts, in turn -/

namespace Mixed

def declared : List Combo :=
  [⟨"A", 0, 1, .mustBeSet⟩, ⟨"B", 0, 2, .expression "1"⟩, ⟨"C", 1, 2, .mustBeSet⟩]

def indexClass : IndexClass where
  base := "water_ps30"
  kind := .static
  stage := .pixel
  parameters := defaultParameters .static
  combos := declared
  layout := ⟨[⟨"A", 0, 1, 2, 1⟩, ⟨"B", 0, 2, 3, 2⟩, ⟨"C", 1, 2, 2, 6⟩], 12, 17⟩

theorem ofCombos_eq :
    ofCombos declared "water_ps30" .static .pixel (defaultParameters .static) 1 = .ok indexClass := rfl

end Mixed

theorem bookkeeping?_text_mixed :
    ofCombos Mixed.declared "water_ps30" .static .pixel (defaultParameters .static) 1 = .ok Mixed.indexClass ∧
      bookkeeping? "water_ps30" .static .pixel Mixed.indexClass.text = some (.ofNames ["A", "C"]) := by
  have hnames : ∀ c ∈ Mixed.declared, c.name.toList.all isNameChar = true := by decide
  have hbookkeeping := bookkeeping?_text Mixed.ofCombos_eq (fun c hc => List.all_eq_true.mp (hnames c hc))
    (by decide) (by decide) (List.all_eq_true.mp rfl)
  exact ⟨Mixed.ofCombos_eq, hbookkeeping.1⟩

end ShaderCombos.IndexClass
