import Mathlib
import ShaderCombos.Proofs.IndexClass.Kept
import ShaderCombos.Proofs.IndexClass.Names
import ShaderCombos.Proofs.Text.Expression
import ShaderCombos.Proofs.Text.Lines
import ShaderCombos.Proofs.Text.Marks

/-!
# `Proofs.IndexClass.Returned` — the text of `GetIndex` computes the index

A class is generated as text, and what a renderer gets is what that text says. So the text is read again: the
expression that `GetIndex` returns is found in it, taken apart into tokens and evaluated, with each field
standing for the value of its combo. The outcome is the index that the layout defines.

The initial expressions of combos and the parameters of the constructor may be any text, other functions among
them. All of it stands in front of `GetIndex`, so the text is read from its end. Behind the function there are
only the end of the class and the macro. Its name is known to whoever uses the class, and a name with line
feeds in it takes up some more lines.

## Contents
- **Reading a class.** `returned?`, `readIndex?`.
- **The sum.** `termTokens`; one term and all terms read (`tokens?_term`, `tokens?_indexExpression`) and added
  up (`operand?_term`, `operand?_terms`).
- **The lines of a class.** `lines_eq`: the front, the index function and the macro. The lines of the function
  hold no line feeds, so they are found (`exists_splitOn_text`), and with them the sum (`returned?_text`).
- **Fields and values.** `readIndex?_eq_scaledSum` for whatever the fields hold; `bindings`,
  `readIndex?_eq_weigh` and `readIndex?_text` for the values of the combos.
-/

namespace ShaderCombos

open Text

/-! ## Reading a class -/

namespace IndexClass

/-- The expression of a line that returns one. -/
def returnedBy? (line : List Char) : Option (List Char) :=
  (dropLiteral? "\t\treturn " line).bind fun rest =>
    if rest.getLast? = some ';' then some rest.dropLast else none

/-- Whether a line asserts something. -/
def isAssertion (line : List Char) : Bool :=
  (dropLiteral? "\t\tAssert( " line).isSome

/-- Whether some lines, the last one first, end where the body of `GetIndex` starts, but for assertions. -/
def opensIndex (fromEnd : List (List Char)) : Bool :=
  (fromEnd.dropWhile isAssertion).take 2 = ["\t\x7b".toList, "\tint GetIndex()".toList]

/-- The expression that `GetIndex` returns, found in the text of a class and its macro. The text is read from
its end: an empty line, the macro, another empty line, and the ends of the class and of the function. -/
def returned? (macroName text : String) : Option (List Char) :=
  match (text.toList.splitOn '\n').reverse.drop (macroName.toList.count '\n' + 3) with
  | blank :: classEnd :: functionEnd :: line :: fromEnd =>
    if blank = [] ∧ classEnd = "\x7d;".toList ∧ functionEnd = "\t\x7d".toList ∧ opensIndex fromEnd then
      returnedBy? line
    else none
  | _ => none

/-- What `GetIndex` computes according to its text, where `value?` tells the values of the fields. -/
def readIndex? (macroName text : String) (value? : String → Option Int) : Option Int :=
  (returned? macroName text).bind (evaluate? value?)

/-! ## The sum -/

variable {fields : List Field} {f : Field} {value? : String → Option Int}

/-- The characters of one term of the sum, with the sign behind it. -/
def termChars (f : Field) : List Char :=
  "( ".toList ++ Nat.toDigits 10 f.scale ++ " * ".toList ++ (fieldName f.name).toList ++ " ) + ".toList

/-- The tokens of one term of the sum, with the sign behind it. -/
def termTokens (f : Field) : List Token :=
  [.opening, .number f.scale, .times, .name (fieldName f.name), .closing, .plus]

theorem toList_indexExpression (fields : List Field) :
    (indexExpression fields).toList = fields.flatMap termChars ++ ['0'] := by
  have hterm : ∀ f : Field, (s!"( {f.scale} * {fieldName f.name} ) + ").toList = termChars f := by
    intro f
    show ("( " ++ f.scale.repr ++ " * " ++ fieldName f.name ++ " ) + ").toList = termChars f
    unfold termChars
    rw [String.toList_append, String.toList_append, String.toList_append, String.toList_append,
      Nat.toList_repr]
  unfold indexExpression
  rw [String.toList_append, String.toList_join, List.flatMap_map]
  simp only [hterm]
  rfl

/-- The name of a field is one token. -/
theorem wordTokens?_fieldName (name : String) :
    wordTokens? (fieldName name).toList = some [.name (fieldName name)] := by
  have hchars : (fieldName name).toList = 'm' :: '_' :: 'n' :: name.toList := String.toList_append
  have hletter : ¬ 'm'.isDigit = true := by decide
  rw [hchars, wordTokens?, if_neg hletter, ← hchars, String.ofList_toList]

theorem isNameChar_fieldName {name : String} (h : ∀ c ∈ name.toList, isNameChar c = true) :
    ∀ c ∈ (fieldName name).toList, isNameChar c = true := by
  intro c hc
  have hchars : (fieldName name).toList = 'm' :: '_' :: 'n' :: name.toList := String.toList_append
  rw [hchars, List.mem_cons, List.mem_cons, List.mem_cons] at hc
  rcases hc with rfl | rfl | rfl | hc
  · rfl
  · rfl
  · rfl
  · exact h c hc

/-- **One term** is read as its tokens, whatever follows. -/
theorem tokens?_term (hname : ∀ c ∈ f.name.toList, isNameChar c = true) {rest : List Char}
    {more : List Token} (hmore : tokens? rest = some more) :
    tokens? (termChars f ++ rest) = some (termTokens f ++ more) := by
  have hdigits : ∀ c ∈ Nat.toDigits 10 f.scale, isNameChar c = true := fun c hc =>
    isNameChar_of_isDigit (isDigit_of_mem_toDigits hc)
  have hfield : tokens? ((fieldName f.name).toList ++ " ) + ".toList ++ rest)
      = some (.name (fieldName f.name) :: .closing :: .plus :: more) := by
    rw [List.append_assoc]
    exact tokens?_word (isNameChar_fieldName hname) (wordTokens?_fieldName f.name)
      (tokens?_sign rfl rfl (tokens?_blank (tokens?_sign rfl rfl (tokens?_blank hmore))))
  have hscale : tokens? (Nat.toDigits 10 f.scale ++ " * ".toList
        ++ ((fieldName f.name).toList ++ " ) + ".toList ++ rest))
      = some (.number f.scale :: .times :: .name (fieldName f.name) :: .closing :: .plus :: more) := by
    rw [List.append_assoc]
    exact tokens?_word hdigits (wordTokens?_toDigits f.scale) (tokens?_sign rfl rfl (tokens?_blank hfield))
  unfold termChars termTokens
  simp only [List.cons_append, List.append_assoc] at hscale ⊢
  exact tokens?_sign rfl rfl (tokens?_blank hscale)

/-- **All terms** are read one after the other, up to the zero that closes the sum. -/
theorem tokens?_indexExpression (h : ∀ f ∈ fields, ∀ c ∈ f.name.toList, isNameChar c = true) :
    tokens? (indexExpression fields).toList = some (fields.flatMap termTokens ++ [.number 0]) := by
  rw [toList_indexExpression]
  induction fields with
  | nil => rfl
  | cons f fields ih =>
      have hrest := ih fun g hg => h g (List.mem_cons_of_mem f hg)
      rw [List.flatMap_cons, List.flatMap_cons, List.append_assoc, List.append_assoc]
      exact tokens?_term (h f List.mem_cons_self) hrest

/-- **One term** adds the value of the field, times the scale, to the sum. -/
theorem operand?_term {v : Int} (hv : value? (fieldName f.name) = some v) (sum : Int) (more : List Token) :
    operand? value? ⟨sum, 1⟩ [] (termTokens f ++ more)
      = operand? value? ⟨sum + f.scale * v, 1⟩ [] more := by
  have hproduct : ((Frame.start.times f.scale).times v).total = f.scale * v := by
    show (0 : Int) + 1 * f.scale * v = f.scale * v
    rw [Int.zero_add, Int.one_mul]
  have hsum : ((⟨sum, 1⟩ : Frame).times (f.scale * v)).plus = ⟨sum + f.scale * v, 1⟩ := by
    show (⟨sum + 1 * (f.scale * v), 1⟩ : Frame) = ⟨sum + f.scale * v, 1⟩
    rw [Int.one_mul]
  -- The parenthesis has a frame of its own, which the closing one gives back to the sum.
  show (value? (fieldName f.name)).bind (fun n =>
    operand? value?
      ((⟨sum, 1⟩ : Frame).times ((Frame.start.times f.scale).times n).total).plus [] more) = _
  rw [hv, Option.bind_some, hproduct, hsum]

/-- What fields hold, each times its scale, added up. -/
def scaledSum (fields : List Field) (held : List Int) : Int :=
  (List.zipWith (fun (f : Field) (n : Int) => (f.scale : Int) * n) fields held).sum

theorem scaledSum_cons (f : Field) (fields : List Field) (n : Int) (held : List Int) :
    scaledSum (f :: fields) (n :: held) = f.scale * n + scaledSum fields held := by
  unfold scaledSum
  rw [List.zipWith_cons_cons, List.sum_cons]

/-- **All terms** add up what the fields hold. By induction on the fields, with the sum so far. -/
theorem operand?_terms {held : List Int}
    (h : List.Forall₂ (fun name n => value? (fieldName name) = some n) (fields.map Field.name) held)
    (sum : Int) :
    operand? value? ⟨sum, 1⟩ [] (fields.flatMap termTokens ++ [.number 0])
      = some (sum + scaledSum fields held) := by
  induction fields generalizing held sum with
  | nil =>
      cases h
      rfl
  | cons f fields ih =>
      rw [List.map_cons] at h
      cases h with
      | cons hn hrest =>
          rw [List.flatMap_cons, List.append_assoc, operand?_term hn, ih hrest, scaledSum_cons,
            Int.add_assoc]

/-- Values that fields hold as they are add up to what they weigh. -/
theorem scaledSum_place {values : List Int32} (hnonneg : ∀ v ∈ values, 0 ≤ v.toInt) (scale : Nat)
    (combos : List Combo) :
    scaledSum (Layout.place scale combos) (values.map Int32.toInt) = Layout.weigh scale combos values := by
  induction combos generalizing scale values with
  | nil => rfl
  | cons c combos ih =>
      cases values with
      | nil => rfl
      | cons v values =>
          have hcast : ((v.toInt.toNat : Nat) : Int) = v.toInt :=
            Int.toNat_of_nonneg (hnonneg v List.mem_cons_self)
          have hrest := ih (fun w hw => hnonneg w (List.mem_cons_of_mem v hw)) (scale * c.count)
          rw [Layout.place, List.map_cons, scaledSum_cons, hrest, Layout.weigh, Nat.cast_add, Nat.cast_mul,
            hcast]

/-! ## The lines of a class -/

variable {k : IndexClass}

/-- The lines in front of the index function. -/
def frontLines (k : IndexClass) : List String :=
  [s!"class {k.name}", "\x7b"] ++ k.fieldLines ++ k.flagLines ++ ["public:"]
    ++ k.combos.flatMap setterLines ++ k.constructorLines

/-- The check of the flags in the index function. -/
def checkLines (k : IndexClass) : List String :=
  let flags := String.intercalate " && " (k.tracked.map fun c => flagName c.name)
  if k.tracked.isEmpty then [] else [s!"\t\tAssert( {flags} );"]

/-- The line of the index function that returns the index. -/
def returnLine (k : IndexClass) : String :=
  s!"\t\treturn {indexExpression k.layout.fields};"

/-- The lines from the index function to the end of the class. -/
def endLines (k : IndexClass) : List String :=
  ["\tint GetIndex()", "\t\x7b"] ++ k.checkLines ++ [k.returnLine, "\t\x7d", "\x7d;", ""]

/-- **One body for all lists.** Without combos the sum is its last zero, which is what the other branch
writes. -/
theorem indexBodyLines_eq (h : k.combos = [] → k.layout.fields = []) :
    k.indexBodyLines = k.checkLines ++ [k.returnLine] := by
  unfold indexBodyLines checkLines returnLine
  by_cases hnone : k.combos = []
  · have htracked : k.tracked = [] := by
      unfold tracked
      rw [hnone, List.filter_nil]
    rw [h hnone, htracked, hnone]
    rfl
  · rw [if_neg (by simpa using hnone)]

theorem lines_eq (h : k.combos = [] → k.layout.fields = []) :
    k.lines = k.frontLines ++ (k.endLines ++ [k.macroLine, ""]) := by
  unfold lines indexLines frontLines endLines
  rw [indexBodyLines_eq h]
  simp only [List.append_assoc, List.cons_append, List.nil_append]

theorem eq_of_mem_checkLines {line : String} (h : line ∈ k.checkLines) :
    line = "\t\tAssert( " ++ String.intercalate " && " (k.tracked.map fun c => flagName c.name)
      ++ " );" := by
  unfold checkLines at h
  by_cases hnone : k.tracked.isEmpty
  · rw [if_pos hnone] at h
    cases h
  · rw [if_neg hnone, List.mem_singleton] at h
    exact h

/-! ### Line feeds -/

theorem lineFeed_notMem_termChars (h : '\n' ∉ f.name.toList) : '\n' ∉ termChars f := by
  have hdigits : '\n' ∉ Nat.toDigits 10 f.scale := by
    intro hmem
    have hdigit := isDigit_of_mem_toDigits hmem
    exact absurd hdigit (by decide)
  unfold termChars fieldName
  rw [String.toList_append]
  simp [h, hdigits]

theorem lineFeed_notMem_indexExpression (h : ∀ f ∈ fields, '\n' ∉ f.name.toList) :
    '\n' ∉ (indexExpression fields).toList := by
  rw [toList_indexExpression, List.mem_append, List.mem_flatMap]
  rintro (⟨f, hf, hmem⟩ | hzero)
  · exact lineFeed_notMem_termChars (h f hf) hmem
  · exact absurd hzero (by decide)

theorem lineFeed_notMem_checkLines (h : ∀ c ∈ k.combos, '\n' ∉ c.name.toList) :
    ∀ line ∈ k.checkLines, '\n' ∉ line.toList := by
  have hflags : '\n' ∉ (String.intercalate " && " (k.tracked.map fun c => flagName c.name)).toList := by
    apply lineFeed_notMem_intercalate
    · decide
    · intro part hpart
      obtain ⟨c, hc, rfl⟩ := List.mem_map.mp hpart
      unfold flagName
      rw [lineFeed_notMem_append_iff]
      exact ⟨by decide, h c (List.mem_of_mem_filter hc)⟩
  intro line hline
  rw [eq_of_mem_checkLines hline, lineFeed_notMem_append_iff, lineFeed_notMem_append_iff]
  exact ⟨⟨by decide, hflags⟩, by decide⟩

theorem lineFeed_notMem_returnLine (h : ∀ f ∈ k.layout.fields, '\n' ∉ f.name.toList) :
    '\n' ∉ k.returnLine.toList := by
  show '\n' ∉ ("\t\treturn " ++ indexExpression k.layout.fields ++ ";").toList
  rw [lineFeed_notMem_append_iff, lineFeed_notMem_append_iff]
  exact ⟨⟨by decide, lineFeed_notMem_indexExpression h⟩, by decide⟩

theorem lineFeed_notMem_symbolName {combo : String} (h : '\n' ∉ combo.toList) :
    '\n' ∉ (k.symbolName combo).toList := by
  have hstage : '\n' ∉ k.stage.symbolStart.toList := by
    cases k.stage with
    | vertex => decide
    | pixel => decide
  have hkind : '\n' ∉ k.kind.symbolName.toList := by
    cases k.kind with
    | static => decide
    | dynamic => decide
  unfold symbolName
  rw [lineFeed_notMem_append_iff, lineFeed_notMem_append_iff, lineFeed_notMem_append_iff,
    lineFeed_notMem_append_iff]
  exact ⟨⟨⟨⟨hstage, by decide⟩, hkind⟩, by decide⟩, h⟩

/-- The lines of the end hold no line feeds, so they are lines of the text. -/
theorem lineFeed_notMem_endLines (hcombos : ∀ c ∈ k.combos, '\n' ∉ c.name.toList)
    (hfields : ∀ f ∈ k.layout.fields, '\n' ∉ f.name.toList) :
    ∀ line ∈ k.endLines, '\n' ∉ line.toList := by
  have hstart : ∀ line ∈ ["\tint GetIndex()", "\t\x7b"], '\n' ∉ line.toList := by decide
  have hstop : ∀ line ∈ ["\t\x7d", "\x7d;", ""], '\n' ∉ line.toList := by decide
  intro line hline
  rcases List.mem_append.mp hline with hline | hline
  · rcases List.mem_append.mp hline with hline | hline
    · exact hstart line hline
    · exact lineFeed_notMem_checkLines hcombos line hline
  · rcases List.mem_cons.mp hline with rfl | hline
    · exact lineFeed_notMem_returnLine hfields
    · exact hstop line hline

/-- The macro takes up as many lines as its name has, and nothing else in it has a line feed. -/
theorem count_macroLine (h : ∀ c ∈ k.combos, '\n' ∉ c.name.toList) :
    k.macroLine.toList.count '\n' = (macroName k.base k.kind).toList.count '\n' := by
  have hjoined : '\n' ∉
      (String.intercalate " + " (k.tracked.map fun c => k.symbolName c.name)).toList := by
    apply lineFeed_notMem_intercalate
    · decide
    · intro part hpart
      obtain ⟨c, hc, rfl⟩ := List.mem_map.mp hpart
      exact lineFeed_notMem_symbolName (h c (List.mem_of_mem_filter hc))
  have hsymbols : ∀ symbols : String, '\n' ∉ symbols.toList →
      ("#define " ++ macroName k.base k.kind ++ " " ++ symbols).toList.count '\n'
        = (macroName k.base k.kind).toList.count '\n' := by
    intro symbols hnone
    have hdefine : "#define ".toList.count '\n' = 0 := by decide
    have hblank : " ".toList.count '\n' = 0 := by decide
    rw [String.toList_append, String.toList_append, String.toList_append, List.count_append,
      List.count_append, List.count_append, hdefine, hblank, List.count_eq_zero.mpr hnone, Nat.zero_add,
      Nat.add_zero]
  unfold macroLine
  by_cases hnone : k.tracked.isEmpty
  · rw [if_pos hnone]
    exact hsymbols "1" (by decide)
  · rw [if_neg hnone]
    exact hsymbols _ hjoined

/-! ### Finding the sum -/

/-- **The end of a class** is found behind whatever its front is split into. -/
theorem exists_splitOn_text (h : k.combos = [] → k.layout.fields = [])
    (hend : ∀ line ∈ k.endLines, '\n' ∉ line.toList) :
    ∃ front, k.text.toList.splitOn '\n' = front ++ (k.endLines.map String.toList
      ++ (k.macroLine.toList.splitOn '\n' ++ [[], []])) := by
  have hmacro : (unlines [k.macroLine, ""]).toList.splitOn '\n'
      = k.macroLine.toList.splitOn '\n' ++ [[], []] := by
    rw [toList_unlines]
    show (k.macroLine.toList ++ ['\n'] ++ ['\n']).splitOn '\n' = _
    rw [List.append_assoc, List.singleton_append, List.splitOn_append_cons_self]
    rfl
  obtain ⟨front, hfront⟩ := exists_splitOn_unlines_append k.frontLines
    (unlines (k.endLines ++ [k.macroLine, ""])).toList
  refine ⟨front, ?_⟩
  unfold text
  rw [lines_eq h, unlines_append, String.toList_append, hfront, unlines_append, String.toList_append,
    splitOn_unlines_append hend, hmacro]

/-- Fields that are named after combos have the names of combos only. -/
theorem exists_combo_of_mem {combos : List Combo} (h : fields.map Field.name = combos.map Combo.name)
    (hf : f ∈ fields) : ∃ c ∈ combos, c.name = f.name := by
  have hname : f.name ∈ combos.map Combo.name := h ▸ List.mem_map_of_mem hf
  exact List.mem_map.mp hname

theorem isAssertion_checkLines : ∀ line ∈ k.checkLines, isAssertion line.toList = true := by
  intro line hline
  unfold isAssertion
  rw [eq_of_mem_checkLines hline, String.toList_append, String.toList_append, List.append_assoc,
    dropLiteral?_append]
  rfl

/-- The index function is found in front of its checks. -/
theorem opensIndex_checkLines (fromEnd : List (List Char)) :
    opensIndex ((k.checkLines.map String.toList).reverse
      ++ "\t\x7b".toList :: "\tint GetIndex()".toList :: fromEnd) = true := by
  have hchecks : ∀ line ∈ (k.checkLines.map String.toList).reverse, isAssertion line = true := by
    intro line hline
    obtain ⟨check, hcheck, rfl⟩ := List.mem_map.mp (List.mem_reverse.mp hline)
    exact isAssertion_checkLines check hcheck
  have hbrace : ¬ isAssertion "\t\x7b".toList = true := by decide
  unfold opensIndex
  rw [List.dropWhile_append_of_pos hchecks, List.dropWhile_cons_of_neg hbrace]
  exact decide_eq_true rfl

theorem returnedBy?_returnLine :
    returnedBy? k.returnLine.toList = some (indexExpression k.layout.fields).toList := by
  have hline : k.returnLine.toList
      = "\t\treturn ".toList ++ ((indexExpression k.layout.fields).toList ++ [';']) := by
    show ("\t\treturn " ++ indexExpression k.layout.fields ++ ";").toList = _
    rw [String.toList_append, String.toList_append, List.append_assoc]
    rfl
  unfold returnedBy?
  rw [hline, dropLiteral?_append, Option.bind_some, List.getLast?_concat, if_pos rfl, List.dropLast_concat]

/-- **What a class returns** is the sum over its fields. -/
theorem returned?_text (hnames : ∀ c ∈ k.combos, '\n' ∉ c.name.toList)
    (hfields : k.layout.fields.map Field.name = k.combos.map Combo.name) :
    returned? (macroName k.base k.kind) k.text = some (indexExpression k.layout.fields).toList := by
  have hempty : k.combos = [] → k.layout.fields = [] := by
    intro hnone
    rw [hnone] at hfields
    exact List.map_eq_nil_iff.mp hfields
  have hfieldNames : ∀ f ∈ k.layout.fields, '\n' ∉ f.name.toList := by
    intro f hf
    obtain ⟨c, hc, hname⟩ := exists_combo_of_mem hfields hf
    exact hname ▸ hnames c hc
  obtain ⟨front, hsplit⟩ := exists_splitOn_text hempty (lineFeed_notMem_endLines hnames hfieldNames)
  have hlength : (k.macroLine.toList.splitOn '\n' ++ [[], []]).reverse.length
      = (macroName k.base k.kind).toList.count '\n' + 3 := by
    rw [List.length_reverse, List.length_append, length_splitOn, count_macroLine hnames]
    rfl
  have hreverse : (front ++ k.endLines.map String.toList).reverse
      = [] :: "\x7d;".toList :: "\t\x7d".toList :: k.returnLine.toList
        :: ((k.checkLines.map String.toList).reverse
          ++ "\t\x7b".toList :: "\tint GetIndex()".toList :: front.reverse) := by
    unfold endLines
    simp
  unfold returned?
  rw [hsplit, ← List.append_assoc, List.reverse_append, List.drop_left' hlength, hreverse]
  show (if _ then _ else _) = _
  rw [if_pos ⟨rfl, rfl, rfl, opensIndex_checkLines front.reverse⟩, returnedBy?_returnLine]

/-! ## Fields and values -/

variable {combos : List Combo} {values : List Int32} {seed : Nat} {l : Layout}

/-- The values of the fields of a class: the field of each combo has the combo's value. -/
def bindings (combos : List Combo) (values : List Int32) (name : String) : Option Int :=
  (List.zipWith (fun c v => (fieldName c.name, v.toInt)) combos values).lookup name

/-- **Distinct keys keep values apart.** Each key is looked up to the value beside it. -/
theorem forall₂_lookup_zip {β : Type} {keys : List String} {held : List β} (hdistinct : keys.Nodup)
    (hlength : keys.length = held.length) :
    List.Forall₂ (fun key b => (keys.zip held).lookup key = some b) keys held := by
  induction keys generalizing held with
  | nil =>
      obtain rfl := List.length_eq_zero_iff.mp hlength.symm
      exact .nil
  | cons key keys ih =>
      cases held with
      | nil => simp at hlength
      | cons b held =>
          rw [List.nodup_cons] at hdistinct
          have hrest := ih hdistinct.2 (by simpa using hlength)
          have hother : ∀ other ∈ keys, other ≠ key := by
            rintro other hmem rfl
            exact hdistinct.1 hmem
          refine .cons List.lookup_cons_self ?_
          refine ((List.forall₂_and_left _ _).mpr ⟨hother, hrest⟩).imp ?_
          rintro other d ⟨hne, hd⟩
          rw [List.zip_cons_cons, List.lookup_cons, beq_false_of_ne hne]
          exact hd

/-- Each field is bound to the value of its own combo. -/
theorem bindings_fieldName (hdistinct : (combos.map Combo.name).Nodup)
    (hlength : combos.length = values.length) :
    List.Forall₂ (fun name n => bindings combos values (fieldName name) = some n) (combos.map Combo.name)
      (values.map Int32.toInt) := by
  have hkeys : ((combos.map Combo.name).map fieldName).Nodup :=
    (List.nodup_map_iff fieldName_injective).mpr hdistinct
  have hzip : List.zipWith (fun c v => (fieldName c.name, Int32.toInt v)) combos values
      = ((combos.map Combo.name).map fieldName).zip (values.map Int32.toInt) := by
    rw [List.map_map, List.zip_eq_zipWith, List.zipWith_map]
    rfl
  have hlength' : ((combos.map Combo.name).map fieldName).length = (values.map Int32.toInt).length := by
    rw [List.length_map, List.length_map, List.length_map, hlength]
  have hlookup := forall₂_lookup_zip hkeys hlength'
  unfold bindings
  rw [hzip]
  exact List.forall₂_map_left_iff.mp hlookup

/-- **What a class says it computes** is the sum over what its fields hold. -/
theorem readIndex?_eq_scaledSum (hlayout : Layout.ofCombos k.combos seed = .ok k.layout)
    (hnames : ∀ c ∈ k.combos, ∀ x ∈ c.name.toList, isNameChar x = true) {held : List Int}
    (hheld : List.Forall₂ (fun name n => value? (fieldName name) = some n) (k.combos.map Combo.name) held) :
    readIndex? (macroName k.base k.kind) k.text value? = some (scaledSum k.layout.fields held) := by
  have hfieldNames : k.layout.fields.map Field.name = k.combos.map Combo.name := by
    rw [Layout.fields_eq_place hlayout, Layout.map_name_place]
  have hlineFeed : ∀ c ∈ k.combos, '\n' ∉ c.name.toList := by
    intro c hc hmem
    exact absurd (hnames c hc '\n' hmem) (by decide)
  have htokens : tokens? (indexExpression k.layout.fields).toList
      = some (k.layout.fields.flatMap termTokens ++ [.number 0]) := by
    apply tokens?_indexExpression
    intro f hf
    obtain ⟨c, hc, hname⟩ := exists_combo_of_mem hfieldNames hf
    exact hname ▸ hnames c hc
  rw [← hfieldNames] at hheld
  have hsum := operand?_terms hheld 0
  rw [Int.zero_add] at hsum
  unfold readIndex?
  rw [returned?_text hlineFeed hfieldNames, Option.bind_some]
  unfold evaluate?
  rw [htokens]
  exact hsum

/-- Where the fields hold the values as they are, this is what the values weigh. -/
theorem readIndex?_eq_weigh (hlayout : Layout.ofCombos k.combos seed = .ok k.layout)
    (hdistinct : (k.combos.map Combo.name).Nodup)
    (hnames : ∀ c ∈ k.combos, ∀ x ∈ c.name.toList, isNameChar x = true)
    (hvalues : Admits k.combos values) (hnonneg : ∀ v ∈ values, 0 ≤ v.toInt) :
    readIndex? (macroName k.base k.kind) k.text (bindings k.combos values)
      = some (Layout.weigh seed k.combos values : Int) := by
  rw [readIndex?_eq_scaledSum hlayout hnames (bindings_fieldName hdistinct hvalues.length_eq),
    Layout.fields_eq_place hlayout, scaledSum_place hnonneg]

/-- **The text of `GetIndex` means the index.** Where combos with distinct names of letters, digits and
    underscores have a layout, they have a class, whatever it is to be called, and values in their ranges
    that are not negative have an index. The sum that the text of the class returns is found in it, and with
    each field bound to its combo's value it evaluates to that index. -/
theorem readIndex?_text (hlayout : Layout.ofCombos combos seed = .ok l)
    (hdistinct : (combos.map Combo.name).Nodup)
    (hnames : ∀ c ∈ combos, ∀ x ∈ c.name.toList, isNameChar x = true)
    (hvalues : Admits combos values) (hnonneg : ∀ v ∈ values, 0 ≤ v.toInt)
    (base : String) (kind : ComboKind) (stage : Stage) (parameters : String) :
    ∃ k n, ofCombos combos base kind stage parameters seed = .ok k ∧ l.indexOf? values = some n ∧
      readIndex? (macroName base kind) k.text (bindings combos values) = some (n : Int) := by
  have hclass : ofCombos combos base kind stage parameters seed
      = .ok ⟨base, kind, stage, parameters, combos, l⟩ := by
    unfold ofCombos
    rw [hlayout]
    rfl
  have hindex : l.indexOf? values = some (Layout.weigh seed combos values) :=
    (Layout.indexOf?_eq_some_iff hlayout).mpr ⟨hvalues, hnonneg, rfl⟩
  have hread := @readIndex?_eq_weigh ⟨base, kind, stage, parameters, combos, l⟩ values seed hlayout
    hdistinct hnames hvalues hnonneg
  exact ⟨_, _, hclass, hindex, hread⟩

/-- Two combos, the second with an initial expression that looks like another `GetIndex`. -/
def misleading : List Combo :=
  [⟨"A", 0, 2, .mustBeSet⟩,
    ⟨"B", 1, 3, .expression "0;\n\t\x7d\n\tint GetIndex()\n\t\x7b\n\t\treturn 7"⟩]

theorem readIndex?_text_misleading :
    ∃ k, ofCombos misleading "water_ps30" .static .pixel "" 2 = .ok k ∧
      readIndex? (macroName "water_ps30" .static) k.text (bindings misleading [2, 3]) = some 22 := by
  have hlayout : Layout.ofCombos misleading 2
      = .ok ⟨[⟨"A", 0, 2, 3, 2⟩, ⟨"B", 1, 3, 3, 6⟩], 9, 22⟩ := rfl
  have hvalues : Admits misleading [2, 3] := .cons (by decide) (.cons (by decide) .nil)
  have hnames : ∀ c ∈ misleading, c.name.toList.all isNameChar = true := by decide
  obtain ⟨k, n, hk, hindex, hread⟩ := readIndex?_text hlayout (by decide)
    (fun c hc => List.all_eq_true.mp (hnames c hc)) hvalues (hvalues.nonneg (by decide))
    "water_ps30" .static .pixel ""
  obtain rfl : 22 = n := Option.some.inj hindex
  exact ⟨k, hk, hread⟩

end IndexClass

end ShaderCombos
