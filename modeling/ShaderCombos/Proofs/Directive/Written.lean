import Mathlib
import ShaderCombos.Directive
import ShaderCombos.Proofs.Text.Digits

/-!
# `Proofs.Directive.Written` — directives in their documented form

What a reader of the documentation may write for a directive, said without the reader that is proved about:

    // STATIC: "NAME" "min..max" [PC] [=init]
    // DYNAMIC: "NAME" "min..max" [ps30]
    // CENTROID: TEXCOORD2
    // SKIP: $A && !$B [vs20]

Runs of blanks may stand between the parts of a line. Behind the declaration comes a *trail* of markers in
any order and number: the desktop mark, versions of the stage the source is read for, and for a combo the
mark of its initial expression. Every part is a structure that carries its own conditions, so a line can
only be written from parts that are in order.

## Contents
- **Parts of a line.** `Gap`, `Name`, `Numeral`, `Expression`, `Predicate`, `Version`.
- **Trails.** `Marker`, `Trail`, and `Filter.Allows` for the versions that are named.
- **Lines.** `Opening`, `Writes`: the lines that declare a directive. `exists_writes_iff` says which
  directives have one.
- **Sources.** `Transcribes`: lines that declare some directives, with other lines between them.
-/

namespace ShaderCombos.Directive

open Text

/-! ## Parts of a line -/

/-- A run of blanks within a line. Spaces and tabs are blanks; a line feed would end the line. -/
structure Gap where
  chars : List Char
  blank : ∀ c ∈ chars, isBlank c = true ∧ c ≠ '\n'

namespace Gap

/-- No blanks. -/
def none : Gap :=
  ⟨[], fun c hc => by cases hc⟩

/-- One space. -/
def space : Gap :=
  ⟨[' '], fun c hc => by
    rw [List.mem_singleton.mp hc]
    exact ⟨by decide, by decide⟩⟩

/-- One run of blanks after another. -/
def append (g h : Gap) : Gap :=
  ⟨g.chars ++ h.chars, fun c hc => (List.mem_append.mp hc).elim (g.blank c) (h.blank c)⟩

end Gap

/-- The name of a combo: letters, digits and underscores. -/
structure Name where
  chars : List Char
  nonempty : chars ≠ []
  word : ∀ c ∈ chars, c.isAlphanum = true ∨ c = '_'

/-- ASCII digits that spell a number. -/
structure Numeral (n : Nat) where
  digits : List Char
  ascii : ∀ c ∈ digits, c.isDigit = true
  value : readDecimal? digits = some n

/-- **Every number has a numeral**: its decimal digits. -/
def Numeral.ofNat (n : Nat) : Numeral n where
  digits := Nat.toDigits 10 n
  ascii := fun _ hc => isDigit_of_mem_toDigits hc
  value := readDecimal?_toDigits n

/-- An initial expression. -/
structure Expression where
  chars : List Char
  nonempty : chars ≠ []
  trimmed : trim chars = chars
  plain : ∀ c ∈ chars, c ≠ '[' ∧ c ≠ ']' ∧ c ≠ ';' ∧ c ≠ '\n'

/-- The predicate of a skip directive, which may be empty. -/
structure Predicate where
  chars : List Char
  trimmed : trim chars = chars
  plain : ∀ c ∈ chars, c ≠ '[' ∧ c ≠ '\n'

/-- A version: decimal digits of any script, and then at most one word character. -/
structure Version where
  chars : List Char
  spelled : ∃ digits suffix, chars = digits ++ suffix ∧ digits ≠ [] ∧
    (∀ c ∈ digits, isDigit c = true) ∧ (suffix = [] ∨ ∃ c, suffix = [c] ∧ isWord c = true)

/-! ## Trails -/

/-- What can stand in brackets behind a declaration that is read for a stage. -/
inductive Marker (stage : Stage) where
  /-- The desktop mark. -/
  | desktop
  /-- A version of the stage, whose two letters may be in either case. -/
  | version (first second : Char) (letters : isStage stage first second = true) (version : Version)
  /-- An initial expression. A semicolon may follow it, with blanks behind. -/
  | init (lead before : Gap) (expression : Expression) (after : Gap) (semicolon : Option Gap)

namespace Marker

variable {stage : Stage}

/-- What stands between the equals sign and the closing bracket of an initial expression. -/
def initText (before : Gap) (expression : Expression) (after : Gap) : Option Gap → List Char
  | none => before.chars ++ expression.chars ++ after.chars
  | some gap => before.chars ++ expression.chars ++ after.chars ++ ';' :: gap.chars

/-- The marker as it is written. -/
def text : Marker stage → List Char
  | .desktop => ['[', 'P', 'C', ']']
  | .version first second _ v => '[' :: first :: second :: (v.chars ++ [']'])
  | .init lead before expression after semicolon =>
      '[' :: (lead.chars ++ '=' :: (initText before expression after semicolon ++ [']']))

/-- The version that the marker names. -/
def version? : Marker stage → Option (List Char)
  | .version _ _ _ v => some v.chars
  | _ => none

/-- The initial expression that the marker gives. -/
def expression? : Marker stage → Option Expression
  | .init _ _ expression _ _ => some expression
  | _ => none

end Marker

/-- What follows a declaration on its line: blanks, and markers with blanks behind them. -/
structure Trail (stage : Stage) where
  lead : Gap
  markers : List (Marker stage × Gap)

namespace Trail

variable {stage : Stage}

/-- The trail as it is written. -/
def text (t : Trail stage) : List Char :=
  t.lead.chars ++ t.markers.flatMap fun m => m.1.text ++ m.2.chars

/-- The versions that the trail names. -/
def versions (t : Trail stage) : List (List Char) :=
  t.markers.filterMap fun m => m.1.version?

/-- The initial expressions that the trail gives. -/
def expressions (t : Trail stage) : List Expression :=
  t.markers.filterMap fun m => m.1.expression?

end Trail

/-- A trail names no version, or the filter's version is among those that it names. -/
def Filter.Allows (f : Filter) (t : Trail f.stage) : Prop :=
  t.versions = [] ∨ ∃ version ∈ t.versions, asciiLowercase version = f.version.toList

/-! ## Lines -/

/-- The blanks around the slashes, the keyword and the colon. -/
structure Opening where
  lead : Gap
  afterSlashes : Gap
  afterKeyword : Gap
  afterColon : Gap

/-- What comes before the declaration. -/
def Opening.text (o : Opening) (kind : Kind) : List Char :=
  o.lead.chars ++ ('/' :: '/' :: (o.afterSlashes.chars ++ (kind.keyword.toList
    ++ (o.afterKeyword.chars ++ (':' :: o.afterColon.chars)))))

/-- A name in quotes. -/
def Name.quoted (name : Name) : List Char :=
  '"' :: (name.chars ++ ['"'])

/-- A range in quotes. -/
def rangeText {low high : Nat} (lower : Numeral low) (upper : Numeral high) : List Char :=
  '"' :: (lower.digits ++ ('.' :: '.' :: (upper.digits ++ ['"'])))

/-- The initial value that a combo has with or without an expression. -/
def initOf : Option Expression → Combo.Init
  | none => .mustBeSet
  | some expression => .expression (String.ofList expression.chars)

/-- **The lines that declare a directive** to a reader with the given filter. -/
inductive Writes (f : Filter) : Directive → List Char → Prop where
  /-- A combo: name and range do not touch, and the trail gives at most one initial expression. -/
  | combo (list : ComboKind) (opening : Opening) (name : Name) (gap : Gap) (apart : gap.chars ≠ [])
      {low high : Nat} (lower : Numeral low) (upper : Numeral high) (hlow : low < 2 ^ 31)
      (hhigh : high < 2 ^ 31) (init : Option Expression) (trail : Trail f.stage)
      (hallows : f.Allows trail) (hinit : trail.expressions = init.toList) :
      Writes f
        (.combo list ⟨String.ofList name.chars, Int32.ofNat low, Int32.ofNat high, initOf init⟩)
        (opening.text (.combo list)
          ++ (name.quoted ++ (gap.chars ++ (rangeText lower upper ++ trail.text))))
  /-- A texture coordinate. -/
  | centroid (opening : Opening) (slot : Fin 32) (numeral : Numeral slot) (trail : Trail f.stage)
      (hallows : f.Allows trail) (hinit : trail.expressions = []) :
      Writes f (.centroid slot)
        (opening.text .centroid ++ ("TEXCOORD".toList ++ (numeral.digits ++ trail.text)))
  /-- A predicate. -/
  | skip (opening : Opening) (predicate : Predicate) (trail : Trail f.stage)
      (hallows : f.Allows trail) (hinit : trail.expressions = []) :
      Writes f (.skip (String.ofList predicate.chars))
        (opening.text .skip ++ (predicate.chars ++ trail.text))

/-- What can be declared: combos with a proper name and without negative bounds, whose initial value is an
    expression if they have one, texture coordinates, and predicates. -/
def Declarable : Directive → Prop
  | .combo _ c => (∃ name : Name, c.name = String.ofList name.chars) ∧ 0 ≤ c.min.toInt ∧
      0 ≤ c.max.toInt ∧ ∃ expression, c.init = initOf expression
  | .centroid _ => True
  | .skip rule => ∃ predicate : Predicate, rule = String.ofList predicate.chars

theorem ofNat_toNat_toInt {i : Int32} (h : 0 ≤ i.toInt) :
    i.toInt.toNat < 2 ^ 31 ∧ Int32.ofNat i.toInt.toNat = i := by
  have hlt : i.toInt.toNat < 2 ^ 31 := by
    have := Int32.toInt_lt i
    omega
  refine ⟨hlt, Int32.toInt_inj.mp ?_⟩
  rw [Int32.toInt_ofNat_of_lt hlt]
  omega

/-- **Lines for directives.** Exactly what can be declared has a line that declares it, whatever the
    filter. -/
theorem exists_writes_iff {f : Filter} {directive : Directive} :
    (∃ line, Writes f directive line) ↔ Declarable directive := by
  constructor
  · rintro ⟨line, hline⟩
    cases hline with
    | @combo list o name gap apart low high lower upper hlow hhigh expression t hallows hinit =>
        refine ⟨⟨name, rfl⟩, ?_, ?_, expression, rfl⟩
        · show 0 ≤ (Int32.ofNat low).toInt
          rw [Int32.toInt_ofNat_of_lt hlow]
          omega
        · show 0 ≤ (Int32.ofNat high).toInt
          rw [Int32.toInt_ofNat_of_lt hhigh]
          omega
    | centroid o slot numeral t hallows hinit => exact trivial
    | skip o predicate t hallows hinit => exact ⟨predicate, rfl⟩
  · let plain : Opening := ⟨Gap.none, Gap.none, Gap.none, Gap.none⟩
    intro h
    cases directive with
    | combo list c =>
        obtain ⟨name, min, max, init⟩ := c
        obtain ⟨⟨word, hname⟩, hmin, hmax, expression, hinit⟩ := h
        obtain ⟨hlow, hlow'⟩ := ofNat_toNat_toInt hmin
        obtain ⟨hhigh, hhigh'⟩ := ofNat_toNat_toInt hmax
        let markers : List (Marker f.stage × Gap) := expression.toList.map fun e =>
          (.init Gap.none Gap.none e Gap.none none, Gap.none)
        have hexpressions : (⟨Gap.none, markers⟩ : Trail f.stage).expressions
            = expression.toList := by
          cases expression with
          | none => rfl
          | some e => rfl
        have hversions : (⟨Gap.none, markers⟩ : Trail f.stage).versions = [] := by
          cases expression with
          | none => rfl
          | some e => rfl
        have hwrites := Writes.combo (f := f) list plain word Gap.space (List.cons_ne_nil _ _)
          (Numeral.ofNat min.toInt.toNat) (Numeral.ofNat max.toInt.toNat) hlow hhigh expression
          ⟨Gap.none, markers⟩ (Or.inl hversions) hexpressions
        rw [hlow', hhigh', ← hname, ← hinit] at hwrites
        exact ⟨_, hwrites⟩
    | centroid slot =>
        exact ⟨_, .centroid plain slot (Numeral.ofNat slot) ⟨Gap.none, []⟩ (Or.inl rfl) rfl⟩
    | skip rule =>
        obtain ⟨predicate, rfl⟩ := h
        exact ⟨_, .skip plain predicate ⟨Gap.none, []⟩ (Or.inl rfl) rfl⟩

/-! ## Sources -/

/-- **The sources that declare some directives**, in order: a line for each directive, and between them
    any lines that are no directives. -/
inductive Transcribes (f : Filter) : List Directive → List String → Prop where
  | done : Transcribes f [] []
  | other {directives : List Directive} {line : String} {lines : List String}
      (hother : head? line.toList = none) (hrest : Transcribes f directives lines) :
      Transcribes f directives (line :: lines)
  | declared {directive : Directive} {directives : List Directive} {line : String}
      {lines : List String} (hline : Writes f directive line.toList)
      (hrest : Transcribes f directives lines) :
      Transcribes f (directive :: directives) (line :: lines)

end ShaderCombos.Directive
