import Mathlib
import ShaderCombos.Proofs.IndexClass.Accepted
import ShaderCombos.Proofs.IndexClass.FieldWidths

/-!
# `Proofs.IndexClass.Computed` — what a class computes according to its text

Whoever uses a class calls its setters and then `GetIndex`. Each of these is text. A setter says which range it
asserts and which field it assigns its argument to; the declarations say how wide that field is, and so how much
of the argument it keeps; the index function says which sum it returns. Here a class is run that way, without a
look at the combos and the layout that it was made of: an object has fields that hold numbers, a call of a setter
assigns to them (`call`), and the sum is evaluated over what they hold after a call of each setter
(`writtenIndex?`).

Members are found by their names, so the names have to be identifiers that differ (`ProperNames`). Then the text
computes what its parts were said to compute in `Proofs.IndexClass.Kept`, and it computes the index of the layout
exactly if each asserted range fits the declared width.

## Contents
- **Calls.** `assignedFields`, `call`, `calls`. One step is `call_eq`, and a call leaves other fields alone
  (`call_of_ne`); a run by induction on the calls is `calls_of_notMem` and `forall₂_calls`.
- **The index.** `writtenIndex?_eq`.
- **Faithful texts.** `FaithfulAsWritten`, `WidthsSuffice`, and `faithfulAsWritten_iff`.
-/

namespace ShaderCombos.IndexClass

open Text

variable {k : IndexClass} {c : Combo} {combos : List Combo} {values : List Int32} {v : Int32} {seed width : Nat}

/-! ## Calls -/

/-- What the fields of an object hold, by their names. A field that was never assigned holds nothing. -/
abbrev Held := String → Option Int

/-- The fields that the setter of a combo assigns its argument to, read from its lines. -/
def assignedFields (c : Combo) : List String :=
  ((setterLines c).map String.toList).filterMap (framed? "\t\tm_n" " = i;")

/-- A field is assigned a value, and keeps what fits the width that the class declares for it. -/
def assign (k : IndexClass) (v : Int32) (held : Held) (name : String) : Held :=
  Function.update held (fieldName name)
    (((declaredFields k.lines).lookup name).map fun width => (kept width v : Int))

/-- **A call of a setter** assigns its argument, field by field. -/
def call (k : IndexClass) (held : Held) (c : Combo) (v : Int32) : Held :=
  (assignedFields c).foldl (k.assign v) held

/-- A call of the setter of each combo, in order, with a value for each. -/
def calls (k : IndexClass) (held : Held) : List Combo → List Int32 → Held
  | c :: combos, v :: values => k.calls (k.call held c v) combos values
  | _, _ => held

/-- **A setter assigns the field of its combo**, once and no other. -/
theorem assignedFields_eq (c : Combo) : assignedFields c = [c.name] := by
  have hfixed : ∀ l ∈ fixedLines, framed? "\t\tm_n" " = i;" l.toList = none := by decide
  have hhead : framed? "\t\tm_n" " = i;" s!"\tvoid Set{c.name}( int i )".toList = none :=
    framed?_eq_none " = i;" (begins_setterHead c) (by decide)
  have hassert : framed? "\t\tm_n" " = i;"
      s!"\t\tAssert( i >= {c.min.toInt} && i <= {c.max.toInt} );".toList = none :=
    framed?_eq_none " = i;" (begins_append (begins_append (begins_append (begins_append List.prefix_rfl _) _)
      _) _) (show Apart "\t\tm_n" "\t\tAssert( i >= " by decide)
  have hstore : framed? "\t\tm_n" " = i;" s!"\t\t{fieldName c.name} = i;".toList = some c.name := by
    show framed? "\t\tm_n" " = i;" ("\t\t" ++ ("m_n" ++ c.name) ++ " = i;").toList = some c.name
    rw [String.toList_append, String.toList_append, String.toList_append, List.append_assoc, List.append_assoc]
    exact framed?_append "\t\tm_n" c.name " = i;"
  have hraise : framed? "\t\tm_n" " = i;" s!"\t\t{flagName c.name} = true;".toList = none := by
    have hline : "\t\tm_b".toList <+: ("\t\t" ++ ("m_b" ++ c.name) ++ " = true;").toList := by
      rw [String.toList_append, String.toList_append, String.toList_append]
      exact ⟨_, rfl⟩
    exact framed?_eq_none " = i;" hline (by decide)
  unfold assignedFields
  rw [filterMap_setterLines c hfixed hhead hraise, List.filterMap_cons_none hassert,
    List.filterMap_cons_some hstore, List.filterMap_nil]

/-- **One call** leaves in the field of its combo what the field keeps of the value. -/
theorem call_eq (hwidth : (declaredFields k.lines).lookup c.name = some width) (held : Held) (v : Int32) :
    k.call held c v = Function.update held (fieldName c.name) (some (kept width v : Int)) := by
  unfold call
  rw [assignedFields_eq, List.foldl_cons, List.foldl_nil]
  unfold assign
  rw [hwidth]
  rfl

/-- A call leaves the fields of other combos alone. -/
theorem call_of_ne {name : String} (h : name ≠ c.name) (held : Held) (v : Int32) :
    k.call held c v (fieldName name) = held (fieldName name) := by
  unfold call
  rw [assignedFields_eq, List.foldl_cons, List.foldl_nil]
  exact Function.update_of_ne (fieldName_injective.ne h) _ _

/-- So do calls, one after the other. -/
theorem calls_of_notMem {name : String} (h : name ∉ combos.map Combo.name) (held : Held) (values : List Int32) :
    k.calls held combos values (fieldName name) = held (fieldName name) := by
  induction combos generalizing held values with
  | nil => rfl
  | cons c combos ih =>
      rw [List.map_cons, List.mem_cons, not_or] at h
      cases values with
      | nil => rfl
      | cons v values => rw [calls, ih h.2, call_of_ne h.1]

/-- **Calls of setters of combos with distinct names** leave in each field what it keeps of its own value. By
induction on the calls: what a call leaves in its field, the later ones leave alone. -/
theorem forall₂_calls (hdistinct : (combos.map Combo.name).Nodup) (hlength : combos.length = values.length)
    {widths : List Nat}
    (hwidths : List.Forall₂ (fun name width => (declaredFields k.lines).lookup name = some width)
      (combos.map Combo.name) widths) (held : Held) :
    List.Forall₂ (fun name n => k.calls held combos values (fieldName name) = some n) (combos.map Combo.name)
      (List.zipWith (fun width v => (kept width v : Int)) widths values) := by
  induction combos generalizing values widths held with
  | nil =>
      cases hwidths
      exact .nil
  | cons c combos ih =>
      rw [List.map_cons] at hwidths hdistinct ⊢
      cases hwidths with
      | @cons _ width _ widths hwidth hrest =>
          cases values with
          | nil => simp at hlength
          | cons v values =>
              rw [List.nodup_cons] at hdistinct
              have hfirst : k.calls held (c :: combos) (v :: values) (fieldName c.name)
                  = some (kept width v : Int) := by
                rw [calls, calls_of_notMem hdistinct.1, call_eq hwidth, Function.update_self]
              exact .cons hfirst (ih hdistinct.2 (by simpa using hlength) hrest (k.call held c v))

/-! ## The index -/

/-- **Names that tell members apart**: they differ, and each is an identifier or the end of one. -/
structure ProperNames (combos : List Combo) : Prop where
  distinct : (combos.map Combo.name).Nodup
  plain : ∀ c ∈ combos, ∀ ch ∈ c.name.toList, isNameChar ch = true

instance (combos : List Combo) : Decidable (ProperNames combos) :=
  decidable_of_iff ((combos.map Combo.name).Nodup ∧ ∀ c ∈ combos, c.name.toList.all isNameChar = true)
    ⟨fun h => ⟨h.1, fun c hc => List.all_eq_true.mp (h.2 c hc)⟩,
      fun h => ⟨h.distinct, fun c hc => List.all_eq_true.mpr (h.plain c hc)⟩⟩

/-- **The index that a class computes according to its text**, after a call of each setter. -/
def writtenIndex? (k : IndexClass) (values : List Int32) : Option Int :=
  readIndex? (macroName k.base k.kind) k.text (k.calls (fun _ => none) k.combos values)

/-- The width that is declared for a field is found by the field's name. -/
theorem forall₂_lookup_declaredFields (hlayout : Layout.ofCombos k.combos seed = .ok k.layout)
    (hdistinct : (k.combos.map Combo.name).Nodup) :
    List.Forall₂ (fun name width => (declaredFields k.lines).lookup name = some width)
      (k.combos.map Combo.name) (k.layout.fields.map Field.bits) := by
  have hnames : k.layout.fields.map Field.name = k.combos.map Combo.name := by
    rw [Layout.fields_eq_place hlayout, Layout.map_name_place]
  have hdeclared : declaredFields k.lines
      = (k.layout.fields.map Field.name).zip (k.layout.fields.map Field.bits) := by
    rw [declaredFields_lines, List.zip_map']
  rw [← hnames] at hdistinct ⊢
  rw [hdeclared]
  exact forall₂_lookup_zip hdistinct (by rw [List.length_map, List.length_map])

/-- What the fields of a class keep of some values adds up to the index that the class computes. -/
theorem scaledSum_kept (fields : List Field) (values : List Int32) :
    scaledSum fields (List.zipWith (fun width v => (kept width v : Int)) (fields.map Field.bits) values)
      = ((List.zipWith (fun f v => f.scale * kept f.bits v) fields values).sum : Nat) := by
  induction fields generalizing values with
  | nil => rfl
  | cons f fields ih =>
      cases values with
      | nil => rfl
      | cons v values =>
          rw [List.map_cons, List.zipWith_cons_cons, scaledSum_cons, ih, List.zipWith_cons_cons, List.sum_cons,
            Nat.cast_add, Nat.cast_mul]

/-- **The text computes what the class computes.** -/
theorem writtenIndex?_eq (hlayout : Layout.ofCombos k.combos seed = .ok k.layout)
    (hnames : ProperNames k.combos) (hlength : k.combos.length = values.length) :
    k.writtenIndex? values = some (k.computedIndex values : Int) := by
  have hwidths := forall₂_lookup_declaredFields hlayout hnames.distinct
  have hheld := forall₂_calls hnames.distinct hlength hwidths fun _ => none
  unfold writtenIndex? computedIndex
  rw [readIndex?_eq_scaledSum hlayout hnames.plain hheld, scaledSum_kept]

/-- In particular for values that the setters accept. -/
theorem writtenIndex?_of_accepts (hlayout : Layout.ofCombos k.combos seed = .ok k.layout)
    (hnames : ProperNames k.combos) (haccepts : List.Forall₂ SetterAccepts k.combos values) :
    k.writtenIndex? values = some (k.computedIndex values : Int) :=
  writtenIndex?_eq hlayout hnames haccepts.length_eq

/-! ## Faithful texts -/

/-- **The text stores what it is given**: after calls of the setters with values that they accept, it computes
the index that the layout defines. -/
def FaithfulAsWritten (k : IndexClass) : Prop :=
  ∀ values, List.Forall₂ SetterAccepts k.combos values →
    ∃ n : Nat, k.layout.indexOf? values = some n ∧ k.writtenIndex? values = some (n : Int)

/-- **Each declared width is enough** for the range that the setter of the field asserts. -/
def WidthsSuffice (k : IndexClass) : Prop :=
  List.Forall₂ (fun c declared => ∀ range ∈ assertedRanges c, range.2 < 2 ^ declared.2) k.combos
    (declaredFields k.lines)

theorem faithfulAsWritten_iff_faithful (hlayout : Layout.ofCombos k.combos seed = .ok k.layout)
    (hnames : ProperNames k.combos) : k.FaithfulAsWritten ↔ k.Faithful := by
  constructor
  · intro h values hvalues
    have haccepts := forall₂_setterAccepts_iff.mpr hvalues
    obtain ⟨n, hindex, hwritten⟩ := h values haccepts
    rw [writtenIndex?_of_accepts hlayout hnames haccepts, Option.some.injEq, Nat.cast_inj] at hwritten
    rw [hindex, hwritten]
  · intro h values haccepts
    have hindex := h values (forall₂_setterAccepts_iff.mp haccepts)
    exact ⟨_, hindex, writtenIndex?_of_accepts hlayout hnames haccepts⟩

theorem forall₂_place_iff {scale : Nat} :
    List.Forall₂ (fun (c : Combo) (declared : String × Nat) => c.max.toInt < 2 ^ declared.2) combos
        ((Layout.place scale combos).map fun f => (f.name, f.bits)) ↔
      ∀ c ∈ combos, c.max.toInt < 2 ^ bitWidth c.count := by
  induction combos generalizing scale with
  | nil => simp [Layout.place]
  | cons c combos ih =>
      unfold Layout.place
      rw [List.map_cons, List.forall₂_cons, ih, List.forall_mem_cons]
      rfl

theorem widthsSuffice_iff (hlayout : Layout.ofCombos k.combos seed = .ok k.layout) :
    k.WidthsSuffice ↔ ∀ f ∈ k.layout.fields, f.max.toInt < 2 ^ f.bits := by
  unfold WidthsSuffice
  simp only [assertedRanges_eq, List.forall_mem_singleton]
  rw [declaredFields_lines, Layout.fields_eq_place hlayout, forall₂_place_iff, Layout.forall_mem_place_iff]

/-- **Faithful texts.** The text of a class whose combos have no negative bounds stores what it is given exactly
if each declared width is enough. -/
theorem faithfulAsWritten_iff (hseed : 0 < seed) (hlayout : Layout.ofCombos k.combos seed = .ok k.layout)
    (hnonneg : ∀ c ∈ k.combos, 0 ≤ c.min.toInt ∧ 0 ≤ c.max.toInt) (hnames : ProperNames k.combos) :
    k.FaithfulAsWritten ↔ k.WidthsSuffice := by
  rw [faithfulAsWritten_iff_faithful hlayout hnames, widthsSuffice_iff hlayout]
  exact faithful_iff hseed hlayout hnonneg

end ShaderCombos.IndexClass
