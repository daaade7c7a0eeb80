import Mathlib
import ShaderCombos.Proofs.IndexClass.Bookkeeping
import ShaderCombos.Proofs.Layout.Exactness
import ShaderCombos.Proofs.Width

/-!
# `Proofs.IndexClass.FieldWidths` — the bit fields of a class fit an unsigned number

A class declares a bit field of type `unsigned int` for each combo. Such a declaration is an error if its width
is zero or more than the 32 bits of the type. The width of a field is the least one for the cardinality of its
combo (`Proofs.Width`), and a cardinality has no bound but that of the numbers in a range: a range from the least
to the greatest number of 32 bits has `2 ^ 32` values, one more than such a number can count. Its field takes all
32 bits, and none takes more.

What a class declares is read from its lines, so the bound is one on what is written (`declaredFields_lines`).

## Contents
- **Runs at the end.** `rdropWhile_run` and `rtakeWhile_run`.
- **Cardinalities.** `Combo.count_le`, and that a combo on its own can always be laid out.
- **Fields.** `Field.Sized`: a field with the width of its combo. All fields of a layout are (`forall₂_sized`).
- **Declarations.** `declaredField?` reads one line, `declaredFields` the lines of a class.
- **Widths.** `bitWidth_exact`.
-/

namespace ShaderCombos

/-! ## Runs at the end -/

namespace Text

variable {p : Char → Bool} {s run : List Char} {d : Char}

/-- A run at the end of a text begins behind the last character that is not of its kind. -/
theorem rdropWhile_run (hrun : ∀ c ∈ run, p c = true) (hd : p d = false) :
    (s ++ d :: run).rdropWhile p = s ++ [d] := by
  have hreverse : (s ++ d :: run).reverse = run.reverse ++ d :: s.reverse := by simp
  unfold List.rdropWhile
  rw [hreverse, dropWhile_run (fun c hc => hrun c (List.mem_reverse.mp hc)) hd, List.reverse_cons,
    List.reverse_reverse]

theorem rtakeWhile_run (hrun : ∀ c ∈ run, p c = true) (hd : p d = false) :
    (s ++ d :: run).rtakeWhile p = run := by
  have hreverse : (s ++ d :: run).reverse = run.reverse ++ d :: s.reverse := by simp
  unfold List.rtakeWhile
  rw [hreverse, takeWhile_run (fun c hc => hrun c (List.mem_reverse.mp hc)) hd, List.reverse_reverse]

end Text

open Text

/-! ## Cardinalities -/

/-- No range has more values than there are numbers of 32 bits. -/
theorem Combo.count_le (c : Combo) : c.count ≤ 2 ^ 32 := by
  have hmin := c.min.le_toInt
  have hmax := c.max.toInt_lt
  unfold Combo.count
  omega

/-- So 32 bits are enough for each. -/
theorem Combo.bitWidth_count_le (c : Combo) : bitWidth c.count ≤ 32 :=
  (bitWidth_le_iff (by decide)).mpr c.count_le

/-- A combo on its own needs no more room than there is. -/
theorem Layout.fits_alone {c : Combo} (h : c.min.toInt ≤ c.max.toInt) : Layout.Fits 1 [] c where
  ordered := h
  scale_lt := by decide
  volume_lt := by
    have hcount := c.count_le
    rw [Layout.volume_concat]
    show 1 * c.count < 2 ^ 64
    omega
  reach_lt := by
    have hmax := c.max.toInt_lt
    rw [Layout.reach_concat]
    show 0 + 1 * 1 * c.max.toInt.toNat < 2 ^ 64
    omega

/-! ## Fields -/

/-- **The field of a combo**: it has the combo's name and the width of the combo's cardinality, and that is the
    width of a bit field that a number of 32 bits has room for. -/
structure Field.Sized (c : Combo) (f : Field) : Prop where
  name_eq : f.name = c.name
  cardinality_eq : c.cardinality? = some f.cardinality
  bits_eq : f.bits = bitWidth f.cardinality
  one_le_bits : 1 ≤ f.bits
  bits_le : f.bits ≤ 32

theorem Field.sized_place {c : Combo} (h : c.min.toInt ≤ c.max.toInt) (scale : Nat) :
    Field.Sized c ⟨c.name, c.min, c.max, c.count, scale⟩ where
  name_eq := rfl
  cardinality_eq := Combo.cardinality?_of_le h
  bits_eq := rfl
  one_le_bits := one_le_bitWidth c.count
  bits_le := c.bitWidth_count_le

/-- Each combo is placed in a field of its own. -/
theorem Layout.forall₂_sized_place (scale : Nat) {combos : List Combo}
    (h : ∀ c ∈ combos, c.min.toInt ≤ c.max.toInt) :
    List.Forall₂ Field.Sized combos (Layout.place scale combos) := by
  induction combos generalizing scale with
  | nil => exact .nil
  | cons c combos ih =>
      exact .cons (Field.sized_place (h c List.mem_cons_self) scale)
        (ih (scale * c.count) fun d hd => h d (List.mem_cons_of_mem c hd))

/-- **All fields of a layout** have the widths of their combos. -/
theorem Layout.forall₂_sized {combos : List Combo} {seed : Nat} {l : Layout}
    (h : Layout.ofCombos combos seed = .ok l) : List.Forall₂ Field.Sized combos l.fields := by
  rw [Layout.fields_eq_place h]
  exact Layout.forall₂_sized_place seed (Layout.ofCombos_eq h).1

/-- A combo whose range is not reversed can be laid out on its own, in one field. -/
theorem Layout.exists_sized_alone {c : Combo} (h : c.min.toInt ≤ c.max.toInt) :
    ∃ f l, Layout.ofCombos [c] 1 = .ok l ∧ l.fields = [f] ∧ Field.Sized c f := by
  have hfits : ∀ k hk, Layout.FitsAt 1 ([] ++ [c]) k hk :=
    Layout.forall_fitsAt_concat_iff.mpr ⟨fun k hk => absurd hk (Nat.not_lt_zero k), Layout.fits_alone h⟩
  exact ⟨_, _, Layout.ofCombos_eq_ok_iff.mpr ⟨hfits, rfl⟩, rfl, Field.sized_place h 1⟩

namespace IndexClass

/-! ## Declarations -/

/-- The name and the width in the declaration of a bit field. The width is the numeral at the end, whatever is in
    the name. -/
def declaredField? (line : List Char) : Option (String × Nat) := do
  let declared ← framed? "\tunsigned int m_n" ";" line
  let name ← framed? "" " : " (declared.toList.rdropWhile Char.isDigit)
  let width ← readDecimal? (declared.toList.rtakeWhile Char.isDigit)
  some (name, width)

/-- The bit fields that are declared in some lines, in front of the public part of a class. -/
def declaredFields (lines : List String) : List (String × Nat) :=
  ((lines.map String.toList).takeWhile (· ≠ "public:".toList)).filterMap declaredField?

/-- **A declaration is read back.** -/
theorem declaredField?_line (name : String) (width : Nat) :
    declaredField? s!"\tunsigned int {fieldName name} : {width};".toList = some (name, width) := by
  have hline : s!"\tunsigned int {fieldName name} : {width};".toList = "\tunsigned int m_n".toList
      ++ ((name ++ " : " ++ width.repr).toList ++ ";".toList) := by
    show ("\tunsigned int " ++ ("m_n" ++ name) ++ " : " ++ width.repr ++ ";").toList = _
    simp only [String.toList_append, List.append_assoc]
    rfl
  have hdeclared : (name ++ " : " ++ width.repr).toList
      = (name.toList ++ " :".toList) ++ ' ' :: Nat.toDigits 10 width := by
    rw [String.toList_append, String.toList_append, Nat.toList_repr, List.append_assoc, List.append_assoc]
    rfl
  have hdigits : ∀ c ∈ Nat.toDigits 10 width, c.isDigit = true := fun c hc => isDigit_of_mem_toDigits hc
  have hname : framed? "" " : " (name.toList ++ " :".toList ++ [' ']) = some name := by
    rw [List.append_assoc]
    exact framed?_append "" name " : "
  unfold declaredField?
  rw [hline, framed?_append, Option.bind_eq_bind, Option.bind_some, hdeclared, rdropWhile_run hdigits rfl,
    rtakeWhile_run hdigits rfl, hname, readDecimal?_toDigits]
  rfl

/-- A line that begins in another way declares no bit field. -/
theorem declaredField?_eq_none {start : String} {line : List Char} (h : start.toList <+: line)
    (hapart : Apart "\tunsigned int m_n" start) : declaredField? line = none := by
  unfold declaredField?
  rw [framed?_eq_none ";" h hapart]
  rfl

/-- The lines of a class up to its public part. -/
theorem takeWhile_lines (k : IndexClass) :
    (k.lines.map String.toList).takeWhile (· ≠ "public:".toList) = k.privateLines := by
  have hlines : k.lines.map String.toList = k.privateLines ++ "public:".toList
      :: (k.combos.flatMap setterLines ++ k.constructorLines ++ k.indexLines ++ ["\x7d;", ""]
        ++ [k.macroLine, ""]).map String.toList := by
    unfold lines privateLines
    simp only [List.map_append, List.append_assoc, List.cons_append, List.nil_append, List.map_cons,
      List.map_nil]
    rfl
  rw [hlines]
  exact takeWhile_ne (public_notMem_privateLines k) _

/-- **A class declares its fields.** One bit field is declared for each field of the layout, in order and with the
    field's width, and no other bit field of that type. -/
theorem declaredFields_lines (k : IndexClass) :
    declaredFields k.lines = k.layout.fields.map fun f => (f.name, f.bits) := by
  have hhead : [("class " ++ k.name).toList, "\x7b".toList].filterMap declaredField? = [] := by
    rw [List.filterMap_cons_none (declaredField?_eq_none (begins_class k) (by decide))]
    rfl
  have hfields : (k.fieldLines.map String.toList).filterMap declaredField?
      = k.layout.fields.map fun f => (f.name, f.bits) := by
    unfold fieldLines
    rw [List.map_map, List.filterMap_map]
    exact List.filterMap_eq_map_iff_forall_eq_some.mpr fun f _ => declaredField?_line f.name f.bits
  have hflags : (k.flagLines.map String.toList).filterMap declaredField? = [] := by
    have hguards : ∀ line ∈ guardLines, declaredField? line = none := by decide
    apply List.filterMap_eq_nil_iff.mpr
    intro line hline
    rcases of_mem_flagLines hline with hstart | ⟨-, hguard⟩
    · exact declaredField?_eq_none hstart (by decide)
    · exact hguards line hguard
  unfold declaredFields
  rw [takeWhile_lines]
  unfold privateLines
  rw [List.filterMap_append, List.filterMap_append, hhead, hfields, hflags, List.nil_append, List.append_nil]

/-! ## Widths -/

/-- **Widths are exact.** The width of a count is the least number of bits, at least one, in which so many values
    can be told apart, and it grows with the count. For a count of 64 bits it is found from leading zeros, and
    above `2 ^ 63` it is 64, where two to the width does not fit the word. A combo whose range is not reversed can
    be laid out, and every class declares for each of its combos a bit field of the width of the combo's
    cardinality, which is between 1 and 32. -/
theorem bitWidth_exact :
    (∀ count, IsLeast {w | 1 ≤ w ∧ count ≤ 2 ^ w} (bitWidth count)) ∧ Monotone bitWidth ∧
      (∀ count : UInt64,
        (bitWidth count.toNat = if count ≤ 2 then 1 else 64 - (count - 1).toBitVec.clz.toNat) ∧
          (2 ^ 63 < count.toNat → bitWidth count.toNat = 64)) ∧
      (∀ c : Combo, c.min.toInt ≤ c.max.toInt →
        ∃ f l, Layout.ofCombos [c] 1 = .ok l ∧ l.fields = [f] ∧ Field.Sized c f) ∧
      ∀ (combos : List Combo) (base : String) (kind : ComboKind) (stage : Stage) (parameters : String)
        (seed : Nat) (k : IndexClass), ofCombos combos base kind stage parameters seed = .ok k →
          List.Forall₂ Field.Sized combos k.layout.fields ∧
            declaredFields k.lines = k.layout.fields.map fun f => (f.name, f.bits) := by
  refine ⟨isLeast_bitWidth, bitWidth_monotone, ?_, fun c h => Layout.exists_sized_alone h, ?_⟩
  · intro count
    refine ⟨bitWidth_toNat count, fun hlow => ?_⟩
    exact bitWidth_eq_succ hlow (Nat.le_of_lt count.toNat_lt)
  · intro combos base kind stage parameters seed k hk
    obtain ⟨rfl, hlayout⟩ := of_ofCombos hk
    exact ⟨Layout.forall₂_sized hlayout, declaredFields_lines k⟩

/-! ### A range of all numbers

The range has `2 ^ 32` values, and its field takes all bits of the type. -/

namespace FullRange

def combo : Combo where
  name := "A"
  min := Int32.minValue
  max := Int32.maxValue

def combos : List Combo :=
  [combo, ⟨"B", 0, 2, .mustBeSet⟩]

theorem exists_ofCombos : ∃ k, ofCombos combos "water_ps30" .static .pixel "" 1 = .ok k ∧
    k.layout.fields.map (fun f => (f.name, f.bits)) = [("A", 32), ("B", 2)] :=
  ⟨_, rfl, by decide⟩

end FullRange

theorem bitWidth_exact_full_range :
    (2 ^ 63 < (0x8000000000000001 : UInt64).toNat ∧ bitWidth (0x8000000000000001 : UInt64).toNat = 64) ∧
      (∃ f l, Layout.ofCombos [FullRange.combo] 1 = .ok l ∧ l.fields = [f] ∧ Field.Sized FullRange.combo f) ∧
      ∃ k, ofCombos FullRange.combos "water_ps30" .static .pixel "" 1 = .ok k ∧
        declaredFields k.lines = [("A", 32), ("B", 2)] := by
  obtain ⟨-, -, hwords, halone, hclasses⟩ := bitWidth_exact
  have hlow : 2 ^ 63 < (0x8000000000000001 : UInt64).toNat := by decide
  obtain ⟨k, hk, hfields⟩ := FullRange.exists_ofCombos
  obtain ⟨-, hdeclared⟩ := hclasses _ _ _ _ _ _ k hk
  exact ⟨⟨hlow, (hwords _).2 hlow⟩, halone FullRange.combo (by decide), k, hk, hdeclared.trans hfields⟩

end IndexClass

end ShaderCombos
