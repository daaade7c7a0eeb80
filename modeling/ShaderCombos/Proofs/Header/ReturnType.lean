import Mathlib
import ShaderCombos.Proofs.Header.Capacity
import ShaderCombos.Proofs.IndexClass.Computed

/-!
# `Proofs.Header.ReturnType` — when an index fits what `GetIndex` returns

`GetIndex` is declared to return a signed number of 32 bits. A header is generated as long as the greatest
index of each layout fits 64 bits, and no one compares it with the declaration. So a header can be generated
whose classes compute indices that they cannot return.

Which headers are safe is decided by one number for each class, the greatest index that it computes. All
scales are added up in it, each times the greatest number that its field keeps of the values of a range
(`Field.peak`). For ranges that start at zero that is the greatest value, and the number is the greatest index
of the layout. It is also the greatest number that the text of the class computes after calls of its setters, so
the same number decides which texts return what they compute.

## Contents
- **Fields.** `Field.peak`: the bound `kept_le_peak`, reached in `exists_kept_eq_peak`.
- **Classes.** `greatestComputed`, reached and never exceeded (`isGreatest_computedIndex`), `Returnable`, and
  `returnable_iff`.
- **Texts.** `writtenIndices`, `isGreatest_writtenIndices`, and `returnableAsWritten_iff`.
- **Headers.** `returnable_of_text`, and a header whose index cannot be returned.
-/

namespace ShaderCombos

/-! ## Fields -/

/-- The greatest number that a bit field keeps of the values of its range. Going down from the greatest value,
    what is kept goes down to zero and then starts again with all bits set, if the range reaches that far. -/
def Field.peak (f : Field) : Nat :=
  if f.max.toInt - f.min.toInt ≤ f.max.toInt % 2 ^ f.bits then kept f.bits f.max else 2 ^ f.bits - 1

/-- What is kept of a number that is a multiple of two to the width and a rest. -/
theorem kept_eq_of_eq_add {width : Nat} {value : Int32} {rest : Int} (factor : Int)
    (hnonneg : 0 ≤ rest) (hlt : rest < 2 ^ width) (h : value.toInt = rest + 2 ^ width * factor) :
    kept width value = rest.toNat := by
  unfold kept
  rw [h, Int.add_mul_emod_self_left, Int.emod_eq_of_lt hnonneg hlt]

theorem kept_lt (width : Nat) (value : Int32) : kept width value < 2 ^ width := by
  have hpos : (0 : Int) < 2 ^ width := by positivity
  have hlt := Int.emod_lt_of_pos value.toInt hpos
  unfold kept
  rw [Int.toNat_lt (Int.emod_nonneg _ (ne_of_gt hpos))]
  exact_mod_cast hlt

/-- No value of the range leaves more in the field than the peak. -/
theorem kept_le_peak (f : Field) {v : Int32} (hmin : f.min.toInt ≤ v.toInt)
    (hmax : v.toInt ≤ f.max.toInt) : kept f.bits v ≤ f.peak := by
  have hpos : (0 : Int) < 2 ^ f.bits := by positivity
  have hparts := Int.emod_add_mul_ediv f.max.toInt (2 ^ f.bits)
  have hlt := Int.emod_lt_of_pos f.max.toInt hpos
  unfold Field.peak
  by_cases hnear : f.max.toInt - f.min.toInt ≤ f.max.toInt % 2 ^ f.bits
  · rw [if_pos hnear]
    -- The value lies above the multiple that the greatest value lies above.
    have hv : kept f.bits v = (f.max.toInt % 2 ^ f.bits - (f.max.toInt - v.toInt)).toNat := by
      apply kept_eq_of_eq_add (f.max.toInt / 2 ^ f.bits)
      · omega
      · omega
      · omega
    rw [hv]
    apply Int.toNat_le_toNat
    omega
  · rw [if_neg hnear]
    exact Nat.le_sub_one_of_lt (kept_lt f.bits v)

/-- Some value of the range leaves the peak in the field. -/
theorem exists_kept_eq_peak (f : Field) (h : f.min.toInt ≤ f.max.toInt) :
    ∃ v : Int32, (f.min.toInt ≤ v.toInt ∧ v.toInt ≤ f.max.toInt) ∧ kept f.bits v = f.peak := by
  have hpos : (0 : Int) < 2 ^ f.bits := by positivity
  have hparts := Int.emod_add_mul_ediv f.max.toInt (2 ^ f.bits)
  have hrest := Int.emod_nonneg f.max.toInt (ne_of_gt hpos)
  unfold Field.peak
  by_cases hnear : f.max.toInt - f.min.toInt ≤ f.max.toInt % 2 ^ f.bits
  · rw [if_pos hnear]
    exact ⟨f.max, ⟨h, le_refl _⟩, rfl⟩
  · rw [if_neg hnear]
    -- The value just below the greatest multiple has all bits set.
    have hlow := f.min.le_toInt
    have hhigh := f.max.toInt_lt
    have hvalue : (Int32.ofInt (f.max.toInt - f.max.toInt % 2 ^ f.bits - 1)).toInt
        = f.max.toInt - f.max.toInt % 2 ^ f.bits - 1 := by
      apply Int32.toInt_ofInt_of_le
      · omega
      · omega
    refine ⟨Int32.ofInt (f.max.toInt - f.max.toInt % 2 ^ f.bits - 1), ⟨?_, ?_⟩, ?_⟩
    · rw [hvalue]
      omega
    · rw [hvalue]
      omega
    · have hall : kept f.bits (Int32.ofInt (f.max.toInt - f.max.toInt % 2 ^ f.bits - 1))
          = ((2 : Int) ^ f.bits - 1).toNat := by
        apply kept_eq_of_eq_add (f.max.toInt / 2 ^ f.bits - 1)
        · omega
        · omega
        · rw [hvalue, Int.mul_sub, Int.mul_one]
          omega
      rw [hall]
      have hcast : ((2 ^ f.bits : Nat) : Int) = 2 ^ f.bits := by push_cast; rfl
      omega

/-- The peak of a range that starts at zero is its greatest value: the field has room for all values. -/
theorem peak_of_zero {f : Field} (hmin : f.min.toInt = 0) (hmax : 0 ≤ f.max.toInt)
    (hlt : f.max.toInt < 2 ^ f.bits) : f.peak = f.max.toInt.toNat := by
  have hself : f.max.toInt % 2 ^ f.bits = f.max.toInt := Int.emod_eq_of_lt hmax hlt
  unfold Field.peak
  rw [hself, hmin, Int.sub_zero, if_pos (le_refl _)]
  exact (kept_eq_iff hmax).mpr hlt

/-! ## Classes -/

namespace Layout

/-- The sum of the peaks of fields times their scales. -/
def peaks (fields : List Field) : Nat :=
  (fields.map fun f => f.scale * f.peak).sum

theorem peaks_cons (f : Field) (fields : List Field) :
    peaks (f :: fields) = f.scale * f.peak + peaks fields := by
  unfold peaks
  rw [List.map_cons, List.sum_cons]

/-- What fields keep of values in range weighs no more than their peaks. -/
theorem weighKept_le_peaks {combos : List Combo} {values : List Int32} (scale : Nat)
    (h : Admits combos values) : weighKept scale combos values ≤ peaks (place scale combos) := by
  induction h generalizing scale with
  | nil => exact Nat.le_refl 0
  | @cons c v combos values hv _ ih =>
      rw [place, peaks_cons]
      have hfirst : kept (bitWidth c.count) v ≤ Field.peak ⟨c.name, c.min, c.max, c.count, scale⟩ :=
        kept_le_peak ⟨c.name, c.min, c.max, c.count, scale⟩ hv.1 hv.2
      exact Nat.add_le_add (Nat.mul_le_mul_left scale hfirst) (ih (scale * c.count))

/-- Some values in range leave their peaks in all fields. -/
theorem exists_weighKept_eq_peaks {combos : List Combo} (scale : Nat)
    (h : ∀ c ∈ combos, c.min.toInt ≤ c.max.toInt) :
    ∃ values, Admits combos values ∧ weighKept scale combos values = peaks (place scale combos) := by
  induction combos generalizing scale with
  | nil => exact ⟨[], .nil, rfl⟩
  | cons c combos ih =>
      have hc : c.min.toInt ≤ c.max.toInt := h c List.mem_cons_self
      obtain ⟨v, hv, hpeak⟩ :=
        exists_kept_eq_peak ⟨c.name, c.min, c.max, c.count, scale⟩ hc
      obtain ⟨values, hvalues, hsum⟩ :=
        ih (scale * c.count) fun d hd => h d (List.mem_cons_of_mem _ hd)
      refine ⟨v :: values, .cons hv hvalues, ?_⟩
      rw [place, peaks_cons, ← hpeak, ← hsum]
      rfl

/-- The peaks of ranges that start at zero are their greatest values. -/
theorem peaks_place_of_zero {combos : List Combo} (scale : Nat) (hzero : ∀ c ∈ combos, c.min = 0)
    (hle : ∀ c ∈ combos, c.min.toInt ≤ c.max.toInt) :
    peaks (place scale combos) = weigh scale combos (highest combos) := by
  induction combos generalizing scale with
  | nil => rfl
  | cons c combos ih =>
      have hmin : c.min = 0 := hzero c List.mem_cons_self
      have hc : c.min.toInt ≤ c.max.toInt := hle c List.mem_cons_self
      have hzero' : c.min.toInt = 0 := by rw [hmin, Int32.toInt_zero]
      have hroom : (c.count : Int) ≤ 2 ^ bitWidth c.count := by
        exact_mod_cast le_two_pow_bitWidth c.count
      have hpeak : Field.peak ⟨c.name, c.min, c.max, c.count, scale⟩ = c.max.toInt.toNat := by
        apply peak_of_zero hzero'
        · show 0 ≤ c.max.toInt
          omega
        · show c.max.toInt < 2 ^ bitWidth c.count
          rw [Combo.count_of_zero hmin hc] at hroom ⊢
          omega
      rw [place, peaks_cons, hpeak, ih (scale * c.count) (fun d hd => hzero d (List.mem_cons_of_mem _ hd))
        fun d hd => hle d (List.mem_cons_of_mem _ hd)]
      rfl

end Layout

namespace IndexClass

/-- The greatest signed number of 32 bits, which is what `GetIndex` is declared to return. -/
def greatestReturn : Nat :=
  2 ^ 31 - 1

/-- The greatest index that a class computes. -/
def greatestComputed (k : IndexClass) : Nat :=
  Layout.peaks k.layout.fields

/-- **The class can return what it computes**, for all values that its setters accept. -/
def Returnable (k : IndexClass) : Prop :=
  ∀ values, Admits k.combos values → k.computedIndex values ≤ greatestReturn

variable {k : IndexClass} {seed : Nat}

/-- What a class computes is what its fields keep, scaled and summed up. -/
theorem computedIndex_eq (hlayout : Layout.ofCombos k.combos seed = .ok k.layout) (values : List Int32) :
    k.computedIndex values = Layout.weighKept seed k.combos values := by
  unfold computedIndex
  rw [Layout.fields_eq_place hlayout, sum_kept_place]

/-- **The greatest index** is computed for some values in range, and none is greater. -/
theorem isGreatest_computedIndex (hlayout : Layout.ofCombos k.combos seed = .ok k.layout) :
    IsGreatest (k.computedIndex '' {values | Admits k.combos values}) k.greatestComputed := by
  have hgreatest : k.greatestComputed = Layout.peaks (Layout.place seed k.combos) := by
    unfold greatestComputed
    rw [Layout.fields_eq_place hlayout]
  rw [hgreatest]
  constructor
  · obtain ⟨values, hvalues, hpeaks⟩ := Layout.exists_weighKept_eq_peaks seed (Layout.ofCombos_eq hlayout).1
    exact ⟨values, hvalues, (computedIndex_eq hlayout values).trans hpeaks⟩
  · rintro _ ⟨values, hvalues, rfl⟩
    rw [computedIndex_eq hlayout]
    exact Layout.weighKept_le_peaks seed hvalues

/-- **When a class can return what it computes**: its greatest index is a number of the return type. -/
theorem returnable_iff (hlayout : Layout.ofCombos k.combos seed = .ok k.layout) :
    k.Returnable ↔ k.greatestComputed ≤ greatestReturn := by
  obtain ⟨⟨values, hvalues, hgreatest⟩, hbound⟩ := isGreatest_computedIndex hlayout
  constructor
  · intro hreturnable
    rw [← hgreatest]
    exact hreturnable values hvalues
  · intro hfits values hvalues
    exact le_trans (hbound ⟨values, hvalues, rfl⟩) hfits

/-- Where all ranges start at zero, the greatest index that a class computes is that of its layout. -/
theorem greatestComputed_of_zero (hlayout : Layout.ofCombos k.combos seed = .ok k.layout)
    (hzero : ∀ c ∈ k.combos, c.min = 0) : k.greatestComputed = k.layout.maxIndex := by
  obtain ⟨hle, hplace⟩ := Layout.ofCombos_eq hlayout
  unfold greatestComputed
  rw [hplace]
  exact Layout.peaks_place_of_zero seed hzero hle

/-! ## Texts -/

/-- The indices that a class computes according to its text, after calls of its setters with values that they
    accept. -/
def writtenIndices (k : IndexClass) : Set Int :=
  {n | ∃ values, List.Forall₂ SetterAccepts k.combos values ∧ k.writtenIndex? values = some n}

/-- **The text can return what it computes.** -/
def ReturnableAsWritten (k : IndexClass) : Prop :=
  ∀ values, List.Forall₂ SetterAccepts k.combos values →
    ∃ n, k.writtenIndex? values = some n ∧ n ≤ greatestReturn

/-- The greatest index is the greatest one that the text computes. -/
theorem isGreatest_writtenIndices (hlayout : Layout.ofCombos k.combos seed = .ok k.layout)
    (hnames : ProperNames k.combos) : IsGreatest k.writtenIndices k.greatestComputed := by
  obtain ⟨⟨values, hvalues, hgreatest⟩, hbound⟩ := isGreatest_computedIndex hlayout
  constructor
  · have haccepts := forall₂_setterAccepts_iff.mpr hvalues
    refine ⟨values, haccepts, ?_⟩
    rw [writtenIndex?_of_accepts hlayout hnames haccepts, hgreatest]
  · rintro n ⟨others, haccepts, hn⟩
    rw [writtenIndex?_of_accepts hlayout hnames haccepts] at hn
    obtain rfl := Option.some.inj hn
    exact_mod_cast hbound ⟨others, forall₂_setterAccepts_iff.mp haccepts, rfl⟩

/-- **When a text can return what it computes**: the same number decides. -/
theorem returnableAsWritten_iff (hlayout : Layout.ofCombos k.combos seed = .ok k.layout)
    (hnames : ProperNames k.combos) : k.ReturnableAsWritten ↔ k.greatestComputed ≤ greatestReturn := by
  obtain ⟨⟨values, haccepts, hgreatest⟩, hbound⟩ := isGreatest_writtenIndices hlayout hnames
  constructor
  · intro hreturnable
    obtain ⟨n, hn, hle⟩ := hreturnable values haccepts
    obtain rfl := Option.some.inj (hgreatest.symm.trans hn)
    exact_mod_cast hle
  · intro hfits others hothers
    have hwritten := writtenIndex?_of_accepts hlayout hnames hothers
    refine ⟨_, hwritten, ?_⟩
    exact le_trans (hbound ⟨others, hothers, hwritten⟩) (by exact_mod_cast hfits)

end IndexClass

/-! ## Headers -/

namespace Header

variable {u : ShaderUnit} {t : String}

/-- **Which headers return their indices.** Wherever a header is generated, the greatest index of either layout
    fits 64 bits. A class of it can return all indices that it computes exactly if the greatest one of them is
    a signed number of 32 bits, and for ranges that start at zero this is the greatest index of the layout.
    Where the members of the class have names of their own, it is also the greatest index that the text of the
    class computes after calls of its setters, and the text returns all of them under the same condition. -/
theorem returnable_of_text (h : text u = .ok t) :
    ∃ static dynamic, Emits u t static dynamic ∧ ∀ k ∈ [static, dynamic],
      k.layout.maxIndex < 2 ^ 64 ∧ (k.Returnable ↔ k.greatestComputed ≤ IndexClass.greatestReturn) ∧
        ((∀ c ∈ k.combos, c.min = 0) → k.greatestComputed = k.layout.maxIndex) ∧
          (IndexClass.ProperNames k.combos → IsGreatest k.writtenIndices k.greatestComputed ∧
            (k.ReturnableAsWritten ↔ k.greatestComputed ≤ IndexClass.greatestReturn)) := by
  obtain ⟨static, dynamic, hemits⟩ := emits_of_text h
  refine ⟨static, dynamic, hemits, ?_⟩
  intro k hk
  obtain ⟨kind, seed, -, hclass⟩ := hemits.exists_indexClass k hk
  have hlayout := (indexClass_eq_ok hclass).2
  refine ⟨Layout.maxIndex_lt hlayout, IndexClass.returnable_iff hlayout, ?_, ?_⟩
  · intro hzero
    exact IndexClass.greatestComputed_of_zero hlayout hzero
  · intro hnames
    exact ⟨IndexClass.isGreatest_writtenIndices hlayout hnames,
      IndexClass.returnableAsWritten_iff hlayout hnames⟩

/-! ### An index of 2 ^ 31

The first combo uses up all numbers that can be returned, and the second one doubles them. -/

namespace Doubled

def unit : ShaderUnit where
  name := "a_ps30"
  stage := .pixel
  model := .three
  version := "30"
  dynamic := [⟨"A", 0, 2147483647, .mustBeSet⟩, ⟨"B", 0, 1, .mustBeSet⟩]

theorem exists_text : ∃ t, text unit = .ok t :=
  exists_text_iff.mpr ⟨_, _, rfl, rfl⟩

theorem properNames (kind : ComboKind) : IndexClass.ProperNames (unit.combos kind) := by
  cases kind with
  | static => decide
  | dynamic => decide

end Doubled

theorem returnable_of_text_doubled :
    ∃ t, text Doubled.unit = .ok t ∧
      ∃ static dynamic, Emits Doubled.unit t static dynamic ∧ ∀ k ∈ [static, dynamic],
        k.layout.maxIndex < 2 ^ 64 ∧ (k.Returnable ↔ k.greatestComputed ≤ IndexClass.greatestReturn) ∧
          k.greatestComputed = k.layout.maxIndex ∧ IsGreatest k.writtenIndices k.greatestComputed ∧
            (k.ReturnableAsWritten ↔ k.greatestComputed ≤ IndexClass.greatestReturn) := by
  obtain ⟨t, ht⟩ := Doubled.exists_text
  obtain ⟨static, dynamic, hemits, hclasses⟩ := returnable_of_text ht
  refine ⟨t, ht, static, dynamic, hemits, ?_⟩
  intro k hk
  obtain ⟨kind, seed, -, hclass⟩ := hemits.exists_indexClass k hk
  obtain ⟨hindex, hreturnable, hgreatest, hwritten⟩ := hclasses k hk
  have hzero : ∀ c ∈ Doubled.unit.combos kind, c.min = 0 := by
    cases kind with
    | static => decide
    | dynamic => decide
  rw [(indexClass_eq_ok hclass).1] at hgreatest hwritten
  exact ⟨hindex, hreturnable, hgreatest hzero, hwritten (Doubled.properNames kind)⟩

/-- **A generated class can compute what it cannot return.** -/
theorem not_forall_returnable :
    ¬ ∀ (u : ShaderUnit) (t : String) (static dynamic : IndexClass), text u = .ok t →
      Emits u t static dynamic → static.Returnable ∧ dynamic.Returnable := by
  intro h
  obtain ⟨t, ht⟩ := Doubled.exists_text
  obtain ⟨static, dynamic, hemits⟩ := emits_of_text ht
  obtain ⟨-, hreturnable⟩ := h _ t static dynamic ht hemits
  obtain ⟨hcombos, hlayout⟩ := indexClass_eq_ok hemits.unseeded
  -- The second combo alone adds 2 ^ 31.
  have hadmits : Admits dynamic.combos [0, 1] := by
    rw [hcombos]
    exact .cons (by decide) (.cons (by decide) .nil)
  have hfits := hreturnable [0, 1] hadmits
  rw [IndexClass.computedIndex_eq hlayout, hcombos] at hfits
  exact absurd hfits (by decide)

end Header

end ShaderCombos
