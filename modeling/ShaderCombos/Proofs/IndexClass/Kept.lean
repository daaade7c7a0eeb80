import Mathlib
import ShaderCombos.IndexClass
import ShaderCombos.Proofs.Layout.Placement
import ShaderCombos.Proofs.Outcomes
import ShaderCombos.Proofs.Width

/-!
# `Proofs.IndexClass.Kept` — what a generated class keeps of its values

A generated class asserts that a value lies in its combo's range, assigns it to a bit field and multiplies
what the field holds by the scale. The field is as wide as the *number* of values needs, but it is given
the value itself. A range that starts above zero can so have values that do not fit. `faithful_iff` is the
exact condition under which the class computes the index that the layout defines: the greatest value of
each range fits its field.

## Contents
- **Bit fields.** `kept`, `kept_le`, `kept_eq_iff`.
- **Sums.** `weighKept` beside `weigh`: equal on all values exactly if equal on the greatest ones.
- **Classes.** `computedIndex`, `Faithful`, `faithful_iff`.
-/

namespace ShaderCombos

/-! ## Bit fields -/

/-- What an unsigned bit field keeps of a value: the value modulo two to the width. -/
def kept (width : Nat) (value : Int32) : Nat :=
  (value.toInt % 2 ^ width).toNat

/-- A field keeps a value that is not negative exactly if the value fits. -/
theorem kept_eq_iff {width : Nat} {value : Int32} (h : 0 ≤ value.toInt) :
    kept width value = value.toInt.toNat ↔ value.toInt < 2 ^ width := by
  have hpos : (0 : Int) < 2 ^ width := by positivity
  unfold kept
  constructor
  · intro heq
    have hlt := Int.emod_lt_of_pos value.toInt hpos
    have hnonneg := Int.emod_nonneg value.toInt (ne_of_gt hpos)
    omega
  · intro hlt
    rw [Int.emod_eq_of_lt h hlt]

/-- No field keeps more than it is given. -/
theorem kept_le {width : Nat} {value : Int32} (h : 0 ≤ value.toInt) :
    kept width value ≤ value.toInt.toNat := by
  have hpos : (0 : Int) ≤ 2 ^ width := by positivity
  have hparts := Int.mul_ediv_add_emod value.toInt (2 ^ width)
  have hmultiple := Int.mul_nonneg hpos (Int.ediv_nonneg h hpos)
  unfold kept
  omega

/-! ## Sums -/

namespace Layout

/-- The sum of what fields keep of values times running scales, of which the first is the given one. -/
def weighKept (scale : Nat) : List Combo → List Int32 → Nat
  | c :: combos, v :: values =>
      scale * kept (bitWidth c.count) v + weighKept (scale * c.count) combos values
  | _, _ => 0

/-- What the fields keep weighs no more than what they are given. -/
theorem weighKept_le {scale : Nat} {combos : List Combo} {values : List Int32}
    (h : ∀ v ∈ values, 0 ≤ v.toInt) : weighKept scale combos values ≤ weigh scale combos values := by
  induction combos generalizing scale values with
  | nil => exact Nat.le_refl 0
  | cons c combos ih =>
      cases values with
      | nil => exact Nat.le_refl 0
      | cons v values =>
          unfold weighKept weigh
          have hv : 0 ≤ v.toInt := h v List.mem_cons_self
          have hrest := @ih (scale * c.count) values fun w hw => h w (List.mem_cons_of_mem _ hw)
          exact Nat.add_le_add (Nat.mul_le_mul_left scale (kept_le hv)) hrest

/-- Where every greatest value fits, the fields lose nothing. -/
theorem weighKept_eq {scale : Nat} {combos : List Combo} {values : List Int32}
    (hfits : ∀ c ∈ combos, c.max.toInt < 2 ^ bitWidth c.count)
    (hnonneg : ∀ v ∈ values, 0 ≤ v.toInt) (hvalues : Admits combos values) :
    weighKept scale combos values = weigh scale combos values := by
  induction hvalues generalizing scale with
  | nil => rfl
  | @cons c v combos values hrange _ ih =>
      unfold weighKept weigh
      have hv : 0 ≤ v.toInt := hnonneg v List.mem_cons_self
      have hlt : v.toInt < 2 ^ bitWidth c.count :=
        lt_of_le_of_lt hrange.2 (hfits c List.mem_cons_self)
      rw [(kept_eq_iff hv).mpr hlt]
      rw [ih (fun d hd => hfits d (List.mem_cons_of_mem _ hd))
        fun w hw => hnonneg w (List.mem_cons_of_mem _ hw)]

/-- **The greatest values decide.** If the fields lose nothing of the assignment in which every combo has
    its greatest value, then every greatest value fits: scales are positive, so what one field loses no
    other makes up for. -/
theorem fits_of_weighKept_highest {scale : Nat} {combos : List Combo} (hscale : 0 < scale)
    (hranges : ∀ c ∈ combos, c.min.toInt ≤ c.max.toInt) (hnonneg : ∀ c ∈ combos, 0 ≤ c.max.toInt)
    (h : weighKept scale combos (highest combos) = weigh scale combos (highest combos)) :
    ∀ c ∈ combos, c.max.toInt < 2 ^ bitWidth c.count := by
  induction combos generalizing scale with
  | nil =>
      intro c hc
      cases hc
  | cons c combos ih =>
      have hc : 0 ≤ c.max.toInt := hnonneg c List.mem_cons_self
      have hrest : ∀ v ∈ highest combos, 0 ≤ v.toInt := by
        intro v hv
        obtain ⟨d, hd, rfl⟩ := List.mem_map.mp hv
        exact hnonneg d (List.mem_cons_of_mem _ hd)
      have hcount : 0 < c.count := Combo.count_pos (hranges c List.mem_cons_self)
      have hfirst : scale * kept (bitWidth c.count) c.max ≤ scale * c.max.toInt.toNat :=
        Nat.mul_le_mul_left scale (kept_le hc)
      have hothers := @weighKept_le (scale * c.count) combos _ hrest
      -- Neither part of the sum can be more than it should be, so neither is less.
      have hsum : scale * kept (bitWidth c.count) c.max
            + weighKept (scale * c.count) combos (highest combos)
          = scale * c.max.toInt.toNat + weigh (scale * c.count) combos (highest combos) := h
      have hkept : kept (bitWidth c.count) c.max = c.max.toInt.toNat :=
        Nat.eq_of_mul_eq_mul_left hscale (by omega)
      intro d hd
      rcases List.mem_cons.mp hd with rfl | hd
      · exact (kept_eq_iff hc).mp hkept
      · exact ih (Nat.mul_pos hscale hcount) (fun e he => hranges e (List.mem_cons_of_mem _ he))
          (fun e he => hnonneg e (List.mem_cons_of_mem _ he)) (by omega) d hd

/-- The fields that combos are placed in have the combos' bounds and the widths of their counts. -/
theorem forall_mem_place_iff {scale : Nat} {combos : List Combo} :
    (∀ f ∈ place scale combos, f.max.toInt < 2 ^ f.bits) ↔
      ∀ c ∈ combos, c.max.toInt < 2 ^ bitWidth c.count := by
  induction combos generalizing scale with
  | nil => simp [place]
  | cons c combos ih =>
      unfold place
      rw [List.forall_mem_cons, List.forall_mem_cons, ih]
      rfl

end Layout

/-! ## Classes -/

namespace IndexClass

/-- What `GetIndex` computes once the setters have been called with some values, one for each combo: each
    field keeps what fits its width, and the sum goes over fields and scales. -/
def computedIndex (k : IndexClass) (values : List Int32) : Nat :=
  (List.zipWith (fun f v => f.scale * kept f.bits v) k.layout.fields values).sum

/-- **The class stores what it is given**: for values that all setters accept, it computes the index that
    the layout defines. -/
def Faithful (k : IndexClass) : Prop :=
  ∀ values, Admits k.combos values → k.layout.indexOf? values = some (k.computedIndex values)

/-- A class has the combos that it is made of and their layout. -/
theorem of_ofCombos {combos : List Combo} {base parameters : String} {kind : ComboKind} {stage : Stage}
    {seed : Nat} {k : IndexClass} (h : ofCombos combos base kind stage parameters seed = .ok k) :
    k.combos = combos ∧ Layout.ofCombos k.combos seed = .ok k.layout := by
  obtain ⟨layout, hlayout, hk⟩ := except_bind_eq_ok.mp h
  obtain rfl := Except.ok.inj hk
  exact ⟨rfl, Attempt.ofFaulty_eq_ok.mp hlayout⟩

theorem sum_kept_place (scale : Nat) (combos : List Combo) (values : List Int32) :
    (List.zipWith (fun f v => f.scale * kept f.bits v) (Layout.place scale combos) values).sum
      = Layout.weighKept scale combos values := by
  induction combos generalizing scale values with
  | nil => rfl
  | cons c combos ih =>
      cases values with
      | nil => rfl
      | cons v values =>
          unfold Layout.place Layout.weighKept
          rw [List.zipWith_cons_cons, List.sum_cons, ih]
          rfl

/-- **Faithful classes.** A class whose combos have no negative bounds stores what it is given exactly if
    the greatest value of each combo fits the combo's field. -/
theorem faithful_iff {k : IndexClass} {seed : Nat} (hseed : 0 < seed)
    (hlayout : Layout.ofCombos k.combos seed = .ok k.layout)
    (hnonneg : ∀ c ∈ k.combos, 0 ≤ c.min.toInt ∧ 0 ≤ c.max.toInt) :
    k.Faithful ↔ ∀ f ∈ k.layout.fields, f.max.toInt < 2 ^ f.bits := by
  obtain ⟨hranges, hplace⟩ := Layout.ofCombos_eq hlayout
  have hfields : k.layout.fields = Layout.place seed k.combos := by rw [hplace]
  have hcomputed : ∀ values, k.computedIndex values = Layout.weighKept seed k.combos values := by
    intro values
    unfold computedIndex
    rw [hfields, sum_kept_place]
  -- What is said of the fields is said of the combos that they were made from.
  have hfits : (∀ f ∈ k.layout.fields, f.max.toInt < 2 ^ f.bits) ↔
      ∀ c ∈ k.combos, c.max.toInt < 2 ^ bitWidth c.count := by
    rw [hfields]
    exact Layout.forall_mem_place_iff
  rw [hfits]
  constructor
  · intro hfaithful
    have hgreatest := hfaithful (highest k.combos) (admits_highest hranges)
    rw [Layout.indexOf?_eq_some_iff hlayout, hcomputed] at hgreatest
    exact Layout.fits_of_weighKept_highest hseed hranges (fun c hc => (hnonneg c hc).2)
      hgreatest.2.2
  · intro hfit values hvalues
    have hvalues' : ∀ v ∈ values, 0 ≤ v.toInt := hvalues.nonneg fun c hc => (hnonneg c hc).1
    rw [Layout.indexOf?_eq_some_iff hlayout, hcomputed]
    exact ⟨hvalues, hvalues', Layout.weighKept_eq hfit hvalues' hvalues⟩

/-- Ranges that start at zero fit their fields, so classes of such combos are faithful. -/
theorem faithful_of_zero_based {k : IndexClass} {seed : Nat} (hseed : 0 < seed)
    (hlayout : Layout.ofCombos k.combos seed = .ok k.layout)
    (hzero : ∀ c ∈ k.combos, c.min.toInt = 0) : k.Faithful := by
  obtain ⟨hranges, hplace⟩ := Layout.ofCombos_eq hlayout
  have hnonneg : ∀ c ∈ k.combos, 0 ≤ c.min.toInt ∧ 0 ≤ c.max.toInt := by
    intro c hc
    have hmin := hzero c hc
    have hle := hranges c hc
    omega
  rw [faithful_iff hseed hlayout hnonneg, hplace]
  apply Layout.forall_mem_place_iff.mpr
  intro c hc
  have hmin := hzero c hc
  have hcount : c.max.toInt < (c.count : Int) := by
    unfold Combo.count
    omega
  exact lt_of_lt_of_le hcount (by exact_mod_cast le_two_pow_bitWidth c.count)

end IndexClass

end ShaderCombos
