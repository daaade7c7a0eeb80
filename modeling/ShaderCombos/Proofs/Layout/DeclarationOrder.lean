import Mathlib
import ShaderCombos.Proofs.Layout.Exactness
import ShaderCombos.Proofs.Layout.GreatestIndex

/-!
# `Proofs.Layout.DeclarationOrder` — what the order of combos decides

Each scale is a product over the combos in front, so another order gives other scales and other indices. For
ranges that start at zero nothing else changes: the assignments are numbered from zero on without a gap, and
an index is the seed times such a number. The indices as a set, their number and the greatest of them depend
on the product of the counts only, which knows no order.

Whether there is a layout at all nearly has the same answer in every order. Only one of the conditions looks
at positions, the one on the scale of the last combo. If that combo has two values or more, its scale is below
the greatest index, so there is nothing new to ask. If it has a single value, its scale is already the seed
times the whole product, which the greatest index stays below by one seed. In that gap, and nowhere else, the
orders that end in a combo with a single value are refused while the others are not.

## Contents
- **Conditions without an order.** `WithinWords`, `EndsSingle`, and `exists_ofCombos_iff`.
- **The edge of 64 bits.** `AtEdge`: there the last combo decides (`AtEdge.exists_ofCombos_iff`), and away from
  it no order does (`exists_ofCombos_iff_of_not_atEdge`).
- **Indices.** `indices_eq`: the multiples of the seed.
- **Two orders.** `ofCombos_perm`, and orders at the edge of which one is refused.
-/

namespace ShaderCombos.Layout

variable {combos front a b : List Combo} {c : Combo} {seed : Nat} {l : Layout}

/-! ## Conditions without an order -/

/-- **What combos need in any order**: ranges that are not reversed, and words for the count of the
    assignments and for the greatest index. -/
structure WithinWords (seed : Nat) (combos : List Combo) : Prop where
  ordered : ∀ c ∈ combos, c.min.toInt ≤ c.max.toInt
  volume_lt : volume combos < 2 ^ 64
  greatest_lt : seed * volume combos < 2 ^ 64 + seed

/-- The last combo has a single value. -/
def EndsSingle (combos : List Combo) : Prop :=
  ∃ c, combos.getLast? = some c ∧ c.count = 1

theorem endsSingle_concat_iff : EndsSingle (front ++ [c]) ↔ c.count = 1 := by
  unfold EndsSingle
  rw [List.getLast?_concat]
  constructor
  · rintro ⟨d, hd, hcount⟩
    obtain rfl := Option.some.inj hd
    exact hcount
  · intro hcount
    exact ⟨c, rfl, hcount⟩

theorem forall_mem_concat_iff {p : Combo → Prop} :
    (∀ d ∈ front ++ [c], p d) ↔ (∀ d ∈ front, p d) ∧ p c := by
  rw [List.forall_mem_append, List.forall_mem_singleton]

/-- The greatest index of ranges that start at zero is the last one before the next scale. -/
theorem reach_add_seed (seed : Nat) (hzero : ∀ c ∈ combos, c.min = 0)
    (hle : ∀ c ∈ combos, c.min.toInt ≤ c.max.toInt) :
    reach seed combos + seed = seed * volume combos := by
  rw [← weigh_highest_eq_reach]
  exact weigh_highest_add hzero hle seed

/-- **The scale of the last combo.** Where the greatest index is a word, only a combo with a single value
    can have a scale that is none. -/
theorem scale_lt_of_greatest_lt (hfront : 0 < volume front) (hc : 0 < c.count)
    (hgreatest : seed * volume (front ++ [c]) < 2 ^ 64 + seed)
    (hsingle : c.count = 1 → seed * volume (front ++ [c]) < 2 ^ 64) : seed * volume front < 2 ^ 64 := by
  rw [volume_concat] at hgreatest hsingle
  by_cases hone : c.count = 1
  · have hlt := hsingle hone
    rwa [hone, Nat.mul_one] at hlt
  · have htwo : 2 ≤ c.count := by omega
    have hseed : seed ≤ seed * volume front := Nat.le_mul_of_pos_right seed hfront
    have hdouble : seed * volume front * 2 ≤ seed * volume front * c.count :=
      Nat.mul_le_mul_left _ htwo
    rw [← Nat.mul_assoc] at hgreatest
    omega

/-- **Which combos fit**, where all ranges start at zero. By induction from the last combo on: each combo in
    front has a smaller scale than the one behind it. -/
theorem forall_fitsAt_iff (hzero : ∀ c ∈ combos, c.min = 0) :
    (∀ k h, FitsAt seed combos k h) ↔
      WithinWords seed combos ∧ (EndsSingle combos → seed * volume combos < 2 ^ 64) := by
  induction combos using List.reverseRecOn with
  | nil =>
      constructor
      · intro _
        refine ⟨⟨by simp, by simp [volume], by simp [volume]⟩, ?_⟩
        rintro ⟨c, hc, -⟩
        cases hc
      · intro _ k hk
        exact absurd hk (Nat.not_lt_zero k)
  | append_singleton front c ih =>
      have hfront : ∀ d ∈ front, d.min = 0 := (forall_mem_concat_iff.mp hzero).1
      rw [forall_fitsAt_concat_iff, endsSingle_concat_iff, and_congr_left_iff.mpr fun _ => ih hfront]
      constructor
      · rintro ⟨⟨hwithin, -⟩, hfits⟩
        have hordered := forall_mem_concat_iff.mpr ⟨hwithin.ordered, hfits.ordered⟩
        have hreach := reach_add_seed seed hzero hordered
        refine ⟨⟨hordered, hfits.volume_lt, ?_⟩, ?_⟩
        · rw [← hreach]
          exact Nat.add_lt_add_right hfits.reach_lt seed
        · intro hsingle
          rw [volume_concat, hsingle, Nat.mul_one]
          exact hfits.scale_lt
      · rintro ⟨hwithin, hsingle⟩
        obtain ⟨hordered, hc⟩ := forall_mem_concat_iff.mp hwithin.ordered
        have hpos : 0 < volume front := volume_pos hordered
        have hcount : 0 < c.count := Combo.count_pos hc
        have hscale := scale_lt_of_greatest_lt hpos hcount hwithin.greatest_lt hsingle
        have hvolume : volume front ≤ volume (front ++ [c]) := by
          rw [volume_concat]
          exact Nat.le_mul_of_pos_right _ hcount
        have hreach := reach_add_seed seed hzero hwithin.ordered
        have hgreatest := hwithin.greatest_lt
        refine ⟨⟨⟨hordered, ?_, ?_⟩, fun _ => hscale⟩, ⟨hc, hscale, hwithin.volume_lt, ?_⟩⟩
        · exact lt_of_le_of_lt hvolume hwithin.volume_lt
        · exact Nat.lt_add_right seed hscale
        · omega

/-- **Which combos have a layout**, where all ranges start at zero. -/
theorem exists_ofCombos_iff (hzero : ∀ c ∈ combos, c.min = 0) :
    (∃ l, ofCombos combos seed = .ok l) ↔
      WithinWords seed combos ∧ (EndsSingle combos → seed * volume combos < 2 ^ 64) := by
  rw [← forall_fitsAt_iff hzero]
  constructor
  · rintro ⟨l, hl⟩
    exact (ofCombos_eq_ok_iff.mp hl).1
  · intro hall
    exact ⟨_, ofCombos_eq_ok_iff.mpr ⟨hall, rfl⟩⟩

/-! ## The edge of 64 bits -/

/-- **The edge of 64 bits.** The greatest index is a word, but the scale behind all combos is none. -/
def AtEdge (seed : Nat) (combos : List Combo) : Prop :=
  WithinWords seed combos ∧ 2 ^ 64 ≤ seed * volume combos

/-- **At the edge**, combos have a layout exactly if the last of them has more than a single value. -/
theorem AtEdge.exists_ofCombos_iff (hedge : AtEdge seed combos) (hzero : ∀ c ∈ combos, c.min = 0) :
    (∃ l, ofCombos combos seed = .ok l) ↔ ¬ EndsSingle combos := by
  obtain ⟨hwithin, hscale⟩ := hedge
  rw [Layout.exists_ofCombos_iff hzero]
  constructor
  · rintro ⟨-, hsingle⟩ hends
    exact absurd (hsingle hends) (Nat.not_lt.mpr hscale)
  · intro hmore
    exact ⟨hwithin, fun hends => absurd hends hmore⟩

/-- Away from the edge, what combos need in any order is all that they need. -/
theorem exists_ofCombos_iff_of_not_atEdge (hedge : ¬ AtEdge seed combos) (hzero : ∀ c ∈ combos, c.min = 0) :
    (∃ l, ofCombos combos seed = .ok l) ↔ WithinWords seed combos := by
  rw [exists_ofCombos_iff hzero]
  constructor
  · rintro ⟨hwithin, -⟩
    exact hwithin
  · intro hwithin
    exact ⟨hwithin, fun _ => Nat.lt_of_not_le fun hscale => hedge ⟨hwithin, hscale⟩⟩

/-! ## Indices -/

/-- The indices of all assignments. -/
def indices (l : Layout) (combos : List Combo) : Set Nat :=
  {n | ∃ values, Admits combos values ∧ l.indexOf? values = some n}

/-- **The indices of ranges that start at zero** are the first multiples of the seed, as many as there are
    assignments. -/
theorem indices_eq (h : ofCombos combos seed = .ok l) (hzero : ∀ c ∈ combos, c.min = 0) :
    l.indices combos = (seed * ·) '' Set.Iio (volume combos) := by
  have hmin : ∀ c ∈ combos, 0 ≤ c.min.toInt := by
    intro c hc
    rw [hzero c hc, Int32.toInt_zero]
  have hweigh : ∀ {values}, Admits combos values → weigh seed combos values = seed * rank combos values := by
    intro values hvalues
    rw [weigh_eq_lowest_add seed hvalues hmin, weigh_lowest_eq_zero hzero, Nat.zero_add]
  ext n
  constructor
  · rintro ⟨values, hvalues, hn⟩
    obtain ⟨-, -, rfl⟩ := (indexOf?_eq_some_iff h).mp hn
    exact ⟨rank combos values, rank_lt hvalues, (hweigh hvalues).symm⟩
  · rintro ⟨i, hi, rfl⟩
    have hle := (ofCombos_eq h).1
    have hvalues := admits_nth hle i
    refine ⟨nth combos i, hvalues, (indexOf?_eq_some_iff h).mpr ⟨hvalues, hvalues.nonneg hmin, ?_⟩⟩
    show seed * i = weigh seed combos (nth combos i)
    rw [hweigh hvalues, rank_nth hle hi]

/-! ## Two orders -/

theorem volume_perm (h : a.Perm b) : volume a = volume b :=
  (h.map Combo.count).prod_eq

theorem WithinWords.perm (hwithin : WithinWords seed a) (h : a.Perm b) : WithinWords seed b where
  ordered := fun c hc => hwithin.ordered c (h.mem_iff.mpr hc)
  volume_lt := volume_perm h ▸ hwithin.volume_lt
  greatest_lt := volume_perm h ▸ hwithin.greatest_lt

theorem AtEdge.perm (hedge : AtEdge seed a) (h : a.Perm b) : AtEdge seed b :=
  ⟨hedge.1.perm h, volume_perm h ▸ hedge.2⟩

/-- **What the order decides**, where all ranges start at zero. Two orders of the same combos are both laid
    out or both refused, except at the edge of 64 bits if just one of them ends in a combo with a single
    value: there the orders that end in such a combo are refused and all others are laid out. Away from the
    edge both are laid out exactly if the combos have what they need in any order. Two layouts of them have
    the same cardinality, the same greatest index and the same indices. -/
theorem ofCombos_perm (hperm : a.Perm b) (hzero : ∀ c ∈ a, c.min = 0) (seed : Nat) :
    (((∃ l, ofCombos a seed = .ok l) ↔ ∃ l, ofCombos b seed = .ok l) ↔
        (AtEdge seed a → (EndsSingle a ↔ EndsSingle b))) ∧
      (AtEdge seed a →
        ((∃ l, ofCombos a seed = .ok l) ↔ ¬ EndsSingle a) ∧
          ((∃ l, ofCombos b seed = .ok l) ↔ ¬ EndsSingle b)) ∧
      (¬ AtEdge seed a →
        ((∃ l, ofCombos a seed = .ok l) ↔ WithinWords seed a) ∧
          ((∃ l, ofCombos b seed = .ok l) ↔ WithinWords seed a)) ∧
      ∀ l l', ofCombos a seed = .ok l → ofCombos b seed = .ok l' →
        l.cardinality = l'.cardinality ∧ l.maxIndex = l'.maxIndex ∧ l.indices a = l'.indices b := by
  have hzero' : ∀ c ∈ b, c.min = 0 := fun c hc => hzero c (hperm.mem_iff.mpr hc)
  have hwithin : WithinWords seed b ↔ WithinWords seed a :=
    ⟨fun h => h.perm hperm.symm, fun h => h.perm hperm⟩
  have hatEdge : AtEdge seed a →
      ((∃ l, ofCombos a seed = .ok l) ↔ ¬ EndsSingle a) ∧
        ((∃ l, ofCombos b seed = .ok l) ↔ ¬ EndsSingle b) := by
    intro hedge
    exact ⟨hedge.exists_ofCombos_iff hzero, (hedge.perm hperm).exists_ofCombos_iff hzero'⟩
  have hapart : ¬ AtEdge seed a →
      ((∃ l, ofCombos a seed = .ok l) ↔ WithinWords seed a) ∧
        ((∃ l, ofCombos b seed = .ok l) ↔ WithinWords seed a) := by
    intro hedge
    have hedge' : ¬ AtEdge seed b := fun h => hedge (h.perm hperm.symm)
    refine ⟨exists_ofCombos_iff_of_not_atEdge hedge hzero, ?_⟩
    rw [exists_ofCombos_iff_of_not_atEdge hedge' hzero', hwithin]
  refine ⟨?_, hatEdge, hapart, ?_⟩
  · by_cases hedge : AtEdge seed a
    · obtain ⟨ha, hb⟩ := hatEdge hedge
      rw [ha, hb, not_iff_not]
      exact ⟨fun h _ => h, fun h => h hedge⟩
    · obtain ⟨ha, hb⟩ := hapart hedge
      rw [ha, hb]
      exact ⟨fun _ h => absurd h hedge, fun _ => Iff.rfl⟩
  · intro l l' hl hl'
    have hvolume : volume a = volume b := volume_perm hperm
    have hcard : l.cardinality = l'.cardinality := by
      rw [(ofCombos_eq hl).2, (ofCombos_eq hl').2]
      exact hvolume
    refine ⟨hcard, ?_, ?_⟩
    · have hgreatest := maxIndex_add_seed hl hzero
      have hgreatest' := maxIndex_add_seed hl' hzero'
      rw [hcard, ← hgreatest'] at hgreatest
      exact Nat.add_right_cancel hgreatest
    · rw [indices_eq hl hzero, indices_eq hl' hzero', hvolume]

/-! ### Orders at the edge

Four assignments fill 64 bits with a seed of 2 ^ 62, and two with a seed of 2 ^ 63. -/

namespace AtEdge

def single : Combo where
  name := "A"
  min := 0
  max := 0

def double (name : String) : Combo where
  name := name
  min := 0
  max := 1

def inFront : List Combo :=
  [single, double "B", double "C"]

def inMiddle : List Combo :=
  [double "C", single, double "B"]

def atEnd : List Combo :=
  [double "B", double "C", single]

theorem atEdge_inFront : AtEdge (2 ^ 62) inFront :=
  ⟨⟨by decide, by decide, by decide⟩, by decide⟩

theorem not_endsSingle_inMiddle : ¬ EndsSingle inMiddle := by
  rintro ⟨c, hc, hcount⟩
  obtain rfl : double "B" = c := Option.some.inj hc
  exact absurd hcount (by decide)

end AtEdge

/-- The combo with a single value may stand in front or in the middle, but not at the end. -/
theorem ofCombos_perm_single_in_middle :
    AtEdge (2 ^ 62) AtEdge.inFront ∧
      (∃ l l', ofCombos AtEdge.inFront (2 ^ 62) = .ok l ∧ ofCombos AtEdge.inMiddle (2 ^ 62) = .ok l' ∧
        l.cardinality = l'.cardinality ∧ l.maxIndex = l'.maxIndex ∧
        l.indices AtEdge.inFront = l'.indices AtEdge.inMiddle) ∧
      ¬ ∃ l, ofCombos AtEdge.atEnd (2 ^ 62) = .ok l := by
  have hmiddle : AtEdge.inFront.Perm AtEdge.inMiddle := by decide
  have hend : AtEdge.inFront.Perm AtEdge.atEnd := by decide
  obtain ⟨-, hatEdge, -, hsame⟩ := ofCombos_perm hmiddle (by decide) (2 ^ 62)
  obtain ⟨-, hatEdge', -, -⟩ := ofCombos_perm hend (by decide) (2 ^ 62)
  obtain ⟨l', hl'⟩ := (hatEdge AtEdge.atEdge_inFront).2.mpr AtEdge.not_endsSingle_inMiddle
  refine ⟨AtEdge.atEdge_inFront, ⟨_, l', rfl, hl', hsame _ l' rfl hl'⟩, ?_⟩
  rw [(hatEdge' AtEdge.atEdge_inFront).2, not_not]
  exact ⟨AtEdge.single, rfl, by decide⟩

/-- **An order can be refused** where another one is laid out. -/
theorem not_forall_ofCombos_perm :
    ¬ ∀ (a b : List Combo) (seed : Nat), 1 ≤ seed → seed < 2 ^ 64 → a.Perm b → (∀ c ∈ a, c.min = 0) →
      ((∃ l, ofCombos a seed = .ok l) ↔ ∃ l, ofCombos b seed = .ok l) := by
  intro h
  have hboth := h [AtEdge.single, AtEdge.double "B"] [AtEdge.double "B", AtEdge.single] (2 ^ 63)
    (by decide) (by decide) (by decide) (by decide)
  obtain ⟨l, hl⟩ := hboth.mp ⟨_, rfl⟩
  -- Behind the combo with two values the scale is 2 ^ 64.
  cases hl

end ShaderCombos.Layout
