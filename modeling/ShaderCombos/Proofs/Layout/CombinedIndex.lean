import Mathlib
import ShaderCombos.Proofs.Layout.Placement

/-!
# `Proofs.Layout.CombinedIndex` — static and dynamic indices number the combinations

The static layout starts at the cardinality of the dynamic one. Its scales are therefore those which the
static combos would have if they stood behind the dynamic combos in one list (`place_append`), and the
sum of the two indices is one mixed-radix numeral over that list. All facts about the pair of layouts are
facts about a single list.

Values enter an index as they are, with no minimum taken off. That shifts the whole numbering by the
index of the least assignment (`weigh_eq_lowest_add`) and changes nothing else.

## Contents
- **Numbering.** `rank` counts assignments from the least one on, `nth` is its inverse.
- **One list.** `weigh_bijOn`: the assignments of a list and an interval of indices.
- **Digits.** `digits_place`: with all minima zero, the fields read the assignment back.
- **Two layouts.** `combinedIndex?` and `combinedIndex_bijOn`.
-/

namespace ShaderCombos

open Layout

variable {combos : List Combo}

/-! ## Numbering the assignments of a list -/

/-- The number of an assignment when they are counted from the least one on, first combo fastest. -/
def rank : List Combo → List Int32 → Nat
  | c :: combos, v :: values => (v.toInt - c.min.toInt).toNat + c.count * rank combos values
  | _, _ => 0

/-- The assignment of a number. -/
def nth : List Combo → Nat → List Int32
  | [], _ => []
  | c :: combos, i => Int32.ofInt (c.min.toInt + (i % c.count : Nat)) :: nth combos (i / c.count)

theorem Admits.length_eq {values : List Int32} (h : Admits combos values) :
    combos.length = values.length :=
  List.Forall₂.length_eq h

theorem Admits.append {a b : List Combo} {u v : List Int32} (hu : Admits a u) (hv : Admits b v) :
    Admits (a ++ b) (u ++ v) :=
  List.rel_append hu hv

/-- An assignment of a list in two parts consists of one for each part. -/
theorem Admits.exists_append {a b : List Combo} {values : List Int32} (h : Admits (a ++ b) values) :
    ∃ u v, values = u ++ v ∧ Admits a u ∧ Admits b v := by
  induction a generalizing values with
  | nil => exact ⟨[], values, rfl, .nil, h⟩
  | cons c a ih =>
      cases h with
      | cons hx hrest =>
          obtain ⟨u, v, rfl, hu, hv⟩ := ih hrest
          exact ⟨_ :: u, v, rfl, .cons hx hu, hv⟩

theorem rank_lt {values : List Int32} (h : Admits combos values) :
    rank combos values < volume combos := by
  induction h with
  | nil => simp [rank, volume]
  | @cons c v combos values hv _ ih =>
      have hdigit : (v.toInt - c.min.toInt).toNat < c.count := by
        unfold Combo.count
        omega
      have hrest := Nat.mul_le_mul_left c.count (Nat.succ_le_of_lt ih)
      rw [Nat.mul_succ] at hrest
      rw [rank, volume_cons]
      omega

theorem nth_rank {values : List Int32} (h : Admits combos values) :
    nth combos (rank combos values) = values := by
  induction h with
  | nil => rfl
  | @cons c v combos values hv _ ih =>
      have hdigit : (v.toInt - c.min.toInt).toNat < c.count := by
        unfold Combo.count
        omega
      have hpos : 0 < c.count := by omega
      have hvalue : c.min.toInt + ((v.toInt - c.min.toInt).toNat : Int) = v.toInt := by omega
      rw [rank, nth, Nat.add_mul_mod_self_left, Nat.mod_eq_of_lt hdigit, hvalue, Int32.ofInt_toInt,
        Nat.add_mul_div_left _ _ hpos, Nat.div_eq_of_lt hdigit, Nat.zero_add, ih]

/-- The value that a digit stands for lies in the range, so nothing is lost in 32 bits. -/
theorem toInt_nthValue {c : Combo} (h : c.min.toInt ≤ c.max.toInt) (i : Nat) :
    (Int32.ofInt (c.min.toInt + (i % c.count : Nat))).toInt = c.min.toInt + (i % c.count : Nat) := by
  have hdigit : i % c.count < c.count := Nat.mod_lt _ (Combo.count_pos h)
  have hlow := c.min.le_toInt
  have hhigh := c.max.toInt_lt
  apply Int32.toInt_ofInt_of_le
  · omega
  · unfold Combo.count at hdigit ⊢
    omega

theorem admits_nth (h : ∀ c ∈ combos, c.min.toInt ≤ c.max.toInt) (i : Nat) :
    Admits combos (nth combos i) := by
  induction combos generalizing i with
  | nil => exact .nil
  | cons c combos ih =>
      have hc : c.min.toInt ≤ c.max.toInt := h c (by simp)
      have hdigit : i % c.count < c.count := Nat.mod_lt _ (Combo.count_pos hc)
      refine .cons ?_ (ih (fun d hd => h d (by simp [hd])) _)
      rw [toInt_nthValue hc]
      unfold Combo.count at hdigit ⊢
      omega

theorem rank_nth (h : ∀ c ∈ combos, c.min.toInt ≤ c.max.toInt) {i : Nat} (hi : i < volume combos) :
    rank combos (nth combos i) = i := by
  induction combos generalizing i with
  | nil =>
      have : i = 0 := by simpa [volume] using hi
      simp [rank, this]
  | cons c combos ih =>
      have hc : c.min.toInt ≤ c.max.toInt := h c (by simp)
      have hrest : i / c.count < volume combos := by
        rw [volume_cons] at hi
        exact Nat.div_lt_of_lt_mul hi
      have hdigit : (c.min.toInt + (i % c.count : Nat) - c.min.toInt).toNat = i % c.count := by omega
      rw [nth, rank, toInt_nthValue hc, hdigit, ih (fun d hd => h d (by simp [hd])) hrest,
        Nat.mod_add_div]

/-! ## The indices of one list -/

/-- **The minima shift the numbering and do nothing else.** The index of an assignment is that of the
    least assignment plus the scaled number of the assignment. -/
theorem weigh_eq_lowest_add {values : List Int32} (scale : Nat) (h : Admits combos values)
    (hmin : ∀ c ∈ combos, 0 ≤ c.min.toInt) :
    weigh scale combos values = weigh scale combos (lowest combos) + scale * rank combos values := by
  induction h generalizing scale with
  | nil => simp [weigh, rank]
  | @cons c v combos values hv _ ih =>
      have hc : 0 ≤ c.min.toInt := hmin c (by simp)
      have hrest := ih (scale * c.count) fun d hd => hmin d (by simp [hd])
      -- A value is the least value and a digit.
      have hsplit : v.toInt.toNat = c.min.toInt.toNat + (v.toInt - c.min.toInt).toNat := by omega
      rw [lowest] at hrest ⊢
      rw [List.map_cons, weigh, weigh, rank, hrest, hsplit]
      ring

/-- **Assignments are numbered without gap or repetition.** -/
theorem weigh_bijOn (h : ∀ c ∈ combos, c.min.toInt ≤ c.max.toInt)
    (hmin : ∀ c ∈ combos, 0 ≤ c.min.toInt) :
    Set.BijOn (weigh 1 combos) {values | Admits combos values}
      (Set.Icc (weigh 1 combos (lowest combos))
        (weigh 1 combos (lowest combos) + volume combos - 1)) := by
  have hweigh : ∀ {values}, Admits combos values →
      weigh 1 combos values = weigh 1 combos (lowest combos) + rank combos values := by
    intro values hv
    rw [weigh_eq_lowest_add 1 hv hmin, Nat.one_mul]
  refine ⟨?_, ?_, ?_⟩
  · -- Ranks stay below the volume, so indices stay in the interval.
    intro values hv
    have := rank_lt hv
    rw [Set.mem_Icc, hweigh hv]
    omega
  · -- Assignments of one index have one rank, and a rank determines its assignment.
    intro values hv other ho heq
    have hrank : rank combos values = rank combos other := by
      rw [hweigh hv, hweigh ho] at heq
      omega
    rw [← nth_rank hv, hrank, nth_rank ho]
  · -- The distance from the least index is the rank of an assignment.
    intro i hi
    have hpos := volume_pos h
    have hlt : i - weigh 1 combos (lowest combos) < volume combos := by
      rw [Set.mem_Icc] at hi
      omega
    refine ⟨nth combos (i - weigh 1 combos (lowest combos)), admits_nth h _, ?_⟩
    rw [hweigh (admits_nth h _), rank_nth h hlt]
    rw [Set.mem_Icc] at hi
    omega

/-! ## Reading an index back -/

theorem weigh_lowest_eq_zero (hzero : ∀ c ∈ combos, c.min = 0) (scale : Nat) :
    weigh scale combos (lowest combos) = 0 := by
  induction combos generalizing scale with
  | nil => rfl
  | cons c combos ih =>
      have hc : c.min = 0 := hzero c (by simp)
      have hrest := ih (fun d hd => hzero d (by simp [hd])) (scale * c.count)
      rw [lowest] at hrest ⊢
      rw [List.map_cons, weigh, hrest, hc]
      simp

/-- A field takes its digit out of an index by a division and a remainder; over a whole list that is the
    numbering read backwards, as long as every range starts at zero. -/
theorem digits_place (hzero : ∀ c ∈ combos, c.min = 0) (scale i : Nat) :
    (place scale combos).map (Field.digit · i) = nth combos (i / scale) := by
  induction combos generalizing scale with
  | nil => rfl
  | cons c combos ih =>
      have hc : c.min = 0 := hzero c (by simp)
      rw [place, List.map_cons, nth, ih (fun d hd => hzero d (by simp [hd])), Nat.div_div_eq_div_mul,
        Field.digit, hc, Int32.toInt_zero, Int.zero_add, Int32.ofInt_eq_ofNat]

theorem scale_pos_of_mem_place {scale : Nat} (hscale : 0 < scale)
    (h : ∀ c ∈ combos, c.min.toInt ≤ c.max.toInt) : ∀ f ∈ place scale combos, 0 < f.scale := by
  induction combos generalizing scale with
  | nil => simp [place]
  | cons c combos ih =>
      intro f hf
      rcases List.mem_cons.mp hf with rfl | hf
      · exact hscale
      · exact ih (Nat.mul_pos hscale (Combo.count_pos (h c (by simp))))
          (fun d hd => h d (by simp [hd])) f hf

/-- No scale is zero, so decoding answers, and it answers with the digits. -/
theorem decode?_place {scale : Nat} {l : Layout} (hscale : 0 < scale)
    (h : ∀ c ∈ combos, c.min.toInt ≤ c.max.toInt) (hl : l.fields = place scale combos) (i : Nat) :
    l.decode? i = some ((place scale combos).map (Field.digit · i)) := by
  have hnone : ¬ l.fields.any (·.scale == 0) = true := by
    rw [List.any_eq_true]
    rintro ⟨f, hf, hzero⟩
    have := scale_pos_of_mem_place hscale h f (hl ▸ hf)
    simp only [beq_iff_eq] at hzero
    omega
  rw [decode?, if_neg hnone, hl]

/-! ## A static and a dynamic layout together -/

/-- The index of a combination: the static index plus the dynamic one. -/
def combinedIndex? (stat dyn : Layout) (p : List Int32 × List Int32) : Option Nat := do
  let i ← stat.indexOf? p.1
  let j ← dyn.indexOf? p.2
  some (i + j)

variable {static dynamic : List Combo} {stat dyn : Layout}

/-- **Two layouts are one.** The index of a combination is the index over the dynamic and the static
    combos in one list. -/
theorem combinedIndex?_eq (hdyn : ofCombos dynamic 1 = .ok dyn)
    (hstat : ofCombos static dyn.cardinality = .ok stat)
    (hs : ∀ c ∈ static, 0 ≤ c.min.toInt) (hd : ∀ c ∈ dynamic, 0 ≤ c.min.toInt)
    {s d : List Int32} (has : Admits static s) (had : Admits dynamic d) :
    combinedIndex? stat dyn (s, d) = some (weigh 1 (dynamic ++ static) (d ++ s)) := by
  have hi : stat.indexOf? s = some (weigh dyn.cardinality static s) :=
    (indexOf?_eq_some_iff hstat).mpr ⟨has, has.nonneg hs, rfl⟩
  have hj : dyn.indexOf? d = some (weigh 1 dynamic d) :=
    (indexOf?_eq_some_iff hdyn).mpr ⟨had, had.nonneg hd, rfl⟩
  have hcard : dyn.cardinality = 1 * volume dynamic := by
    rw [(ofCombos_eq hdyn).2, Nat.one_mul]
  rw [combinedIndex?, hi, hj, weigh_append 1 had.length_eq, ← hcard, Nat.add_comm]
  rfl

/-- A pair of assignments is one assignment of the dynamic and the static combos together. -/
theorem append_bijOn (static dynamic : List Combo) :
    Set.BijOn (fun p : List Int32 × List Int32 => p.2 ++ p.1)
      {p | Admits static p.1 ∧ Admits dynamic p.2} {values | Admits (dynamic ++ static) values} := by
  refine ⟨fun p hp => hp.2.append hp.1, ?_, ?_⟩
  · rintro ⟨s, d⟩ ⟨-, hd⟩ ⟨s', d'⟩ ⟨-, hd'⟩ heq
    have hlen : d.length = d'.length := hd.length_eq.symm.trans hd'.length_eq
    obtain ⟨rfl, rfl⟩ := List.append_inj heq hlen
    rfl
  · intro values hv
    obtain ⟨d, s, rfl, hd, hs⟩ := Admits.exists_append hv
    exact ⟨(s, d), ⟨hs, hd⟩, rfl⟩

/-- **An index of a combination decodes in both layouts.** Neither layout is disturbed by the part that
    the other one adds. -/
theorem decode?_combinedIndex (hdyn : ofCombos dynamic 1 = .ok dyn)
    (hstat : ofCombos static dyn.cardinality = .ok stat) (hzero : ∀ c ∈ dynamic ++ static, c.min = 0)
    {s d : List Int32} (has : Admits static s) (had : Admits dynamic d) :
    stat.decode? (weigh 1 (dynamic ++ static) (d ++ s)) = some s ∧
      dyn.decode? (weigh 1 (dynamic ++ static) (d ++ s)) = some d := by
  have hadmits : Admits (dynamic ++ static) (d ++ s) := had.append has
  have hmin : ∀ c ∈ dynamic ++ static, 0 ≤ c.min.toInt := by
    intro c hc
    rw [hzero c hc, Int32.toInt_zero]
  have hrank : weigh 1 (dynamic ++ static) (d ++ s) = rank (dynamic ++ static) (d ++ s) := by
    rw [weigh_eq_lowest_add 1 hadmits hmin, weigh_lowest_eq_zero hzero, Nat.zero_add, Nat.one_mul]
  have hcard : dyn.cardinality = 1 * volume dynamic := by
    rw [(ofCombos_eq hdyn).2, Nat.one_mul]
  -- All digits are read off at once; those of the dynamic fields come first.
  have hdigits : (place 1 (dynamic ++ static)).map
      (Field.digit · (weigh 1 (dynamic ++ static) (d ++ s))) = d ++ s := by
    rw [digits_place hzero, Nat.div_one, hrank, nth_rank hadmits]
  rw [place_append, List.map_append, ← hcard] at hdigits
  have hlen : ((place 1 dynamic).map
      (Field.digit · (weigh 1 (dynamic ++ static) (d ++ s)))).length = d.length := by
    rw [List.length_map, length_place, had.length_eq]
  obtain ⟨hd, hs⟩ := List.append_inj hdigits hlen
  have hpos : 0 < dyn.cardinality := by
    rw [hcard, Nat.one_mul]
    exact volume_pos (ofCombos_eq hdyn).1
  constructor
  · rw [decode?_place hpos (ofCombos_eq hstat).1 (by rw [(ofCombos_eq hstat).2]), hs]
  · rw [decode?_place Nat.one_pos (ofCombos_eq hdyn).1 (by rw [(ofCombos_eq hdyn).2]), hd]

/-- **Static and dynamic indices number the combinations.** Where both layouts exist and no range starts
    below zero, adding the two indices is a bijection from the pairs of assignments onto an interval, as
    long as there are combinations, that begins at the index of the least assignment. If all ranges start
    at zero the interval begins at zero, and either layout reads its assignment out of the sum. -/
theorem combinedIndex_bijOn (hs : ∀ c ∈ static, 0 ≤ c.min.toInt)
    (hd : ∀ c ∈ dynamic, 0 ≤ c.min.toInt) (hdyn : ofCombos dynamic 1 = .ok dyn)
    (hstat : ofCombos static dyn.cardinality = .ok stat) :
    ∃ o, combinedIndex? stat dyn (lowest static, lowest dynamic) = some o ∧
      Set.BijOn (combinedIndex? stat dyn) {p | Admits static p.1 ∧ Admits dynamic p.2}
        (some '' Set.Icc o (o + stat.cardinality * dyn.cardinality - 1)) ∧
      ((∀ c ∈ static ++ dynamic, c.min = 0) → o = 0 ∧ ∀ s d i, Admits static s → Admits dynamic d →
        combinedIndex? stat dyn (s, d) = some i →
          stat.decode? i = some s ∧ dyn.decode? i = some d) := by
  have hsle := (ofCombos_eq hstat).1
  have hdle := (ofCombos_eq hdyn).1
  have hle : ∀ c ∈ dynamic ++ static, c.min.toInt ≤ c.max.toInt := by
    intro c hc
    exact (List.mem_append.mp hc).elim (hdle c) (hsle c)
  have hmin : ∀ c ∈ dynamic ++ static, 0 ≤ c.min.toInt := by
    intro c hc
    exact (List.mem_append.mp hc).elim (hd c) (hs c)
  have hvolume : stat.cardinality * dyn.cardinality = volume (dynamic ++ static) := by
    rw [(ofCombos_eq hstat).2, (ofCombos_eq hdyn).2, volume_append, Nat.mul_comm]
  have hlowest : lowest (dynamic ++ static) = lowest dynamic ++ lowest static := List.map_append
  refine ⟨weigh 1 (dynamic ++ static) (lowest (dynamic ++ static)), ?_, ?_, ?_⟩
  · rw [hlowest]
    exact combinedIndex?_eq hdyn hstat hs hd (admits_lowest hsle) (admits_lowest hdle)
  · -- Pairs of assignments, assignments of the joined list, and indices correspond one to one.
    have hsome := (Option.some_injective Nat).injOn.bijOn_image
      (s := Set.Icc (weigh 1 (dynamic ++ static) (lowest (dynamic ++ static)))
        (weigh 1 (dynamic ++ static) (lowest (dynamic ++ static)) + volume (dynamic ++ static) - 1))
    rw [hvolume]
    refine ((hsome.comp (weigh_bijOn hle hmin)).comp (append_bijOn static dynamic)).congr ?_
    rintro ⟨s, d⟩ ⟨has, had⟩
    exact (combinedIndex?_eq hdyn hstat hs hd has had).symm
  · intro hzero
    have hzero' : ∀ c ∈ dynamic ++ static, c.min = 0 := by
      intro c hc
      exact hzero c (List.mem_append.mpr (List.mem_append.mp hc).symm)
    refine ⟨weigh_lowest_eq_zero hzero' 1, ?_⟩
    intro s d i has had hi
    rw [combinedIndex?_eq hdyn hstat hs hd has had, Option.some.injEq] at hi
    rw [← hi]
    exact decode?_combinedIndex hdyn hstat hzero' has had

/-- Three static values beside two dynamic ones and a combo with a single value. -/
theorem combinedIndex_bijOn_three_by_two :
    ∃ stat dyn : Layout,
      ofCombos [⟨"B", 0, 1, .mustBeSet⟩, ⟨"C", 0, 0, .mustBeSet⟩] 1 = .ok dyn ∧
      ofCombos [⟨"A", 0, 2, .mustBeSet⟩] dyn.cardinality = .ok stat ∧
      Set.BijOn (combinedIndex? stat dyn)
        {p | Admits [⟨"A", 0, 2, .mustBeSet⟩] p.1 ∧
          Admits [⟨"B", 0, 1, .mustBeSet⟩, ⟨"C", 0, 0, .mustBeSet⟩] p.2}
        (some '' Set.Icc 0 5) ∧
      stat.decode? 3 = some [1] ∧ dyn.decode? 3 = some [1, 0] := by
  refine ⟨⟨[⟨"A", 0, 2, 3, 2⟩], 3, 4⟩, ⟨[⟨"B", 0, 1, 2, 1⟩, ⟨"C", 0, 0, 1, 2⟩], 2, 1⟩, rfl, rfl, ?_⟩
  obtain ⟨o, -, hbij, hdecode⟩ := @combinedIndex_bijOn [⟨"A", 0, 2, .mustBeSet⟩]
    [⟨"B", 0, 1, .mustBeSet⟩, ⟨"C", 0, 0, .mustBeSet⟩] ⟨[⟨"A", 0, 2, 3, 2⟩], 3, 4⟩
    ⟨[⟨"B", 0, 1, 2, 1⟩, ⟨"C", 0, 0, 1, 2⟩], 2, 1⟩ (by decide) (by decide) rfl rfl
  obtain ⟨rfl, hread⟩ := hdecode (by decide)
  refine ⟨hbij, hread [1] [1, 0] 3 ?_ ?_ (by decide)⟩
  · exact .cons (by decide) .nil
  · exact .cons (by decide) (.cons (by decide) .nil)

end ShaderCombos
