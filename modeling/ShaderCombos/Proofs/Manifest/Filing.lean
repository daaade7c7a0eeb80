import Mathlib
import ShaderCombos.Proofs.Manifest.RoundTrip
import ShaderCombos.Proofs.Text.ByteOrder

/-!
# `Proofs.Manifest.Filing` — what a manifest holds after units have been filed

Units are filed one after another under their names. The last unit of a name is kept (`get?_foldl_insert`), and
a manifest is what is found under its names (`ext_get?`). So the manifest says nothing of the order of filing or
of the units that were replaced. Nor does it say anything of initial values, as the compiler has no use for them
(`SameWork.ofUnit_eq`). What is left is `foldl_insert_of_last`: manifests are the same, to the letter, if under each
name they were last given the same work.

## Contents
- **Filing.** `get?_foldl_insert`, `size_eq_card`: what a manifest holds after some units.
- **Filing in any order.** `ext_get?`, `foldl_insert_perm`.
- **Order of names.** `pairwise_bytes`, `ofText?_toJson`.
- **The work of a unit.** `SameWork`, `SameWork.ofUnit_eq`.
- **The last unit of a name.** `IsLast`, `find?_reverse_eq_some_iff`, `foldl_insert_of_last`.
-/

namespace ShaderCombos

namespace WorkManifest

/-! ## Filing units -/

theorem get?_insert_self (m : WorkManifest) (u : ShaderUnit) :
    (m.insert u).get? u.name = some (.ofUnit u) :=
  get?_put_self m u.name (.ofUnit u)

theorem get?_insert_of_ne {u : ShaderUnit} {name : String} (h : name ≠ u.name) (m : WorkManifest) :
    (m.insert u).get? name = m.get? name :=
  get?_put_of_ne h m (.ofUnit u)

/-- **The last unit of a name is kept.** After some units have been filed, a name stands for the last of
    them that bears it, and for what it stood for before if none does. -/
theorem get?_foldl_insert (units : List ShaderUnit) (m : WorkManifest) (name : String) :
    (units.foldl insert m).get? name =
      ((units.reverse.find? (·.name == name)).map WorkEntry.ofUnit).or (m.get? name) := by
  -- From the end of the list, because the unit that is filed last decides.
  induction units using List.reverseRecOn with
  | nil => rfl
  | append_singleton units u ih =>
      rw [List.foldl_concat, List.reverse_concat, List.find?_cons]
      by_cases hname : u.name = name
      · subst hname
        rw [get?_insert_self, beq_self_eq_true]
        rfl
      · rw [get?_insert_of_ne (Ne.symm hname), ih, beq_eq_false_iff_ne.mpr hname]

/-- The names of a manifest. -/
def names (m : WorkManifest) : List String :=
  m.entries.map Prod.fst

theorem nodup_names (m : WorkManifest) : m.names.Nodup := by
  unfold names List.Nodup
  rw [List.pairwise_map]
  exact m.ascending.imp fun hlt => ne_of_lt hlt

theorem mem_names_iff {m : WorkManifest} {name : String} :
    name ∈ m.names ↔ (m.get? name).isSome := by
  unfold names get?
  rw [List.mem_map, List.lookup_isSome_iff]
  constructor
  · rintro ⟨e, he, rfl⟩
    exact ⟨e, he, beq_self_eq_true _⟩
  · rintro ⟨e, he, heq⟩
    exact ⟨e, he, (beq_iff_eq.mp heq).symm⟩

/-- A name has a last unit exactly if some unit bears it. -/
theorem isSome_find?_reverse_iff {units : List ShaderUnit} {name : String} :
    (units.reverse.find? (·.name == name)).isSome ↔ name ∈ units.map ShaderUnit.name := by
  rw [List.find?_isSome, List.mem_map]
  constructor
  · rintro ⟨u, hu, heq⟩
    exact ⟨u, List.mem_reverse.mp hu, beq_iff_eq.mp heq⟩
  · rintro ⟨u, hu, heq⟩
    exact ⟨u, List.mem_reverse.mpr hu, beq_iff_eq.mpr heq⟩

/-- **There is an entry for each name** that some unit bears. -/
theorem mem_names_foldl_insert_iff {units : List ShaderUnit} {name : String} :
    name ∈ (units.foldl insert empty).names ↔ name ∈ units.map ShaderUnit.name := by
  rw [mem_names_iff, get?_foldl_insert, get?_empty, Option.or_none, Option.isSome_map,
    isSome_find?_reverse_iff]

/-- There are as many entries as names. -/
theorem size_eq_card (units : List ShaderUnit) :
    (units.foldl insert empty).size = (units.map ShaderUnit.name).toFinset.card := by
  have hnames : (units.foldl insert empty).names.toFinset
      = (units.map ShaderUnit.name).toFinset := by
    ext name
    rw [List.mem_toFinset, List.mem_toFinset, mem_names_foldl_insert_iff]
  rw [← hnames, List.toFinset_card_of_nodup (nodup_names _)]
  unfold size names
  rw [List.length_map]

/-! ## Filing in any order -/

section

variable {m m' : WorkManifest} {u u' : ShaderUnit}

theorem mem_entries_iff {name : String} {entry : WorkEntry} :
    (name, entry) ∈ m.entries ↔ m.get? name = some entry := by
  unfold get?
  have hascending := m.ascending
  generalize m.entries = entries at hascending ⊢
  induction entries with
  | nil => simp
  | cons head rest ih =>
      obtain ⟨other, old⟩ := head
      obtain ⟨hhead, hrest⟩ := List.pairwise_cons.mp hascending
      rw [List.mem_cons, List.lookup_cons, Prod.mk.injEq]
      by_cases hname : name = other
      · subst hname
        have hnot : (name, entry) ∉ rest := fun hmem => absurd (hhead _ hmem) (lt_irrefl _)
        simp [hnot, eq_comm]
      · rw [beq_eq_false_iff_ne.mpr hname]
        simp [hname, ih hrest]

/-- **A manifest is what is found under its names.** -/
theorem ext_get? (h : ∀ name, m.get? name = m'.get? name) : m = m' := by
  have hirrefl : ∀ l : List (String × WorkEntry), (l.Pairwise fun a b => a.1 < b.1) → l.Nodup :=
    fun l hl => hl.imp fun hlt heq => absurd (heq ▸ hlt) (lt_irrefl _)
  have hperm : m.entries.Perm m'.entries := by
    rw [List.perm_ext_iff_of_nodup (hirrefl _ m.ascending) (hirrefl _ m'.ascending)]
    rintro ⟨name, entry⟩
    rw [mem_entries_iff, mem_entries_iff, h]
  have hentries : m.entries = m'.entries :=
    hperm.eq_of_pairwise (fun a b _ _ hab hba => absurd (hab.trans hba) (lt_irrefl _))
      m.ascending m'.ascending
  cases m
  cases m'
  cases hentries
  rfl

/-- Units of different names can be filed in either order. -/
theorem insert_comm (h : u.name ≠ u'.name) (m : WorkManifest) :
    (m.insert u).insert u' = (m.insert u').insert u := by
  refine ext_get? fun name => ?_
  by_cases hu : name = u.name
  · subst hu
    rw [get?_insert_of_ne h, get?_insert_self, get?_insert_self]
  · by_cases hu' : name = u'.name
    · subst hu'
      rw [get?_insert_self, get?_insert_of_ne hu, get?_insert_self]
    · rw [get?_insert_of_ne hu', get?_insert_of_ne hu, get?_insert_of_ne hu, get?_insert_of_ne hu']

/-- **Units of different names can be filed in any order.** -/
theorem foldl_insert_perm {units units' : List ShaderUnit} (hperm : units.Perm units')
    (hnames : (units.map ShaderUnit.name).Nodup) (m : WorkManifest) :
    units.foldl insert m = units'.foldl insert m := by
  refine hperm.foldl_eq' (fun u hu u' hu' m => ?_) m
  by_cases hname : u.name = u'.name
  · rw [List.inj_on_of_nodup_map hnames hu hu' hname]
  · exact insert_comm hname m

end

/-! ## Order of names -/

/-- **The names of a manifest ascend byte by byte.** -/
theorem pairwise_bytes (m : WorkManifest) :
    m.entries.Pairwise fun a b => Text.bytes a.1 < Text.bytes b.1 :=
  m.ascending.imp Text.bytes_lt_bytes

/-- The text of a manifest is an object with a member for each entry, in the order of the entries. -/
theorem ofText?_toJson (m : WorkManifest) :
    Json.ofText? m.toJson = some (.record (m.entries.map fun e => (e.1, entryJson e.2))) :=
  Json.ofText?_pretty (plain_json m)

end WorkManifest

/-! ## The work of a unit -/

/-- Two units ask for the same work: they agree on all but the initial values of their combos, their versions
    and their names. -/
structure ShaderUnit.SameWork (u v : ShaderUnit) : Prop where
  stage : u.stage = v.stage
  model : u.model = v.model
  static : u.static.map (fun c => (c.name, c.min, c.max)) = v.static.map fun c => (c.name, c.min, c.max)
  dynamic : u.dynamic.map (fun c => (c.name, c.min, c.max)) = v.dynamic.map fun c => (c.name, c.min, c.max)
  skipRules : u.skipRules = v.skipRules
  centroid : u.centroid = v.centroid
  files : u.files = v.files

/-- A range is no more than name and bounds. -/
theorem Combo.map_range_eq {combos combos' : List Combo}
    (h : combos.map (fun c => (c.name, c.min, c.max)) = combos'.map fun c => (c.name, c.min, c.max)) :
    combos.map Combo.range = combos'.map Combo.range := by
  have hranges := congrArg (List.map fun bounds => ComboRange.mk bounds.1 bounds.2.1 bounds.2.2) h
  rw [List.map_map, List.map_map] at hranges
  exact hranges

/-- **Initial values and versions do not get into the work.** -/
theorem ShaderUnit.SameWork.ofUnit_eq {u v : ShaderUnit} (h : u.SameWork v) :
    WorkEntry.ofUnit u = WorkEntry.ofUnit v := by
  unfold WorkEntry.ofUnit ShaderUnit.target
  rw [Combo.map_range_eq h.static, Combo.map_range_eq h.dynamic, h.files, h.centroid, h.stage, h.model,
    h.skipRules]

namespace WorkManifest

/-! ## The last unit of a name -/

/-- A unit is the last of its name among some units. -/
def IsLast (units : List ShaderUnit) (u : ShaderUnit) : Prop :=
  ∃ before after, units = before ++ u :: after ∧ ∀ later ∈ after, later.name ≠ u.name

theorem IsLast.mem {units : List ShaderUnit} {u : ShaderUnit} (h : IsLast units u) : u ∈ units := by
  obtain ⟨before, after, rfl, -⟩ := h
  simp

/-- The last unit of a name comes first from behind. -/
theorem find?_reverse_eq_some_iff {units : List ShaderUnit} {u : ShaderUnit} {name : String} :
    units.reverse.find? (·.name == name) = some u ↔ u.name = name ∧ IsLast units u := by
  rw [List.find?_eq_some_iff_append, beq_iff_eq]
  refine and_congr_right ?_
  rintro rfl
  constructor
  · rintro ⟨after, before, hsplit, hother⟩
    refine ⟨before.reverse, after.reverse, ?_, fun later hlater => ?_⟩
    · rw [← List.reverse_reverse units, hsplit]
      simp
    · simpa using hother later (List.mem_reverse.mp hlater)
  · rintro ⟨before, after, rfl, hother⟩
    refine ⟨after.reverse, before.reverse, by simp, fun later hlater => ?_⟩
    simpa using hother later (List.mem_reverse.mp hlater)

instance (units : List ShaderUnit) (u : ShaderUnit) : Decidable (IsLast units u) :=
  decidable_of_iff (units.reverse.find? (·.name == u.name) = some u)
    (find?_reverse_eq_some_iff.trans (and_iff_right rfl))

/-- **A manifest depends on the last unit of each name alone, and on no initial values.** Two sequences of units
    of the same names make the same manifest, with the same text, if the last units of each name ask for the
    same work. The text has a member for each name, in the strict order of the bytes of the names. -/
theorem foldl_insert_of_last {units others : List ShaderUnit}
    (hnames : ∀ name, name ∈ units.map ShaderUnit.name ↔ name ∈ others.map ShaderUnit.name)
    (hlast : ∀ u v, IsLast units u → IsLast others v → u.name = v.name → u.SameWork v) :
    units.foldl insert empty = others.foldl insert empty ∧
      (units.foldl insert empty).toJson = (others.foldl insert empty).toJson ∧
        ∃ members, Json.ofText? (units.foldl insert empty).toJson = some (.record members) ∧
          (∀ name, name ∈ members.map Prod.fst ↔ name ∈ units.map ShaderUnit.name) ∧
            members.Pairwise fun a b => Text.bytes a.1 < Text.bytes b.1 := by
  have hsame : units.foldl insert empty = others.foldl insert empty := by
    refine ext_get? fun name => ?_
    rw [get?_foldl_insert, get?_foldl_insert]
    have hborne := isSome_find?_reverse_iff.trans ((hnames name).trans isSome_find?_reverse_iff.symm)
    cases hu : units.reverse.find? (·.name == name) with
    | none =>
        have hv : others.reverse.find? (·.name == name) = none := by
          simpa [hu] using hborne
        rw [hv]
    | some u =>
        obtain ⟨v, hv⟩ := Option.isSome_iff_exists.mp (hborne.mp (by rw [hu]; rfl))
        obtain ⟨huname, hulast⟩ := find?_reverse_eq_some_iff.mp hu
        obtain ⟨hvname, hvlast⟩ := find?_reverse_eq_some_iff.mp hv
        have hwork := hlast u v hulast hvlast (huname.trans hvname.symm)
        rw [hv, Option.map_some, Option.map_some, hwork.ofUnit_eq]
  refine ⟨hsame, congrArg toJson hsame, _, ofText?_toJson _, fun name => ?_, ?_⟩
  · rw [List.map_map]
    exact mem_names_foldl_insert_iff
  · exact List.pairwise_map.mpr (pairwise_bytes _)

namespace Refiled

/-- A unit of few combos, in the version that its bracketed directives were read for. -/
def unit (name version : String) (max : Int32) (init : Combo.Init) : ShaderUnit :=
  { name, version, stage := .pixel, model := .three, static := [⟨"FOG", 0, max, init⟩] }

/-- One name is filed twice, first with another range. -/
def units : List ShaderUnit :=
  [unit "wäter_ps30" "30" 7 .mustBeSet, unit "sky_ps30" "30" 1 .mustBeSet,
    unit "wäter_ps30" "30" 2 (.expression "1")]

/-- The other way round, with other initial values and versions. -/
def others : List ShaderUnit :=
  [unit "wäter_ps30" "" 2 .mustBeSet, unit "sky_ps30" "30" 1 (.expression "0")]

theorem mem_names_iff (name : String) :
    name ∈ units.map ShaderUnit.name ↔ name ∈ others.map ShaderUnit.name := by
  simp only [units, others, unit, List.map_cons, List.map_nil, List.mem_cons, List.not_mem_nil, or_false]
  constructor
  · rintro (rfl | rfl | rfl)
    · exact Or.inl rfl
    · exact Or.inr rfl
    · exact Or.inl rfl
  · rintro (rfl | rfl)
    · exact Or.inl rfl
    · exact Or.inr (Or.inl rfl)

theorem sameWork {u v : ShaderUnit} (hu : IsLast units u) (hv : IsLast others v) (hname : u.name = v.name) :
    u.SameWork v := by
  have hunit := hu.mem
  have hother := hv.mem
  simp only [units, others, List.mem_cons, List.not_mem_nil, or_false] at hunit hother
  rcases hunit with rfl | rfl | rfl
  · exact absurd hu (by decide)
  · rcases hother with rfl | rfl
    · exact absurd hname (by decide)
    · constructor <;> rfl
  · rcases hother with rfl | rfl
    · constructor <;> rfl
    · exact absurd hname (by decide)

end Refiled

theorem foldl_insert_of_last_refiled :
    Refiled.units.foldl insert empty = Refiled.others.foldl insert empty ∧
      (Refiled.units.foldl insert empty).toJson = (Refiled.others.foldl insert empty).toJson :=
  have h := foldl_insert_of_last Refiled.mem_names_iff fun _ _ => Refiled.sameWork
  ⟨h.1, h.2.1⟩

end WorkManifest

end ShaderCombos
