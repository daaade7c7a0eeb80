import ShaderCombos.Manifest.Json
import ShaderCombos.Proofs.Json.RoundTrip

/-!
# `Proofs.Manifest.RoundTrip` — manifests that are written and read back

A manifest is read back from its text as it was, so it is written the same again (`read_and_written_again`). Two
manifests with one text are therefore the same (`toJson_inj`).

The text is read back as the JSON value that was written (`Json.ofText?_pretty`), as every part of it is plain.
From there the readers undo the writers part by part: bounds and masks lose nothing by the way through the
integers, lists go item by item, and a record has each of its names once. The entries come in ascending order, so
each is put behind those that were read before it (`addMembers_json`).

## Contents
- **Plain values.** `plain_json`.
- **Parts.** `bound?_integer`, `mask?_integer`, `fields?_record`, `range?_json`, `entry?_json`.
- **Entries.** `insertEntry_of_forall_lt`, `addMembers_json`.
- **Manifests.** `ofJson?_toJson`, `read_and_written_again`, `toJson_inj`.
-/

namespace ShaderCombos.WorkManifest

open Json (Plain)

/-! ## Plain values -/

theorem plain_rangeJson (r : ComboRange) : Plain (rangeJson r) := by
  apply Plain.record
  simp only [List.forall_mem_cons, List.not_mem_nil, false_imp_iff, implies_true, and_true]
  exact ⟨.text _, .integer _, .integer _⟩

/-- A list of plain values is plain. -/
theorem plain_array_map {α : Type} {write : α → Json} (h : ∀ a, Plain (write a)) (as : List α) :
    Plain (.array (as.map write)) := by
  apply Plain.array
  intro item hitem
  obtain ⟨a, -, rfl⟩ := List.mem_map.mp hitem
  exact h a

theorem plain_entryJson (e : WorkEntry) : Plain (entryJson e) := by
  apply Plain.record
  simp only [List.forall_mem_cons, List.not_mem_nil, false_imp_iff, implies_true, and_true]
  exact ⟨plain_array_map plain_rangeJson _, plain_array_map plain_rangeJson _, plain_array_map .text _,
    .integer _, .text _, .text _⟩

/-- **A manifest is written as a plain value.** -/
theorem plain_json (m : WorkManifest) : Plain m.json := by
  apply Plain.record
  intro member hmember
  obtain ⟨⟨name, entry⟩, -, rfl⟩ := List.mem_map.mp hmember
  exact plain_entryJson entry

/-! ## Parts -/

/-- A bound is read back. -/
theorem bound?_integer (n : Int32) : bound? (.integer n.toInt) = some n := by
  have hfits : fitsSigned32 n.toInt = true := by
    have hge := n.le_toInt
    have hlt := n.toInt_lt
    simp only [fitsSigned32, Bool.and_eq_true, decide_eq_true_eq]
    exact ⟨hge, hlt⟩
  unfold bound?
  simp only [Json.integer?, Option.bind_eq_bind, Option.bind_some, hfits, if_true, Int32.ofInt_toInt]

/-- A mask is read back. -/
theorem mask?_integer (n : UInt32) : mask? (.integer n.toNat) = some n := by
  have hfits : fits32 n.toNat = true := by
    simpa [fits32] using n.toNat_lt
  unfold mask?
  simp [Json.integer?, hfits]

/-- A list is read item by item. -/
theorem mapM_map_eq_some {α β γ : Type} {write : α → β} {read : β → Option γ} {result : α → γ} {as : List α}
    (h : ∀ a ∈ as, read (write a) = some (result a)) :
    (as.map write).mapM read = some (as.map result) := by
  induction as with
  | nil => rfl
  | cons a as ih =>
      obtain ⟨ha, has⟩ := List.forall_mem_cons.mp h
      simp only [List.map_cons, List.mapM_cons, ha, ih has, Option.bind_eq_bind, Option.bind_some]
      rfl

/-- What undoes the writing of an item reads a list back. -/
theorem mapM_map_of_undoes {α : Type} {write : α → Json} {read : Json → Option α}
    (h : ∀ a, read (write a) = some a) (as : List α) : (as.map write).mapM read = some as := by
  have hread : (as.map write).mapM read = some (as.map id) := mapM_map_eq_some fun a _ => h a
  rwa [List.map_id] at hread

theorem membersNamed_cons (name : String) (head : String × Json) (members : List (String × Json)) :
    Json.membersNamed name ((head :: members).map Json.named) =
      if head.1 = name then head.2 :: Json.membersNamed name (members.map Json.named)
      else Json.membersNamed name (members.map Json.named) := by
  by_cases h : head.1 = name
  · simp [Json.membersNamed, Json.named, h]
  · simp [Json.membersNamed, Json.named, h]

theorem membersNamed_of_notMem {name : String} {members : List (String × Json)}
    (h : name ∉ members.map Prod.fst) : Json.membersNamed name (members.map Json.named) = [] := by
  induction members with
  | nil => rfl
  | cons head members ih =>
      obtain ⟨hhead, hrest⟩ := not_or.mp (mt List.mem_cons.mpr h)
      rw [membersNamed_cons, if_neg (Ne.symm hhead)]
      exact ih hrest

/-- In a record whose names differ, the only value under a name is its own. -/
theorem membersNamed_eq_singleton {members : List (String × Json)} (hnames : (members.map Prod.fst).Nodup)
    {member : String × Json} (h : member ∈ members) :
    Json.membersNamed member.1 (members.map Json.named) = [member.2] := by
  induction members with
  | nil => cases h
  | cons head members ih =>
      obtain ⟨hhead, hrest⟩ := List.nodup_cons.mp hnames
      rw [membersNamed_cons]
      rcases List.mem_cons.mp h with rfl | hmem
      · rw [if_pos rfl, membersNamed_of_notMem hhead]
      · have hdiffers : head.1 ≠ member.1 := fun hsame => hhead (hsame ▸ List.mem_map_of_mem hmem)
        rw [if_neg hdiffers]
        exact ih hrest hmem

/-- **A record whose names differ is read by its names.** -/
theorem fields?_record {members : List (String × Json)} (hnames : (members.map Prod.fst).Nodup) :
    fields? (members.map Prod.fst) (.record members) = some (members.map Prod.snd) := by
  have hall : (members.map Json.named).all (·.1.isSome) = true := by
    simp [Json.named]
  show (if (members.map Json.named).all (·.1.isSome) then
    (members.map Prod.fst).mapM (Json.member? · (members.map Json.named)) else none) = _
  rw [if_pos hall]
  apply mapM_map_eq_some
  intro member hmember
  unfold Json.member?
  rw [membersNamed_eq_singleton hnames hmember]

theorem range?_json (r : ComboRange) : range? (rangeJson r) = some r := by
  have hfields : fields? ["name", "minVal", "maxVal"] (rangeJson r)
      = some [.text r.name, .integer r.min.toInt, .integer r.max.toInt] := fields?_record (by simp)
  unfold range?
  rw [hfields]
  simp only [Option.bind_eq_bind, Option.bind_some, bound?_integer]
  rfl

theorem ranges?_json (rs : List ComboRange) : ranges? (.array (rs.map rangeJson)) = some rs :=
  mapM_map_of_undoes range?_json rs

theorem text?_text (s : String) : Json.text? (.text s) = some s :=
  rfl

theorem target?_text (t : Target) : target? (.text t.name) = some t :=
  t.ofName?_name

/-- **An entry is read back.** -/
theorem entry?_json (e : WorkEntry) : entry? (entryJson e) = some e := by
  have hfields : fields? ["static", "dynamic", "files", "centroid", "version", "skip"] (entryJson e)
      = some [.array (e.static.map rangeJson), .array (e.dynamic.map rangeJson), .array (e.files.map .text),
        .integer e.centroid.toNat, .text e.target.name, .text e.skip] := fields?_record (by simp)
  have hfiles : (e.files.map Json.text).mapM Json.text? = some e.files := mapM_map_of_undoes text?_text _
  unfold entry?
  rw [hfields]
  simp only [Option.bind_eq_bind, Option.bind_some, ranges?_json, mask?_integer, target?_text, hfiles,
    Json.items?]
  rfl

/-! ## Entries -/

/-- An entry whose name is after all others is put behind them. -/
theorem insertEntry_of_forall_lt {name : String} (entry : WorkEntry) {entries : List (String × WorkEntry)}
    (h : ∀ e ∈ entries, e.1 < name) : insertEntry name entry entries = entries ++ [(name, entry)] := by
  induction entries with
  | nil => rfl
  | cons head rest ih =>
      obtain ⟨hhead, hrest⟩ := List.forall_mem_cons.mp h
      have hnotLess : ¬ name < head.1 := String.lt_asymm hhead
      have hdiffers : name ≠ head.1 := fun hsame => String.lt_irrefl _ (hsame ▸ hhead)
      rw [insertEntry, if_neg hnotLess, if_neg hdiffers, ih hrest]
      rfl

/-- **Entries are read back one after another** onto a manifest whose names are before theirs. By induction on
    the entries that are still to be read. -/
theorem addMembers_json (m : WorkManifest) (rest : List (String × WorkEntry))
    (h : (m.entries ++ rest).Pairwise fun a b => a.1 < b.1) :
    ∃ whole, addMembers m (rest.map fun e => (some e.1, entryJson e.2)) = some whole
      ∧ whole.entries = m.entries ++ rest := by
  induction rest generalizing m with
  | nil => exact ⟨m, rfl, (List.append_nil _).symm⟩
  | cons e rest ih =>
      have hbefore : ∀ old ∈ m.entries, old.1 < e.1 := by
        intro old hold
        exact (List.pairwise_append.mp h).2.2 old hold e (List.mem_cons_self ..)
      have hput : (m.put e.1 e.2).entries = m.entries ++ [e] := insertEntry_of_forall_lt e.2 hbefore
      obtain ⟨whole, hread, hwhole⟩ := ih (m.put e.1 e.2) (by rw [hput]; simpa using h)
      refine ⟨whole, ?_, ?_⟩
      · rw [List.map_cons, addMembers]
        simp only [entry?_json, Option.bind_eq_bind, Option.bind_some]
        exact hread
      · rw [hwhole, hput, List.append_assoc]
        rfl

/-! ## Manifests -/

/-- A manifest is read back from its text. -/
theorem ofJson?_toJson (m : WorkManifest) : ofJson? m.toJson = some m := by
  obtain ⟨whole, hread, hwhole⟩ := addMembers_json empty m.entries m.ascending
  have hsame : whole = m := by
    cases whole
    cases m
    cases hwhole
    rfl
  subst hsame
  unfold ofJson? toJson
  rw [Json.ofText?_pretty (plain_json whole)]
  show addMembers empty ((whole.entries.map fun e => (e.1, entryJson e.2)).map Json.named) = _
  rw [List.map_map]
  exact hread

/-- **A manifest is read back from its text as it was, and is written the same again.** -/
theorem read_and_written_again (m : WorkManifest) :
    ∃ again, ofJson? m.toJson = some again ∧ again = m ∧ again.toJson = m.toJson :=
  ⟨m, ofJson?_toJson m, rfl, rfl⟩

/-- Manifests with the same text are the same. -/
theorem toJson_inj {m m' : WorkManifest} (h : m.toJson = m'.toJson) : m = m' := by
  have hread := ofJson?_toJson m
  rw [h, ofJson?_toJson m'] at hread
  exact (Option.some.inj hread).symm

end ShaderCombos.WorkManifest
