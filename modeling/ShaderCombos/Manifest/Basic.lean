import ShaderCombos.ShaderUnit

/-!
# Work manifests

The manifest tells the downstream compiler what to compile: for every shader the ranges of its combos,
its files, its centroid mask, its profile and one predicate for the combinations that are left out.
Initial expressions are of no use to the compiler.

* `WorkEntry`, `WorkEntry.ofUnit`: the work for one shader.
* `combinedSkip`: many skip rules as one predicate.
* `WorkManifest`: entries in ascending order of their names, one for each name.
* `WorkManifest.get?`: the entry under a name. `get?_put_self`, `get?_put_of_ne`: putting an entry
  under a name changes what is found under that name and under no other.
-/

namespace ShaderCombos

/-- The range of a combo. -/
structure ComboRange where
  name : String
  min : Int32
  max : Int32
  deriving DecidableEq, Repr

/-- The range of a combo without its initial value. -/
def Combo.range (c : Combo) : ComboRange :=
  ⟨c.name, c.min, c.max⟩

/-- The disjunction of skip rules, each in parentheses; no rules give a pair of parentheses. -/
def combinedSkip (rules : List String) : String :=
  "(" ++ String.intercalate ")||(" rules ++ ")"

/-- The compile work for one shader. -/
structure WorkEntry where
  static : List ComboRange
  dynamic : List ComboRange
  files : List String
  centroid : UInt32
  target : Target
  skip : String
  deriving DecidableEq, Repr

/-- The compile work for a unit. -/
def WorkEntry.ofUnit (u : ShaderUnit) : WorkEntry where
  static := u.static.map Combo.range
  dynamic := u.dynamic.map Combo.range
  files := u.files
  centroid := u.centroid.bits
  target := u.target
  skip := combinedSkip u.skipRules

/-! ## Manifests -/

/-- Compile work by name; the names ascend. Strings are ordered by code point, which is also the order
of their UTF-8 bytes. -/
structure WorkManifest where
  entries : List (String × WorkEntry)
  ascending : entries.Pairwise fun a b => a.1 < b.1
  deriving DecidableEq, Repr

namespace WorkManifest

/-- The manifest without work. -/
def empty : WorkManifest :=
  ⟨[], .nil⟩

/-- A list of entries with one more in its place, which takes the place of one with the same name. -/
def insertEntry (name : String) (entry : WorkEntry) :
    List (String × WorkEntry) → List (String × WorkEntry)
  | [] => [(name, entry)]
  | (other, old) :: rest =>
    if name < other then (name, entry) :: (other, old) :: rest
    else if name = other then (name, entry) :: rest
    else (other, old) :: insertEntry name entry rest

/-- Only the name that is put in joins the names of a list. -/
theorem eq_or_mem_of_mem_insertEntry {name : String} {entry : WorkEntry}
    {entries : List (String × WorkEntry)} {e : String × WorkEntry}
    (h : e ∈ insertEntry name entry entries) : e = (name, entry) ∨ e ∈ entries := by
  induction entries with
  | nil => simpa [insertEntry] using h
  | cons head rest ih =>
    simp only [insertEntry] at h
    split at h
    · simpa using h
    · split at h
      · rcases List.mem_cons.1 h with h | h
        · exact Or.inl h
        · exact Or.inr (List.mem_cons_of_mem _ h)
      · rcases List.mem_cons.1 h with rfl | h
        · exact Or.inr (List.mem_cons_self ..)
        · exact (ih h).imp_right (List.mem_cons_of_mem _)

theorem pairwise_insertEntry (name : String) (entry : WorkEntry) {entries : List (String × WorkEntry)}
    (h : entries.Pairwise fun a b => a.1 < b.1) :
    (insertEntry name entry entries).Pairwise fun a b => a.1 < b.1 := by
  induction entries with
  | nil => simp [insertEntry]
  | cons head rest ih =>
    obtain ⟨other, old⟩ := head
    obtain ⟨below, ordered⟩ := List.pairwise_cons.1 h
    simp only [insertEntry]
    split
    · next less =>
      refine List.pairwise_cons.2 ⟨fun e he => ?_, h⟩
      rcases List.mem_cons.1 he with rfl | he
      · exact less
      · exact String.lt_trans less (below e he)
    · next notLess =>
      split
      · next same => exact List.pairwise_cons.2 ⟨fun e he => same ▸ below e he, ordered⟩
      · next differs =>
        refine List.pairwise_cons.2 ⟨fun e he => ?_, ih ordered⟩
        rcases eq_or_mem_of_mem_insertEntry he with rfl | he
        · exact Std.lt_of_le_of_ne (String.not_lt.1 notLess) (Ne.symm differs)
        · exact below e he

/-- The manifest with an entry under a name, in place of what stood there. -/
def put (m : WorkManifest) (name : String) (entry : WorkEntry) : WorkManifest :=
  ⟨insertEntry name entry m.entries, pairwise_insertEntry name entry m.ascending⟩

/-- The manifest with the work for a unit under the unit's name. -/
def insert (m : WorkManifest) (u : ShaderUnit) : WorkManifest :=
  m.put u.name (.ofUnit u)

/-- The entry under a name. -/
def get? (m : WorkManifest) (name : String) : Option WorkEntry :=
  m.entries.lookup name

@[simp] theorem get?_empty (name : String) : empty.get? name = none :=
  rfl

theorem get?_put_self (m : WorkManifest) (name : String) (entry : WorkEntry) :
    (m.put name entry).get? name = some entry := by
  simp only [get?, put]
  generalize m.entries = entries
  induction entries with
  | nil => simp [insertEntry]
  | cons head rest ih =>
    simp only [insertEntry]
    split
    · simp
    · split
      · simp
      · next differs =>
        have : (name == head.1) = false := by simpa using differs
        rw [List.lookup_cons, this]
        exact ih

theorem get?_put_of_ne {name other : String} (h : other ≠ name) (m : WorkManifest) (entry : WorkEntry) :
    (m.put name entry).get? other = m.get? other := by
  have hb : (other == name) = false := by simpa using h
  simp only [get?, put]
  generalize m.entries = entries
  induction entries with
  | nil => simp [insertEntry, List.lookup_cons, hb]
  | cons head rest ih =>
    simp only [insertEntry]
    split
    · rw [List.lookup_cons, hb]
    · split
      · next same => rw [List.lookup_cons, List.lookup_cons, hb, ← same, hb]
      · rw [List.lookup_cons, List.lookup_cons, ih]

/-- How many entries there are. -/
def size (m : WorkManifest) : Nat :=
  m.entries.length

/-- Whether there is no work. -/
def isEmpty (m : WorkManifest) : Bool :=
  m.entries.isEmpty

/-- The path of the manifest for a file list: it stands beside the list and has the list's name. -/
def path (fileList : Path) : Path :=
  fileList.directory.child ((fileList.fileStem?.getD "") ++ "_work.json")

end WorkManifest

end ShaderCombos
