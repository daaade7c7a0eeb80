import Mathlib
import ShaderCombos.Proofs.Directive.Brackets
import ShaderCombos.Proofs.Text.Occurrences

/-!
# `Proofs.Directive.Filtering` — what keeps a directive from applying

A directive is confined by what stands in brackets on its line, wherever on the line it stands: the console
mark, a version of the other stage, or versions of the filter's own stage none of which is the filter's.
`Filter.Rejects` says that of the text, without the recognisers, and `accepts_iff` says that exactly the
other lines are accepted.

## Contents
- **Versions in brackets.** `versionMark_eq_some_iff`, `Names`, `mem_marks_versionMark_iff`.
- **The console mark.** `hasMark_consoleMark_iff`.
- **Filters.** `Filter.Rejects`, `accepts_iff`.
-/

namespace ShaderCombos.Directive

open Text

variable {stage : Stage} {line : List Char}

/-! ## Versions in brackets -/

/-- What is read as a version is one, and what follows closes it. -/
theorem exists_version_of_version? {closes : List Char → Bool} {s v : List Char}
    (h : version? closes s = some v) :
    ∃ (version : Version) (rest : List Char),
      version.chars = v ∧ s = v ++ rest ∧ closes rest = true := by
  have hdigits : ∀ c ∈ s.takeWhile isDigit, isDigit c = true := fun c hc => List.mem_takeWhile_imp hc
  have hsplit : s = s.takeWhile isDigit ++ s.dropWhile isDigit := List.takeWhile_append_dropWhile.symm
  unfold version? at h
  simp only at h
  split at h
  · cases h
  · next hempty =>
    have hne : s.takeWhile isDigit ≠ [] := fun heq => hempty (List.isEmpty_iff.mpr heq)
    split at h
    · -- The digits alone are closed.
      next hclose =>
      obtain rfl := Option.some.inj h
      exact ⟨⟨_, _, [], (List.append_nil _).symm, hne, hdigits, Or.inl rfl⟩, _, rfl, hsplit, hclose⟩
    · split at h
      · -- One more character is taken, and then it is closed.
        next c more hdrop =>
        split at h
        · next hword =>
          obtain ⟨hc, hclose⟩ := Bool.and_eq_true_iff.mp hword
          obtain rfl := Option.some.inj h
          refine ⟨⟨_, _, [c], rfl, hne, hdigits, Or.inr ⟨c, rfl, hc⟩⟩, more, rfl, ?_, hclose⟩
          rw [List.append_assoc, List.singleton_append, ← hdrop]
          exact hsplit
        · cases h
      · cases h

/-- **A version in brackets** is read exactly where one stands, and it is read as it is spelled. -/
theorem versionMark_eq_some_iff {s v : List Char} {length : Nat} :
    versionMark stage s = some (v, length) ↔
      ∃ (first second : Char) (letters : isStage stage first second = true) (version : Version)
        (rest : List Char), s = (Marker.version first second letters version).text ++ rest ∧
          version.chars = v ∧ length = (Marker.version first second letters version).text.length := by
  have htext : ∀ first second (letters : isStage stage first second = true) (version : Version) rest,
      (Marker.version first second letters version).text ++ rest
        = '[' :: first :: second :: (version.chars ++ ']' :: rest) := by
    intro first second letters version rest
    simp [Marker.text]
  have hlength : ∀ first second (letters : isStage stage first second = true) (version : Version),
      (Marker.version first second letters version).text.length = version.chars.length + 4 := by
    intro first second letters version
    simp [Marker.text]
  constructor
  · intro h
    unfold versionMark at h
    split at h
    · next first second rest =>
      split at h
      · next letters =>
        obtain ⟨v', hversion, heq⟩ := Option.map_eq_some_iff.mp h
        obtain ⟨rfl, rfl⟩ := Prod.mk.inj heq
        obtain ⟨version, more, rfl, rfl, hclose⟩ := exists_version_of_version? hversion
        obtain ⟨after, rfl⟩ := List.head?_eq_some_iff.mp (of_decide_eq_true hclose)
        exact ⟨first, second, letters, version, after, (htext ..).symm, rfl, (hlength ..).symm⟩
      · cases h
    · cases h
  · rintro ⟨first, second, letters, version, rest, rfl, rfl, rfl⟩
    rw [htext, hlength, versionMark_eq, if_pos letters, version?_eq]
    rfl

theorem enclosed_versionMark (stage : Stage) : Enclosed (versionMark stage) := by
  intro s v length h
  obtain ⟨first, second, letters, version, rest, rfl, -, rfl⟩ := versionMark_eq_some_iff.mp h
  obtain ⟨inner, htext, hinner⟩ := (Marker.version first second letters version).text_eq
  refine ⟨inner ++ [']'], rest, by rw [htext]; rfl, by rw [htext]; rfl, ?_⟩
  intro hbracket
  rcases List.mem_append.mp hbracket with h | h
  · exact (hinner _ h).1 rfl
  · exact absurd (List.mem_singleton.mp h) (by decide)

/-- A line names a version of a stage: somewhere on it the version stands in brackets behind the letters of
    the stage, which may be in either case. -/
def Names (stage : Stage) (version : Version) (line : List Char) : Prop :=
  ∃ (first second : Char) (letters : isStage stage first second = true),
    (Marker.version first second letters version).text <:+: line

/-- **Versions are found wherever they stand.** -/
theorem mem_marks_versionMark_iff {v : List Char} :
    v ∈ marks (versionMark stage) line ↔ ∃ version : Version, version.chars = v ∧ Names stage version line := by
  rw [mem_marks_iff (enclosed_versionMark stage)]
  constructor
  · rintro ⟨before, after, length, rfl, hmark⟩
    obtain ⟨first, second, letters, version, rest, rfl, rfl, -⟩ := versionMark_eq_some_iff.mp hmark
    exact ⟨version, rfl, first, second, letters, before, rest, List.append_assoc ..⟩
  · rintro ⟨version, rfl, first, second, letters, before, rest, rfl⟩
    exact ⟨before, _, _, List.append_assoc .., versionMark_eq_some_iff.mpr
      ⟨first, second, letters, version, rest, rfl, rfl, rfl⟩⟩

theorem hasMark_versionMark_iff :
    hasMark (versionMark stage) line = true ↔ ∃ version, Names stage version line := by
  rw [hasMark_iff_exists_mem]
  constructor
  · rintro ⟨v, hv⟩
    obtain ⟨version, -, hnames⟩ := mem_marks_versionMark_iff.mp hv
    exact ⟨version, hnames⟩
  · rintro ⟨version, hnames⟩
    exact ⟨version.chars, mem_marks_versionMark_iff.mpr ⟨version, rfl, hnames⟩⟩

/-! ## The console mark -/

theorem consoleMark_eq_some_iff {s : List Char} {u : Unit} {length : Nat} :
    consoleMark s = some (u, length) ↔ ∃ rest, s = "[XBOX]".toList ++ rest ∧ length = 6 := by
  unfold consoleMark literalMark
  rw [Option.map_eq_some_iff]
  constructor
  · rintro ⟨rest, hrest, heq⟩
    exact ⟨rest, dropLiteral?_eq_some_iff.mp hrest, (Prod.mk.inj heq).2.symm⟩
  · rintro ⟨rest, hrest, rfl⟩
    exact ⟨rest, dropLiteral?_eq_some_iff.mpr hrest, rfl⟩

theorem enclosed_consoleMark : Enclosed consoleMark := by
  intro s u length h
  obtain ⟨rest, rfl, rfl⟩ := consoleMark_eq_some_iff.mp h
  exact ⟨['X', 'B', 'O', 'X', ']'], rest, rfl, rfl, by decide⟩

/-- **The console mark is found wherever it stands.** -/
theorem hasMark_consoleMark_iff : hasMark consoleMark line = true ↔ "[XBOX]".toList <:+: line := by
  rw [hasMark_iff_exists_mem]
  constructor
  · rintro ⟨u, hu⟩
    obtain ⟨before, after, length, rfl, hmark⟩ := (mem_marks_iff enclosed_consoleMark).mp hu
    obtain ⟨rest, rfl, -⟩ := consoleMark_eq_some_iff.mp hmark
    exact ⟨before, rest, List.append_assoc ..⟩
  · rintro ⟨before, rest, rfl⟩
    refine ⟨(), (mem_marks_iff enclosed_consoleMark).mpr
      ⟨before, _, 6, List.append_assoc .., consoleMark_eq_some_iff.mpr ⟨rest, rfl, rfl⟩⟩⟩

/-! ## Filters -/

/-- **The lines that a filter passes over**: those for the console, those for a version of the other stage,
    and those for versions of its own stage of which none is its own, letter case apart. -/
inductive Filter.Rejects (f : Filter) (line : List Char) : Prop where
  | console (h : "[XBOX]".toList <:+: line)
  | opposite {version : Version} (h : Names f.stage.opposite version line)
  | otherVersions {version : Version} (h : Names f.stage version line)
      (hother : ∀ version : Version, Names f.stage version line →
        asciiLowercase version.chars ≠ asciiLowercase f.version.toList)

/-- The version of a filter is in lower case already. -/
theorem asciiLowercase_version (stage : Stage) (version : String) :
    asciiLowercase (Filter.ofVersion stage version).version.toList
      = (Filter.ofVersion stage version).version.toList := by
  unfold Filter.ofVersion
  simp only
  split
  · show asciiLowercase "20".toList = "20".toList
    decide
  · rw [String.toList_ofList]
    unfold asciiLowercase
    rw [List.map_map]
    exact List.map_congr_left fun c _ => Char.toLower_toLower_eq_toLower c

/-- The versions of its own stage allow a line if there are none, or if the filter's is among them. -/
theorem Filter.versions_allow_iff {f : Filter}
    (hlower : asciiLowercase f.version.toList = f.version.toList) :
    ((f.versions line).isEmpty
        || (f.versions line).any fun version => asciiLowercase version = f.version.toList) = true ↔
      ∀ version, Names f.stage version line →
        ∃ own, Names f.stage own line ∧ asciiLowercase own.chars = asciiLowercase f.version.toList := by
  rw [Bool.or_eq_true, List.isEmpty_iff, List.any_eq_true, hlower]
  constructor
  · rintro (hnone | ⟨v, hv, hsame⟩) version hnames
    · have hmem : version.chars ∈ f.versions line := mem_marks_versionMark_iff.mpr ⟨version, rfl, hnames⟩
      rw [hnone] at hmem
      cases hmem
    · obtain ⟨own, rfl, hown⟩ := mem_marks_versionMark_iff.mp hv
      exact ⟨own, hown, of_decide_eq_true hsame⟩
  · intro h
    by_cases hnone : f.versions line = []
    · exact Or.inl hnone
    · right
      obtain ⟨v, hv⟩ := List.exists_mem_of_ne_nil _ hnone
      obtain ⟨version, -, hnames⟩ := mem_marks_versionMark_iff.mp hv
      obtain ⟨own, hown, hsame⟩ := h version hnames
      exact ⟨own.chars, mem_marks_versionMark_iff.mpr ⟨own, rfl, hown⟩, decide_eq_true hsame⟩

/-- **What a filter accepts** is what it has no reason to reject. -/
theorem Filter.accepts_iff {f : Filter}
    (hlower : asciiLowercase f.version.toList = f.version.toList) :
    f.accepts line = true ↔ ¬ f.Rejects line := by
  unfold Filter.accepts
  rw [Bool.and_eq_true, Bool.and_eq_true, Bool.not_eq_true', Bool.not_eq_true', ← Bool.not_eq_true,
    ← Bool.not_eq_true, hasMark_consoleMark_iff, hasMark_versionMark_iff, f.versions_allow_iff hlower]
  constructor
  · rintro ⟨⟨hconsole, hopposite⟩, hversions⟩ hrejects
    cases hrejects with
    | console h => exact hconsole h
    | opposite h => exact hopposite ⟨_, h⟩
    | otherVersions h hother =>
        obtain ⟨own, hown, hsame⟩ := hversions _ h
        exact hother own hown hsame
  · intro hfree
    refine ⟨⟨fun h => hfree (.console h), fun ⟨_, h⟩ => hfree (.opposite h)⟩, ?_⟩
    intro version hnames
    by_contra hnone
    push Not at hnone
    exact hfree (.otherVersions hnames hnone)

end ShaderCombos.Directive
