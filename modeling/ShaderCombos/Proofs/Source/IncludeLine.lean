import Mathlib
import ShaderCombos.Proofs.Text.Blanks
import ShaderCombos.Proofs.Text.Marks
import ShaderCombos.Source

/-!
# `Proofs.Source.IncludeLine` — the lines that include a file

What may be written to include a file, said without the reader that looks for it:

    #include "lib/common.h"
      # include "common.h"   // for all stages

Runs of blanks may stand in front of the number sign, around the word and behind the quotes. A path is not empty
and holds no quote. Behind it a line may only have a comment. Every part carries its own conditions, so each
`IncludeLine` is in order. `includeTarget?_eq_some_iff` says that these lines are read, and no others, and that a
line has one reading.

## Contents
- **Parts.** `Blanks`, `Quoted`, `Comment`.
- **The form.** `IncludeLine`, its text and its path.
- **Reading the parts.** One iff for each: what stands behind blanks, between quotes and at the end of a line.
- **Reading lines.** `includeTarget?_eq_some_iff`, `includeTarget?_eq_none_iff`.
-/

namespace ShaderCombos

open Text

namespace IncludeLine

/-! ## Parts -/

/-- A run of blanks. -/
structure Blanks where
  chars : List Char
  blank : ∀ c ∈ chars, isBlank c = true

/-- What may stand in quotes. -/
structure Quoted where
  chars : List Char
  nonempty : chars ≠ []
  unquoted : '"' ∉ chars

/-- What may stand behind the slashes of a comment, which ends with its line. -/
structure Comment where
  chars : List Char
  single : '\n' ∉ chars

/-- A comment as it is written, if there is one. -/
def ending : Option Comment → List Char
  | none => []
  | some comment => "//".toList ++ comment.chars

end IncludeLine

/-! ## The form -/

/-- **A line that includes a file.** -/
structure IncludeLine where
  lead : IncludeLine.Blanks
  afterSign : IncludeLine.Blanks
  afterWord : IncludeLine.Blanks
  target : IncludeLine.Quoted
  behind : IncludeLine.Blanks
  comment : Option IncludeLine.Comment

namespace IncludeLine

/-- The line as it is written. -/
def text (l : IncludeLine) : List Char :=
  l.lead.chars ++ ("#".toList ++ (l.afterSign.chars ++ ("include".toList ++ (l.afterWord.chars
    ++ ("\"".toList ++ (l.target.chars ++ ("\"".toList ++ (l.behind.chars ++ ending l.comment))))))))

/-- The path that the line includes. -/
def path (l : IncludeLine) : Path :=
  ⟨String.ofList l.target.chars⟩

/-! ## Reading the parts -/

variable {s rest : List Char} {literal : String}

/-- The blanks in front of a text. -/
def Blanks.inFront (s : List Char) : Blanks :=
  ⟨s.takeWhile isBlank, fun _ hc => List.mem_takeWhile_imp hc⟩

theorem Blanks.inFront_append_dropBlanks (s : List Char) : (inFront s).chars ++ dropBlanks s = s :=
  List.takeWhile_append_dropWhile

theorem Blanks.dropBlanks_append (b : Blanks) (s : List Char) : dropBlanks (b.chars ++ s) = dropBlanks s :=
  dropBlanks_append_of_blank b.blank s

/-- **A literal behind blanks** is taken off exactly where it stands behind a run of blanks. -/
theorem dropLiteral?_dropBlanks_eq_some_iff
    (hliteral : ∀ s, dropBlanks (literal.toList ++ s) = literal.toList ++ s) :
    dropLiteral? literal (dropBlanks s) = some rest ↔ ∃ b : Blanks, s = b.chars ++ (literal.toList ++ rest) := by
  rw [dropLiteral?_eq_some_iff]
  constructor
  · intro hdrop
    refine ⟨Blanks.inFront s, ?_⟩
    rw [← hdrop, Blanks.inFront_append_dropBlanks]
  · rintro ⟨b, rfl⟩
    rw [b.dropBlanks_append, hliteral]

/-- **A closing quote** is taken off behind what holds none. -/
theorem dropLiteral?_dropWhile_eq_some_iff {target : List Char} :
    s.takeWhile (· ≠ '"') = target ∧ dropLiteral? "\"" (s.dropWhile (· ≠ '"')) = some rest ↔
      '"' ∉ target ∧ s = target ++ ("\"".toList ++ rest) := by
  rw [dropLiteral?_eq_some_iff]
  constructor
  · rintro ⟨rfl, hdrop⟩
    refine ⟨fun hmem => ?_, ?_⟩
    · exact absurd (List.mem_takeWhile_imp hmem) (by decide)
    · rw [← hdrop, List.takeWhile_append_dropWhile]
  · rintro ⟨hunquoted, rfl⟩
    exact ⟨takeWhile_ne hunquoted rest, dropWhile_ne hunquoted rest⟩

/-- Whether a line may end in a text: with nothing, or with a comment. -/
theorem exists_eq_ending_iff :
    (∃ comment, s = ending comment) ↔
      (s.isEmpty || ((dropLiteral? "//" s).isSome && !s.contains '\n')) = true := by
  have hcontains : s.contains '\n' = false ↔ '\n' ∉ s := by
    rw [← Bool.not_eq_true, List.contains_iff_mem]
  rw [Bool.or_eq_true, Bool.and_eq_true, Bool.not_eq_true', hcontains, List.isEmpty_iff,
    Option.isSome_iff_exists]
  simp only [dropLiteral?_eq_some_iff]
  constructor
  · rintro ⟨comment, rfl⟩
    cases comment with
    | none => exact Or.inl rfl
    | some comment =>
        refine Or.inr ⟨⟨comment.chars, rfl⟩, fun hmem => ?_⟩
        rcases List.mem_append.mp hmem with hslash | hmem
        · exact absurd hslash (by decide)
        · exact comment.single hmem
  · rintro (rfl | ⟨⟨chars, rfl⟩, hsingle⟩)
    · exact ⟨none, rfl⟩
    · exact ⟨some ⟨chars, fun hmem => hsingle (List.mem_append_right _ hmem)⟩, rfl⟩

/-- A comment begins with no blank. -/
theorem dropBlanks_ending (comment : Option Comment) : dropBlanks (ending comment) = ending comment := by
  cases comment with
  | none => rfl
  | some comment => rfl

/-- **The end of a line** is read as blanks and at most a comment. -/
theorem closed_iff :
    ((dropBlanks s).isEmpty || ((dropLiteral? "//" (dropBlanks s)).isSome && !(dropBlanks s).contains '\n')) = true
      ↔ ∃ (b : Blanks) (comment : Option Comment), s = b.chars ++ ending comment := by
  rw [← exists_eq_ending_iff]
  constructor
  · rintro ⟨comment, hdrop⟩
    refine ⟨Blanks.inFront s, comment, ?_⟩
    rw [← hdrop, Blanks.inFront_append_dropBlanks]
  · rintro ⟨b, comment, rfl⟩
    exact ⟨comment, by rw [b.dropBlanks_append, dropBlanks_ending]⟩

end IncludeLine

/-! ## Reading lines -/

open IncludeLine in
/-- **Which lines include a path**: those that are written as an `IncludeLine` with that path. -/
theorem includeTarget?_eq_some_iff {line : String} {p : Path} :
    includeTarget? line = some p ↔ ∃ l : IncludeLine, l.text = line.toList ∧ l.path = p := by
  have hsign : ∀ s, dropBlanks ("#".toList ++ s) = "#".toList ++ s := fun _ => rfl
  have hword : ∀ s, dropBlanks ("include".toList ++ s) = "include".toList ++ s := fun _ => rfl
  have hquote : ∀ s, dropBlanks ("\"".toList ++ s) = "\"".toList ++ s := fun _ => rfl
  unfold includeTarget?
  constructor
  · intro hread
    obtain ⟨s₁, hs₁, h₁⟩ := Option.bind_eq_some_iff.mp hread
    obtain ⟨s₂, hs₂, h₂⟩ := Option.bind_eq_some_iff.mp h₁
    obtain ⟨s₃, hs₃, h₃⟩ := Option.bind_eq_some_iff.mp h₂
    obtain ⟨s₄, hs₄, h₄⟩ := Option.bind_eq_some_iff.mp h₃
    obtain ⟨hguard, hp⟩ := Option.ite_none_right_eq_some.mp h₄
    obtain ⟨lead, hlead⟩ := (dropLiteral?_dropBlanks_eq_some_iff hsign).mp hs₁
    obtain ⟨afterSign, rfl⟩ := (dropLiteral?_dropBlanks_eq_some_iff hword).mp hs₂
    obtain ⟨afterWord, rfl⟩ := (dropLiteral?_dropBlanks_eq_some_iff hquote).mp hs₃
    obtain ⟨hunquoted, htarget⟩ := dropLiteral?_dropWhile_eq_some_iff.mp ⟨rfl, hs₄⟩
    rw [Bool.and_eq_true, Bool.not_eq_true', List.isEmpty_eq_false_iff, closed_iff] at hguard
    obtain ⟨hnonempty, behind, comment, rfl⟩ := hguard
    refine ⟨⟨lead, afterSign, afterWord, ⟨_, hnonempty, hunquoted⟩, behind, comment⟩, ?_, Option.some.inj hp⟩
    unfold IncludeLine.text
    rw [← htarget, ← hlead]
  · rintro ⟨l, hline, rfl⟩
    obtain ⟨htake, hs₄⟩ := dropLiteral?_dropWhile_eq_some_iff.mpr ⟨l.target.unquoted,
      (rfl : l.target.chars ++ ("\"".toList ++ (l.behind.chars ++ ending l.comment)) = _)⟩
    refine Option.bind_eq_some_iff.mpr
      ⟨_, (dropLiteral?_dropBlanks_eq_some_iff hsign).mpr ⟨l.lead, hline.symm⟩, ?_⟩
    refine Option.bind_eq_some_iff.mpr
      ⟨_, (dropLiteral?_dropBlanks_eq_some_iff hword).mpr ⟨l.afterSign, rfl⟩, ?_⟩
    refine Option.bind_eq_some_iff.mpr
      ⟨_, (dropLiteral?_dropBlanks_eq_some_iff hquote).mpr ⟨l.afterWord, rfl⟩, ?_⟩
    refine Option.bind_eq_some_iff.mpr ⟨_, hs₄, ?_⟩
    refine Option.ite_none_right_eq_some.mpr ⟨?_, ?_⟩
    · rw [htake, Bool.and_eq_true, Bool.not_eq_true', List.isEmpty_eq_false_iff, closed_iff]
      exact ⟨l.target.nonempty, l.behind, l.comment, rfl⟩
    · rw [htake]
      rfl

/-- A line that includes nothing is none that is written so. -/
theorem includeTarget?_eq_none_iff {line : String} :
    includeTarget? line = none ↔ ∀ l : IncludeLine, l.text ≠ line.toList := by
  rw [Option.eq_none_iff_forall_ne_some]
  constructor
  · intro hnone l hline
    exact hnone l.path (includeTarget?_eq_some_iff.mpr ⟨l, hline, rfl⟩)
  · intro hother p hp
    obtain ⟨l, hline, -⟩ := includeTarget?_eq_some_iff.mp hp
    exact hother l hline

end ShaderCombos
