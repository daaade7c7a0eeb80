import Mathlib
import ShaderCombos.Proofs.Directive.Brackets

/-!
# `Proofs.Directive.Desktop` — taking the desktop marks away

Unlike the other marks, a desktop mark begins with blanks, so a blank can only be read with what follows
it in sight. Taking the desktop marks out of a trail leaves a trail of versions
(`exists_trail_of_replaceMarks`). What is then left of a trail, once the versions are taken away or cut
off, is blank. That is all that centroid and skip directives need.

## Contents
- **Where no desktop mark begins.** `passes_desktop_of_getLast`, `passes_desktop_of_blank`.
- **Where one begins.** `takes_desktop`.
- **Trails.** `exists_trail_of_replaceMarks`.
- **Lines.** `exists_blank_plain`, `exists_blank_body`.
-/

namespace ShaderCombos.Directive

open Text

variable {stage : Stage} {p rest : List Char}

/-! ## Where no desktop mark begins -/

theorem desktopMark_eq_none (h : dropLiteral? "[PC]" (dropBlanks rest) = none) :
    desktopMark rest = none := by
  unfold desktopMark
  show ((dropLiteral? "[PC]" (dropBlanks rest)).map _) = none
  rw [h]
  rfl

theorem dropLiteral?_eq_none_of_head {c : Char} (hc : c ≠ '[') :
    dropLiteral? "[PC]" (c :: rest) = none := by
  apply dropLiteral?_eq_none
  intro tail htext
  exact hc (List.cons.inj htext).1

theorem dropLiteral?_eq_none_of_third {c d : Char} (hd : d ≠ 'C') :
    dropLiteral? "[PC]" ('[' :: c :: d :: rest) = none := by
  apply dropLiteral?_eq_none
  intro tail htext
  exact hd (List.cons.inj (List.cons.inj (List.cons.inj htext).2).2).1

/-- A text without brackets that does not end in a blank passes: the blanks in it are followed by
    something else than a bracket. -/
theorem passes_desktop_of_getLast (hp : '[' ∉ p) (hlast : ∀ h : p ≠ [], isBlank (p.getLast h) = false) :
    Passes desktopMark p rest := by
  induction p with
  | nil => exact Passes.nil
  | cons c p ih =>
      have hne : c :: p ≠ [] := List.cons_ne_nil c p
      have hsome : ∃ d ∈ c :: p, isBlank d = false :=
        ⟨_, List.getLast_mem hne, hlast hne⟩
      -- Blanks are read over up to a character of the text itself, which is no bracket.
      have hnone : desktopMark (c :: (p ++ rest)) = none := by
        apply desktopMark_eq_none
        rw [← List.cons_append, dropBlanks_append_of_exists hsome]
        cases hdrop : dropBlanks (c :: p) with
        | nil =>
            obtain ⟨d, hd, hblank⟩ := hsome
            have hall := List.dropWhile_eq_nil_iff.mp hdrop d hd
            rw [hblank] at hall
            cases hall
        | cons d tail =>
            apply dropLiteral?_eq_none_of_head
            have hmem : d ∈ c :: p := by
              have hsuffix : dropBlanks (c :: p) <:+ c :: p := List.dropWhile_suffix _
              rw [hdrop] at hsuffix
              exact hsuffix.mem List.mem_cons_self
            rintro rfl
            exact hp hmem
      apply Passes.cons hnone
      apply ih
      · intro hmem
        exact hp (List.mem_cons_of_mem c hmem)
      · intro htail
        rw [← List.getLast_cons htail]
        exact hlast hne

/-- Blanks pass if what follows them is no desktop mark. -/
theorem passes_desktop_of_blank (hp : ∀ c ∈ p, isBlank c = true)
    (h : dropLiteral? "[PC]" (dropBlanks rest) = none) : Passes desktopMark p rest := by
  induction p with
  | nil => exact Passes.nil
  | cons c p ih =>
      apply Passes.cons
      · apply desktopMark_eq_none
        rw [← List.cons_append, dropBlanks_append_of_blank hp]
        exact h
      · exact ih fun d hd => hp d (List.mem_cons_of_mem c hd)

/-! ## Where one begins -/

/-- **A desktop mark** takes the blanks on both sides along. -/
theorem takes_desktop {lead behind : List Char} (hlead : ∀ c ∈ lead, isBlank c = true)
    (hbehind : ∀ c ∈ behind, isBlank c = true) (hrest : rest.takeWhile isBlank = []) :
    Takes desktopMark (lead ++ (['[', 'P', 'C', ']'] ++ behind)) () rest := by
  have htext : lead ++ (['[', 'P', 'C', ']'] ++ behind) ++ rest
      = lead ++ '[' :: ('P' :: 'C' :: ']' :: (behind ++ rest)) := by
    simp
  have htake := takeWhile_run hlead (d := '[') (by decide) ('P' :: 'C' :: ']' :: (behind ++ rest))
  have hdrop := dropWhile_run hlead (d := '[') (by decide) ('P' :: 'C' :: ']' :: (behind ++ rest))
  have hliteral : dropLiteral? "[PC]" ('[' :: 'P' :: 'C' :: ']' :: (behind ++ rest))
      = some (behind ++ rest) := rfl
  have hblanks : (behind ++ rest).takeWhile isBlank = behind := by
    rw [List.takeWhile_append_of_pos hbehind, hrest, List.append_nil]
  have hmark : desktopMark (lead ++ (['[', 'P', 'C', ']'] ++ behind) ++ rest)
      = some ((), (lead ++ (['[', 'P', 'C', ']'] ++ behind)).length) := by
    rw [htext]
    unfold desktopMark
    simp only [htake, hdrop, hliteral, hblanks, Option.map_some, Option.some.injEq, Prod.mk.injEq,
      true_and]
    simp
    omega
  apply pieces_append_of_some _ hmark
  exact List.append_ne_nil_of_right_ne_nil _ (List.cons_ne_nil _ _)

/-! ## Trails -/

/-- A trail without blanks in front begins with a bracket, if it has any text. -/
theorem takeWhile_markers (markers : List (Marker stage × Gap)) :
    (markers.flatMap fun m => m.1.text ++ m.2.chars).takeWhile isBlank = [] := by
  cases markers with
  | nil => rfl
  | cons m markers =>
      obtain ⟨inner, htext, -⟩ := m.1.text_eq
      rw [List.flatMap_cons, htext]
      exact List.takeWhile_cons_of_neg (by decide)

/-- A version passes, and so do the blanks in front of it. -/
theorem passes_desktop_version (g : Gap) {first second : Char}
    (letters : isStage stage first second = true) (v : Version) (rest : List Char) :
    Passes desktopMark (g.chars ++ (Marker.version first second letters v).text) rest := by
  have hsecond : second ≠ 'C' := by
    rcases second_of_isStage letters with rfl | rfl | rfl <;> decide
  have hnone : ∀ s, dropLiteral? "[PC]" (dropBlanks ('[' :: first :: second :: s)) = none := by
    intro s
    rw [dropBlanks_cons_of_notBlank (by decide)]
    exact dropLiteral?_eq_none_of_third hsecond
  have hmarker : Passes desktopMark (Marker.version first second letters v).text rest := by
    obtain ⟨inner, htext, hinner⟩ := (Marker.version first second letters v).text_eq
    have hhead : desktopMark ((Marker.version first second letters v).text ++ rest) = none :=
      desktopMark_eq_none (hnone _)
    rw [htext] at hhead ⊢
    apply Passes.cons hhead
    apply passes_desktop_of_getLast
    · intro hmem
      rcases List.mem_append.mp hmem with hmem | hmem
      · exact (hinner _ hmem).1 rfl
      · exact absurd (List.mem_singleton.mp hmem) (by decide)
    · intro hne
      rw [List.getLast_concat]
      decide
  exact Passes.append (passes_desktop_of_blank g.isBlank_of_mem (hnone _)) hmarker

/-- **Desktop marks of a trail.** Where they are replaced by blanks, a trail of the same versions is left,
    with nothing but versions in it. Induction on the markers: a desktop mark joins what follows it to
    the blanks of the replacement, and a version stays with the blanks in front of it. -/
theorem exists_trail_of_replaceMarks (replacement : Gap) (t : Trail stage) (h : t.expressions = []) :
    ∃ t' : Trail stage, replaceMarks desktopMark replacement.chars t.text = t'.text ∧
      t'.versions = t.versions ∧ ∀ m ∈ t'.markers, m.1.version?.isSome := by
  obtain ⟨lead, markers⟩ := t
  induction markers generalizing lead with
  | nil =>
      refine ⟨⟨lead, []⟩, ?_, rfl, fun m hm => by cases hm⟩
      have hpasses : Passes desktopMark lead.chars [] :=
        passes_desktop_of_blank lead.isBlank_of_mem rfl
      show replaceMarks desktopMark replacement.chars (lead.chars ++ []) = lead.chars ++ []
      rw [hpasses.replaceMarks]
      rfl
  | cons m markers ih =>
      obtain ⟨m, gap⟩ := m
      cases m with
      | desktop =>
          obtain ⟨t', htext, hversions, hall⟩ := ih Gap.none h
          refine ⟨⟨replacement.append t'.lead, t'.markers⟩, ?_, hversions, hall⟩
          have hline : (⟨lead, (Marker.desktop, gap) :: markers⟩ : Trail stage).text
              = (lead.chars ++ (['[', 'P', 'C', ']'] ++ gap.chars))
                ++ (⟨Gap.none, markers⟩ : Trail stage).text := by
            simp [Trail.text, Marker.text, Gap.none]
          have htakes : Takes desktopMark (lead.chars ++ (['[', 'P', 'C', ']'] ++ gap.chars)) ()
              (⟨Gap.none, markers⟩ : Trail stage).text :=
            takes_desktop lead.isBlank_of_mem gap.isBlank_of_mem (takeWhile_markers markers)
          rw [hline, htakes.replaceMarks, htext]
          exact (List.append_assoc _ _ _).symm
      | version first second letters v =>
          obtain ⟨t', htext, hversions, hall⟩ := ih gap h
          refine ⟨⟨lead, (Marker.version first second letters v, t'.lead) :: t'.markers⟩, ?_, ?_, ?_⟩
          · have hline : (⟨lead, (Marker.version first second letters v, gap) :: markers⟩ :
                  Trail stage).text
                = (lead.chars ++ (Marker.version first second letters v).text)
                  ++ (⟨gap, markers⟩ : Trail stage).text := by
              simp [Trail.text]
            rw [hline, (passes_desktop_version lead letters v _).replaceMarks, htext]
            simp [Trail.text]
          · exact congrArg (v.chars :: ·) hversions
          · intro m hm
            rcases List.mem_cons.mp hm with rfl | hm
            · rfl
            · exact hall m hm
      | init => cases h

/-! ## Lines -/

/-- **The plain line of a texture coordinate.** Without desktop marks and versions, only blanks are left
    of a trail. -/
theorem exists_blank_plain {front : List Char} (hfront : '[' ∉ front)
    (hlast : ∀ h : front ≠ [], isBlank (front.getLast h) = false) (t : Trail stage)
    (h : t.expressions = []) :
    ∃ blanks, (∀ c ∈ blanks, isBlank c = true) ∧
      replaceMarks (versionMark stage) [] (replaceMarks desktopMark [' '] (front ++ t.text))
        = front ++ blanks := by
  -- Desktop marks go first and leave a trail of versions, then the versions go.
  obtain ⟨t', htext, -, hall⟩ := exists_trail_of_replaceMarks Gap.space t h
  have hmark := bracketed_versionMark stage
  have hdesktop : replaceMarks desktopMark [' '] (front ++ t.text) = front ++ t'.text := by
    rw [(passes_desktop_of_getLast hfront hlast).replaceMarks, ← htext]
    rfl
  have hsense : ∀ item ∈ t'.items, item.1.version?.isSome := by
    intro item hitem
    obtain ⟨m, hm, rfl⟩ := List.mem_map.mp hitem
    exact hall m hm
  refine ⟨t'.lead.chars ++ t'.items.flatMap Prod.snd, ?_, ?_⟩
  · intro c hc
    rcases List.mem_append.mp hc with hc | hc
    · exact t'.lead.isBlank_of_mem c hc
    · obtain ⟨item, hitem, hmem⟩ := List.mem_flatMap.mp hc
      obtain ⟨m, -, rfl⟩ := List.mem_map.mp hitem
      exact m.2.isBlank_of_mem c hmem
  · rw [hdesktop, (hmark.passes hfront).replaceMarks, t'.text_eq_spaced,
      (t'.lead.passes hmark _).replaceMarks,
      replaceMarks_spaced (fun item _ => reads_version item.1) hsense (t'.passes_items hmark)]

/-- **The body of a skip directive.** Up to the first version and without desktop marks, only blanks are
    left of a trail. -/
theorem exists_blank_body {front : List Char} (hfront : '[' ∉ front)
    (hlast : ∀ h : front ≠ [], isBlank (front.getLast h) = false) (t : Trail stage)
    (h : t.expressions = []) :
    ∃ blanks, (∀ c ∈ blanks, isBlank c = true) ∧
      replaceMarks desktopMark [] (beforeMark (versionMark stage) (front ++ t.text))
        = front ++ blanks := by
  have hmark := bracketed_versionMark stage
  -- What stands before the first version is a trail of desktop marks alone.
  let early : Trail stage := ⟨t.lead, t.markers.takeWhile fun m => m.1.version?.isNone⟩
  have hbefore : beforeMark (versionMark stage) (front ++ t.text) = front ++ early.text := by
    rw [(hmark.passes hfront).beforeMark, t.text_eq_spaced, (t.lead.passes hmark _).beforeMark,
      beforeMark_spaced (fun item _ => reads_version item.1) (t.passes_items hmark),
      early.text_eq_spaced]
    unfold Trail.items
    rw [List.takeWhile_map]
    rfl
  have hversions : early.versions = [] := by
    apply List.filterMap_eq_nil_iff.mpr
    intro m hm
    have hnone : m.1.version?.isNone = true :=
      List.mem_takeWhile_imp (p := fun m : Marker stage × Gap => m.1.version?.isNone) hm
    exact Option.isNone_iff_eq_none.mp hnone
  have hexpressions : early.expressions = [] := by
    apply List.filterMap_eq_nil_iff.mpr
    intro m hm
    exact List.filterMap_eq_nil_iff.mp h m ((List.takeWhile_prefix _).mem hm)
  obtain ⟨t', htext, hsame, hall⟩ := exists_trail_of_replaceMarks Gap.none early hexpressions
  -- Once those are gone no marker is left, since only versions would have stayed.
  have hmarkers : t'.markers = [] := by
    apply List.eq_nil_iff_forall_not_mem.mpr
    intro m hm
    rw [hversions] at hsame
    have hnone := List.filterMap_eq_nil_iff.mp hsame m hm
    have hsome := hall m hm
    rw [hnone] at hsome
    cases hsome
  refine ⟨t'.lead.chars, t'.lead.isBlank_of_mem, ?_⟩
  have hleft : t'.text = t'.lead.chars := by
    unfold Trail.text
    rw [hmarkers]
    exact List.append_nil _
  rw [hbefore, (passes_desktop_of_getLast hfront hlast).replaceMarks, ← hleft, ← htext]
  rfl

end ShaderCombos.Directive
