import ShaderCombos.Proofs.Outcomes
import ShaderCombos.ShaderUnit

/-!
# `Proofs.Units` — what a unit is read from

A unit is read in two stages: its source is flattened, and the directives of the flattened lines are
collected. Proofs about units go through the second stage alone, so the two are taken apart here once.

## Contents
- **Sources.** `Source.readTextAt_of_assemble`, and `Source.assemble_of_forall_none` for a source that
  includes nothing.
- **Units.** `ShaderUnit.ofFile_eq_ok`: what a unit is read from; `ShaderUnit.ofFile_of_forall_none` and
  `ShaderUnit.ofFile_of_empty` for plain sources.
-/

namespace ShaderCombos

/-! ## Sources -/

namespace Source

/-- A source that can be flattened can be read. -/
theorem readTextAt_of_assemble {fs : FileSystem} {path : Path} {source : Source}
    (h : assemble fs path = .ok source) :
    ∃ location text, fs.readTextAt path = .ok (location, text) := by
  unfold assemble at h
  cases hread : fs.readTextAt path with
  | error e =>
      rw [hread] at h
      cases h
  | ok found => exact ⟨found.1, found.2, rfl⟩

/-- Lines that include nothing stay as they are. -/
theorem flatten_of_forall_none {fs : FileSystem} {entered : List Location} {path : Path}
    {lines : List String} (h : ∀ line ∈ lines, includeTarget? line = none) :
    flatten fs entered path lines = .ok ⟨lines, []⟩ := by
  induction lines with
  | nil =>
      rw [flatten]
  | cons line rest ih =>
      have hline : includeTarget? line = none := h line List.mem_cons_self
      have hrest := ih fun l hl => h l (List.mem_cons_of_mem _ hl)
      rw [flatten]
      split
      · rw [hrest]
        rfl
      · next target htarget =>
        rw [hline] at htarget
        cases htarget

/-- A source that includes nothing consists of its own lines. -/
theorem assemble_of_forall_none {fs : FileSystem} {path : Path} {location : Location} {text : String}
    (hread : fs.readTextAt path = .ok (location, text))
    (h : ∀ line ∈ Text.lines text, includeTarget? line = none) :
    assemble fs path = .ok ⟨Text.lines text, [path.listedName]⟩ := by
  unfold assemble
  rw [hread]
  show (flatten fs [location] path (Text.lines text) >>= _) = _
  rw [flatten_of_forall_none h]
  rfl

end Source

/-! ## Units -/

/-- **What a unit is read from.** The source is flattened, its directives are read, and the unit bears the
    name and the stage it is read for. -/
theorem ShaderUnit.ofFile_eq_ok {fs : FileSystem} {path : Path} {name : String} {stage : Stage}
    {model : ShaderModel} {u : ShaderUnit} :
    ShaderUnit.ofFile fs path name stage model = .ok u ↔
      ∃ source found, Source.assemble fs path = .ok source ∧
        Declarations.ofLines (Directive.Filter.forModel stage model) source.lines = .ok found ∧
          u = { name, stage, model
                version := (Directive.Filter.forModel stage model).version
                static := found.static
                dynamic := found.dynamic
                skipRules := found.skipRules
                centroid := found.centroid
                files := source.files } := by
  unfold ShaderUnit.ofFile ShaderUnit.ofSource
  simp only [except_bind_eq_ok, Except.ok.injEq, exists_and_left]
  constructor
  · rintro ⟨source, hsource, found, hfound, rfl⟩
    exact ⟨source, hsource, found, hfound, rfl⟩
  · rintro ⟨source, hsource, found, hfound, rfl⟩
    exact ⟨source, hsource, found, hfound, rfl⟩

/-- The unit of a source that includes nothing. -/
theorem ShaderUnit.ofFile_of_forall_none {fs : FileSystem} {path : Path} {location : Location}
    {text name : String} {stage : Stage} {model : ShaderModel} {found : Declarations}
    (hread : fs.readTextAt path = .ok (location, text))
    (hlines : ∀ line ∈ Text.lines text, includeTarget? line = none)
    (hfound : Declarations.ofLines (Directive.Filter.forModel stage model) (Text.lines text)
      = .ok found) :
    ShaderUnit.ofFile fs path name stage model = .ok
      { name, stage, model
        version := (Directive.Filter.forModel stage model).version
        static := found.static
        dynamic := found.dynamic
        skipRules := found.skipRules
        centroid := found.centroid
        files := [path.listedName] } :=
  ShaderUnit.ofFile_eq_ok.mpr
    ⟨_, found, Source.assemble_of_forall_none hread hlines, hfound, rfl⟩

/-- The unit of an empty source, which declares nothing. -/
theorem ShaderUnit.ofFile_of_empty {fs : FileSystem} {path : Path} {location : Location}
    (hread : fs.readTextAt path = .ok (location, "")) (name : String) (stage : Stage) (model : ShaderModel) :
    ShaderUnit.ofFile fs path name stage model = .ok
      { name, stage, model
        version := (Directive.Filter.forModel stage model).version
        files := [path.listedName] } := by
  have hlines : Text.lines "" = [] := rfl
  have hfound : Declarations.ofLines (Directive.Filter.forModel stage model) [] = .ok {} := rfl
  rw [← hlines] at hfound
  exact ofFile_of_forall_none hread (by simp [hlines]) hfound

end ShaderCombos
