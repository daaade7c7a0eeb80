import ShaderCombos.Header
import ShaderCombos.BuildId
import ShaderCombos.Proofs.Source.Inclusion
import ShaderCombos.Proofs.Source.Composition
import ShaderCombos.Proofs.Units

/-!
# `Proofs.Source.Text` — what the text of a flattened source determines

An identifier is computed from the text of a flattened source, that is, from its lines with line feeds between
them. No line holds a line feed (`lineFeed_notMem_of_assemble`), so the text tells the lines, but for one
collision: no lines and one empty line have the same text (`text_eq_iff`). The collision cannot be seen in a
unit, because an empty line declares nothing.

So two sources of one text are one to everything that comes after flattening (`ofFile_of_text_eq`): the same
fault is reported of both, or they are read into units that differ in the names of their files only, and
those names are in no header. A shader is passed over because its text has been hashed before; the header it
would get is the one that it has got.

## Contents
- **Lines.** `lineFeed_notMem_of_flatten`, `lineFeed_notMem_of_assemble`.
- **Texts.** `text_eq_iff`, `hashInput_eq_iff`.
- **Units.** `ShaderUnit.ofSource_of_padded`, `ofFile_of_text_eq`.
-/

namespace ShaderCombos

namespace Source

variable {fs fs' : FileSystem} {p p' : Path} {source source' : Source}

/-! ## Lines -/

/-- Flattening makes no line feeds. By induction on the walk. -/
theorem lineFeed_notMem_of_flatten (entered : List Location) (path : Path) (lines : List String)
    (hlines : ∀ line ∈ lines, '\n' ∉ line.toList) (h : flatten fs entered path lines = .ok source) :
    ∀ line ∈ source.lines, '\n' ∉ line.toList := by
  induction entered, path, lines using walk_induction fs generalizing source with
  | nil entered path =>
      rw [flatten_nil] at h
      cases h
      intro line hline
      cases hline
  | keep entered path line rest hline ih =>
      obtain ⟨hfirst, hrest⟩ := List.forall_mem_cons.mp hlines
      obtain ⟨after, hafter, rfl⟩ := (flatten_keep_eq_ok hline).mp h
      exact List.forall_mem_cons.mpr ⟨hfirst, ih hrest hafter⟩
  | unread entered path line rest target cause hline hread =>
      rw [flatten_cons_of_unread hline hread] at h
      cases h
  | nested entered path line rest target loc text hline hread hmem =>
      rw [flatten_cons_of_read hline hread, if_pos hmem] at h
      cases h
  | descend entered path line rest target loc text hline hread hfresh ihInner ihAfter =>
      obtain ⟨-, hrest⟩ := List.forall_mem_cons.mp hlines
      obtain ⟨loc', text', inner, after, hfound, -, hinner, hafter, rfl⟩ :=
        (flatten_include_eq_ok hline).mp h
      obtain ⟨rfl, rfl⟩ : loc = loc' ∧ text = text' := by simpa using hread.symm.trans hfound
      have hinside := ihInner (fun line hline => Text.lineFeed_notMem_of_mem_lines hline) hinner
      have hbehind := ihAfter hrest hafter
      intro line hmem
      rcases List.mem_append.mp hmem with hmem | hmem
      · exact hinside line hmem
      · exact hbehind line hmem

theorem lineFeed_notMem_of_assemble (h : assemble fs p = .ok source) :
    ∀ line ∈ source.lines, '\n' ∉ line.toList := by
  obtain ⟨loc, text, hread⟩ := readTextAt_of_assemble h
  rw [assemble_eq_of_read hread] at h
  obtain ⟨body, hbody, hsource⟩ := except_bind_eq_ok.mp h
  cases hsource
  show ∀ line ∈ body.lines, '\n' ∉ line.toList
  exact lineFeed_notMem_of_flatten [loc] p (Text.lines text)
    (fun line hline => Text.lineFeed_notMem_of_mem_lines hline) hbody

/-! ## Texts -/

/-- The lines that a text has at least: where there are none, the text is that of one empty line. -/
def padded (lines : List String) : List String :=
  if lines = [] then [""] else lines

theorem padded_of_ne_nil {lines : List String} (h : lines ≠ []) : padded lines = lines :=
  if_neg h

/-- Lines without line feeds are found again in their text. -/
theorem splitOn_intercalate_lines {lines : List String} (h : ∀ line ∈ lines, '\n' ∉ line.toList) :
    (String.intercalate "\n" lines).toList.splitOn '\n' = (padded lines).map String.toList := by
  by_cases hnone : lines = []
  · subst hnone
    rfl
  · rw [padded_of_ne_nil hnone, String.toList_intercalate]
    refine List.splitOn_intercalate '\n' (fun chars hchars => ?_) (by simpa using hnone)
    obtain ⟨line, hline, rfl⟩ := List.mem_map.mp hchars
    exact h line hline

/-- **The text of a source tells its lines**, but for the difference between no lines and one empty line. -/
theorem text_eq_iff (h : ∀ line ∈ source.lines, '\n' ∉ line.toList)
    (h' : ∀ line ∈ source'.lines, '\n' ∉ line.toList) :
    source.text = source'.text ↔ padded source.lines = padded source'.lines := by
  have htext : source.text = source'.text ↔
      String.intercalate "\n" source.lines = String.intercalate "\n" source'.lines :=
    String.append_left_inj "\n"
  have hinjective : Function.Injective (List.map String.toList) :=
    List.map_injective_iff.mpr fun _ _ heq => String.toList_inj.mp heq
  rw [htext]
  constructor
  · intro heq
    apply hinjective
    rw [← splitOn_intercalate_lines h, ← splitOn_intercalate_lines h', heq]
  · intro heq
    have hsplit : (String.intercalate "\n" source.lines).toList.splitOn '\n'
        = (String.intercalate "\n" source'.lines).toList.splitOn '\n' := by
      rw [splitOn_intercalate_lines h, splitOn_intercalate_lines h', heq]
    have hjoin := congrArg (List.intercalate ['\n']) hsplit
    rw [List.intercalate_splitOn, List.intercalate_splitOn] at hjoin
    exact String.toList_inj.mp hjoin

/-- Sources are hashed alike before the hash is taken exactly if they have one text. -/
theorem hashInput_eq_iff : BuildIds.hashInput source = BuildIds.hashInput source' ↔
    source.text = source'.text := by
  constructor
  · intro h
    apply String.toByteArray_inj.mp
    exact ByteArray.ext (Array.toList_inj.mp h)
  · intro h
    unfold BuildIds.hashInput
    rw [h]

end Source

/-! ## Units -/

variable {fs fs' : FileSystem} {p p' : Path} {source source' : Source} {name : String} {stage : Stage}
  {model : ShaderModel}

/-- An empty line declares nothing. -/
theorem Declarations.ofLines_padded (filter : Directive.Filter) (lines : List String) :
    ofLines filter (Source.padded lines) = ofLines filter lines := by
  by_cases hnone : lines = []
  · subst hnone
    rfl
  · rw [Source.padded_of_ne_nil hnone]

theorem ShaderUnit.ofFile_of_assemble (h : Source.assemble fs p = .ok source) :
    ofFile fs p name stage model = ofSource source name stage model := by
  unfold ofFile
  rw [h]
  rfl

/-- What is read of lines is read of a source, whatever its files are. -/
theorem ShaderUnit.ofSource_of_padded (h : Source.padded source.lines = Source.padded source'.lines) :
    ofSource source' name stage model
      = (ofSource source name stage model).map fun u => { u with files := source'.files } := by
  have hfound : Declarations.ofLines (Directive.Filter.forModel stage model) source'.lines
      = Declarations.ofLines (Directive.Filter.forModel stage model) source.lines := by
    rw [← Declarations.ofLines_padded, ← h, Declarations.ofLines_padded]
  unfold ofSource
  simp only [hfound]
  cases Declarations.ofLines (Directive.Filter.forModel stage model) source.lines with
  | error f => rfl
  | ok found => rfl

/-- The names of the files of a unit are not in its header. -/
theorem Header.text_files (u : ShaderUnit) (files : List String) :
    Header.text { u with files := files } = Header.text u :=
  rfl

/-- **What is hashed of a flattened source determines the header.** What is hashed of two sources that can be
    flattened is the same exactly if they have one text. Then the same fault is reported of both, for any
    name, stage and model; or they are read into units that differ in the names of their files only, and one
    header is made of both, or one failure is. -/
theorem ofFile_of_text_eq (h : Source.assemble fs p = .ok source)
    (h' : Source.assemble fs' p' = .ok source') :
    (BuildIds.hashInput source = BuildIds.hashInput source' ↔ source.text = source'.text) ∧
      (source.text = source'.text → ∀ name stage model,
        (∃ f, ShaderUnit.ofFile fs p name stage model = .error f ∧
          ShaderUnit.ofFile fs' p' name stage model = .error f) ∨
        ∃ u u', ShaderUnit.ofFile fs p name stage model = .ok u ∧
          ShaderUnit.ofFile fs' p' name stage model = .ok u' ∧
            u' = { u with files := u'.files } ∧ Header.text u' = Header.text u) := by
  refine ⟨Source.hashInput_eq_iff, ?_⟩
  intro htext name stage model
  have hlines := (Source.text_eq_iff (Source.lineFeed_notMem_of_assemble h)
    (Source.lineFeed_notMem_of_assemble h')).mp htext
  rw [ShaderUnit.ofFile_of_assemble h, ShaderUnit.ofFile_of_assemble h',
    ShaderUnit.ofSource_of_padded hlines]
  cases ShaderUnit.ofSource source name stage model with
  | error f => exact Or.inl ⟨f, rfl, rfl⟩
  | ok u =>
      exact Or.inr ⟨u, { u with files := source'.files }, rfl, rfl, rfl, Header.text_files u source'.files⟩

/-! The file without lines and the file with one empty line. -/

namespace EmptyLine

def files : FileSystem where
  nodes := [(["a.fxc"], .file "".toUTF8 newFileMode), (["b.fxc"], .file "\n".toUTF8 newFileMode)]

theorem assemble_none : Source.assemble files ⟨"a.fxc"⟩ = .ok ⟨[], ["a.fxc"]⟩ := by
  have hread : files.readTextAt ⟨"a.fxc"⟩ = .ok (["a.fxc"], "") := by decide +kernel
  have hlines : ∀ line ∈ Text.lines "", includeTarget? line = none := by decide +kernel
  exact Source.assemble_of_forall_none hread hlines

theorem assemble_one : Source.assemble files ⟨"b.fxc"⟩ = .ok ⟨[""], ["b.fxc"]⟩ := by
  have hread : files.readTextAt ⟨"b.fxc"⟩ = .ok (["b.fxc"], "\n") := by decide +kernel
  have hlines : ∀ line ∈ Text.lines "\n", includeTarget? line = none := by decide +kernel
  exact Source.assemble_of_forall_none hread hlines

end EmptyLine

theorem ofFile_of_text_eq_empty_line :
    Source.assemble EmptyLine.files ⟨"a.fxc"⟩ = .ok ⟨[], ["a.fxc"]⟩ ∧
      Source.assemble EmptyLine.files ⟨"b.fxc"⟩ = .ok ⟨[""], ["b.fxc"]⟩ ∧
        BuildIds.hashInput ⟨[], ["a.fxc"]⟩ = BuildIds.hashInput ⟨[""], ["b.fxc"]⟩ ∧
        Source.text ⟨[], ["a.fxc"]⟩ = Source.text ⟨[""], ["b.fxc"]⟩ ∧
          ((∃ f, ShaderUnit.ofFile EmptyLine.files ⟨"a.fxc"⟩ "a" .pixel .three = .error f ∧
              ShaderUnit.ofFile EmptyLine.files ⟨"b.fxc"⟩ "a" .pixel .three = .error f) ∨
            ∃ u u', ShaderUnit.ofFile EmptyLine.files ⟨"a.fxc"⟩ "a" .pixel .three = .ok u ∧
              ShaderUnit.ofFile EmptyLine.files ⟨"b.fxc"⟩ "a" .pixel .three = .ok u' ∧
                u' = { u with files := u'.files } ∧ Header.text u' = Header.text u) := by
  have htext : Source.text ⟨[], ["a.fxc"]⟩ = Source.text ⟨[""], ["b.fxc"]⟩ := rfl
  obtain ⟨hinput, hsame⟩ := ofFile_of_text_eq EmptyLine.assemble_none EmptyLine.assemble_one
  exact ⟨EmptyLine.assemble_none, EmptyLine.assemble_one, hinput.mpr htext, htext,
    hsame htext "a" .pixel .three⟩

end ShaderCombos
