/-!
# Lines

A line ends in a line feed, with a carriage return before it taken off. A carriage return elsewhere
is an ordinary character, and a last line needs no line feed.

* `lines`: the lines of a text. `lineFeed_notMem_of_mem_lines`: none of them holds a line feed.
* `unlines`: the text of some lines, each with its line feed.
-/

namespace ShaderCombos.Text

/-- A line without one carriage return at its end. -/
def dropReturn (line : List Char) : List Char :=
  if line.getLast? = some '\r' then line.dropLast else line

theorem mem_of_mem_dropReturn {c : Char} {line : List Char} (h : c ∈ dropReturn line) : c ∈ line := by
  unfold dropReturn at h
  split at h
  · exact (List.dropLast_sublist _).mem h
  · exact h

/-- The lines of a text, without their line ends. What follows the last line feed is a line if it is
not empty, and has no line end to lose. -/
def lines (s : String) : List String :=
  let parts := s.toList.splitOn '\n'
  let last := parts.getLastD []
  (parts.dropLast.map dropReturn ++ if last.isEmpty then [] else [last]).map String.ofList

/-- A part between separators does not hold the separator. -/
theorem notMem_of_mem_splitOn {α : Type} [BEq α] [LawfulBEq α] {a : α} {s part : List α}
    (h : part ∈ s.splitOn a) : a ∉ part := by
  induction s generalizing part with
  | nil => simp_all
  | cons c rest ih =>
    rw [List.splitOn_cons_eq_if_modifyHead] at h
    split at h
    · rcases List.mem_cons.1 h with rfl | h
      · simp
      · exact ih h
    · next hc =>
      cases hs : rest.splitOn a with
      | nil => exact absurd hs (List.splitOn_ne_nil _ _)
      | cons first more =>
        rw [hs] at h ih
        rcases List.mem_cons.1 h with rfl | h
        · have hca : a ≠ c := fun e => hc (by simp [e])
          simpa [hca] using ih (List.mem_cons_self ..)
        · exact ih (List.mem_cons_of_mem _ h)

theorem lineFeed_notMem_of_mem_lines {s line : String} (h : line ∈ lines s) :
    '\n' ∉ line.toList := by
  simp only [lines, List.mem_map, List.mem_append] at h
  obtain ⟨chars, hmem, rfl⟩ := h
  rw [String.toList_ofList]
  have hne : s.toList.splitOn '\n' ≠ [] := List.splitOn_ne_nil _ _
  rcases hmem with ⟨part, hpart, rfl⟩ | hlast
  · exact fun hc =>
      notMem_of_mem_splitOn ((List.dropLast_sublist _).mem hpart) (mem_of_mem_dropReturn hc)
  · split at hlast
    · simp at hlast
    · rw [List.mem_singleton] at hlast
      subst hlast
      rw [List.getLastD_eq_getLast?, List.getLast?_eq_some_getLast hne]
      exact notMem_of_mem_splitOn (List.getLast_mem hne)

/-- The text of some lines, a line feed after each. -/
def unlines (ls : List String) : String :=
  String.join (ls.map (· ++ "\n"))

end ShaderCombos.Text
