import Mathlib.Data.List.TakeWhile
import ShaderCombos.Proofs.FileSystem.Growth
import ShaderCombos.Proofs.Naming

/-!
# `Proofs.FileSystem.Neighbour` — where the neighbours of a file are

A path that leads to a file tells where the neighbours of the file are: the directory of the path, spelled as
it may be, leads to the directory that the way to the file has come through (`exists_way_neighbour`). So the
outcome of looking for a neighbour rests on what stands in one location (`Way.find_eq`), although the way is
looked up again each time.

## Contents
- **Spelling.** `isAbsolute_eq`, `segments_child`, `segments_neighbour`.
- **Ways.** `Way`, `exists_way_neighbour`.
- **Looking for a neighbour.** `Way.grows`, `Way.find_eq`.
-/

namespace ShaderCombos

/-! ## Spelling -/

namespace Path

variable {p base : Path} {name : String} {first last : List Char} {before rest : List (List Char)}

theorem slash_notMem_of_mem_segments {segment : List Char} (h : segment ∈ p.segments) : '/' ∉ segment :=
  Text.notMem_of_mem_splitOn h

/-- A path of several segments starts at the root exactly if the first segment is empty. -/
theorem isAbsolute_eq (h : p.segments = first :: rest) (hrest : rest ≠ []) :
    p.isAbsolute = decide (first = []) := by
  obtain ⟨second, others, rfl⟩ := List.exists_cons_of_ne_nil hrest
  have htext : p.text.toList = first ++ '/' :: ['/'].intercalate (second :: others) := by
    rw [← p.intercalate_segments, h, List.intercalate_cons_cons, List.append_assoc]
    rfl
  have hslash : '/' ∉ first := slash_notMem_of_mem_segments (p := p) (by simp [h])
  unfold isAbsolute
  rw [htext]
  cases first with
  | nil => rfl
  | cons c cs =>
      have hc : c ≠ '/' := by
        rintro rfl
        simp at hslash
      simp [hc]

/-- The segments of a path that holds others between slashes. -/
theorem segments_ofList {segments : List (List Char)} (hslash : ∀ s ∈ segments, '/' ∉ s)
    (hsome : segments ≠ []) : segments = Path.segments ⟨String.ofList (['/'].intercalate segments)⟩ := by
  unfold Path.segments
  rw [String.toList_ofList, List.splitOn_intercalate '/' hslash hsome]

/-- A name in a directory whose last segment is not empty follows a slash. -/
theorem segments_child (hbase : base.segments = before ++ [last]) (hlast : last ≠ [])
    (hslash : '/' ∉ name.toList) :
    (base.child name).segments = base.segments ++ [name.toList] := by
  have hjoined : base.child name = ⟨base.text ++ "/" ++ name⟩ := by
    unfold child join
    rw [isAbsolute_of_notMem hslash]
    simp only [Bool.false_eq_true, if_false]
    split
    · next hempty =>
      -- An empty directory has one empty segment.
      have hsegments : base.segments = [[]] := by
        unfold segments
        rw [List.getLast?_eq_none_iff.mp hempty]
        rfl
      rw [hsegments] at hbase
      exact absurd (by simpa using congrArg List.getLast? hbase) hlast
    · next hslashEnd =>
      obtain ⟨front, hfront⟩ := List.getLast?_eq_some_iff.mp hslashEnd
      have hsegments : base.segments = front.splitOn '/' ++ [[]] := by
        unfold segments
        rw [hfront]
        exact List.splitOn_append_cons_self front []
      rw [hsegments] at hbase
      exact absurd (by simpa using congrArg List.getLast? hbase) hlast
    · rfl
  rw [hjoined]
  unfold segments
  have htext : (base.text ++ "/" ++ name).toList = base.text.toList ++ '/' :: name.toList := by
    simp
  rw [htext, List.splitOn_append_cons_self, List.splitOn_eq_singleton hslash]

section

variable (hlast : p.namedFromLast = last :: before) (hslash : '/' ∉ name.toList)

include hlast hslash

/-- Where a path has one name, its directory is what the path starts from. -/
theorem segments_neighbour_of_unnamed (hnone : before.dropWhile isVoid = []) :
    ∃ voids, (p.directory.child name).segments = voids ++ [name.toList] ∧
      (∀ s ∈ voids, isVoid s = true) ∧ (p.directory.child name).isAbsolute = p.isAbsolute := by
  have hdirectory : p.directory = ⟨String.ofList p.anchor⟩ := by
    unfold directory parent?
    simp only [hlast, hnone]
    rfl
  rw [hdirectory]
  cases habsolute : p.isAbsolute with
  | true =>
      have hchild : child ⟨String.ofList p.anchor⟩ name = ⟨"/" ++ name⟩ := by
        simp [anchor, habsolute, child, join, isAbsolute_of_notMem hslash]
      have hsegments : (child ⟨String.ofList p.anchor⟩ name).segments = [[], name.toList] := by
        have htext : ("/" ++ name).toList = [] ++ '/' :: name.toList := by simp
        rw [hchild]
        unfold segments
        rw [htext, List.splitOn_append_cons_self, List.splitOn_eq_singleton hslash]
        rfl
      exact ⟨[[]], hsegments, by simp [isVoid], isAbsolute_eq hsegments (by simp)⟩
  | false =>
      by_cases hdot : p.segments.head? = some ['.']
      · have hanchor : p.anchor = ['.'] := by simp [anchor, habsolute, hdot]
        have hsegments : (child ⟨String.ofList p.anchor⟩ name).segments = [['.'], name.toList] := by
          have hhere : segments ⟨String.ofList ['.']⟩ = [] ++ [['.']] := by decide
          rw [hanchor, segments_child hhere (by simp) hslash, hhere]
          rfl
        exact ⟨[['.']], hsegments, by simp [isVoid], isAbsolute_eq hsegments (by simp)⟩
      · have hchild : child ⟨String.ofList p.anchor⟩ name = ⟨name⟩ := by
          simp [anchor, habsolute, hdot, child, join, isAbsolute_of_notMem hslash]
        rw [hchild]
        exact ⟨[], segments_of_notMem hslash, by simp, isAbsolute_of_notMem hslash⟩

/-- Where a path has several names, its directory ends in the last but one. -/
theorem segments_neighbour_of_named {n : List Char} {ns : List (List Char)}
    (hnamed : before.dropWhile isVoid = n :: ns) :
    (p.directory.child name).segments = (n :: ns).reverse ++ [name.toList] ∧
      (p.directory.child name).isAbsolute = p.isAbsolute := by
  have hdirectory : p.directory = ⟨String.ofList (['/'].intercalate (n :: ns).reverse)⟩ := by
    unfold directory parent?
    simp only [hlast, hnamed]
    rfl
  have hn : isVoid n = false := by
    have hhead := List.head?_dropWhile_not isVoid before
    simpa [hnamed] using hhead
  obtain ⟨-, behind, hsegments, -⟩ := FileSystem.segments_of_dropWhile hlast
  have hbefore : before.reverse = (n :: ns).reverse ++ (before.takeWhile isVoid).reverse := by
    rw [← List.reverse_append, ← hnamed, List.takeWhile_append_dropWhile]
  rw [hbefore] at hsegments
  have hparent : p.directory.segments = (n :: ns).reverse := by
    rw [hdirectory]
    refine (segments_ofList (fun s hs => slash_notMem_of_mem_segments (p := p) ?_) (by simp)).symm
    rw [hsegments, List.append_assoc]
    exact List.mem_append_left _ hs
  have hchild : (p.directory.child name).segments = (n :: ns).reverse ++ [name.toList] := by
    rw [segments_child (hparent.trans List.reverse_cons) ?_ hslash, hparent]
    rintro rfl
    cases hn
  refine ⟨hchild, ?_⟩
  -- Both paths begin with the first of the names.
  obtain ⟨first, rest, hfirst⟩ := List.exists_cons_of_ne_nil (show (n :: ns).reverse ≠ [] by simp)
  rw [hfirst, List.cons_append] at hchild
  rw [hfirst, List.cons_append, List.cons_append] at hsegments
  rw [isAbsolute_eq hchild (by simp), isAbsolute_eq hsegments (by simp)]

/-- **The segments of a neighbour** are those before the last name of a path and the new name, but for
    segments that name nothing. -/
theorem segments_neighbour :
    ∃ way voids voids', before.reverse = way ++ voids ∧
      (p.directory.child name).segments = (way ++ voids') ++ [name.toList] ∧
      (∀ s ∈ voids, isVoid s = true) ∧ (∀ s ∈ voids', isVoid s = true) ∧
      (p.directory.child name).isAbsolute = p.isAbsolute := by
  have hskipped : ∀ s ∈ (before.takeWhile isVoid).reverse, isVoid s = true := fun s hs =>
    List.all_eq_true.mp List.all_takeWhile s (List.mem_reverse.mp hs)
  have hbefore : before.reverse
      = (before.dropWhile isVoid).reverse ++ (before.takeWhile isVoid).reverse := by
    rw [← List.reverse_append, List.takeWhile_append_dropWhile]
  cases hnamed : before.dropWhile isVoid with
  | nil =>
      obtain ⟨voids, hsegments, hvoid, habsolute⟩ := segments_neighbour_of_unnamed hlast hslash hnamed
      rw [hnamed] at hbefore
      exact ⟨[], _, voids, hbefore, hsegments, hskipped, hvoid, habsolute⟩
  | cons n ns =>
      obtain ⟨hsegments, habsolute⟩ := segments_neighbour_of_named hlast hslash hnamed
      rw [hnamed] at hbefore
      refine ⟨_, _, [], hbefore, ?_, hskipped, by simp, habsolute⟩
      rw [List.append_nil]
      exact hsegments

end

end Path

/-! ## Ways -/

namespace FileSystem

variable {W D : Set Location} {fs fs' : FileSystem} {p : Path} {loc dir : Location}
  {before : List (List Char)} {last : List Char}

/-- A path ends in a name, and the way to that name leads to a directory. -/
structure Way (fs : FileSystem) (p : Path) (dir : Location) (last : List Char) : Prop where
  lastName : ∃ before, LastName p before last ∧ fs.follow (fs.start p) before = .ok dir
  isDirectory : fs.isDirectory dir = true

/-- **A file's neighbours have a directory**, namely the one that the way to the file goes through. -/
theorem exists_way_neighbour (h : fs.locate p = .ok loc) (hfile : fs.isDirectory loc = false)
    {name : String} (hslash : '/' ∉ name.toList)
    (hend : LastName (p.directory.child name) before last) :
    ∃ dir, Way fs (p.directory.child name) dir last := by
  obtain ⟨-, -, hfollow⟩ := except_bind_eq_ok.mp h
  cases hlast : p.namedFromLast with
  | nil =>
      -- A path without names leads to a directory.
      have hvoid : ∀ s ∈ p.segments, Path.isVoid s = true := by
        intro s hs
        have hnamed := List.dropWhile_eq_nil_iff.mp hlast
        exact hnamed s (List.mem_reverse.mpr hs)
      obtain ⟨first, rest, hsegments⟩ := List.exists_cons_of_ne_nil p.segments_ne_nil
      have hloc := follow_voids hvoid hfollow
      rw [hsegments] at hfollow
      obtain ⟨hdir, -⟩ := follow_cons_eq_ok.mp hfollow
      rw [hloc, hdir] at hfile
      cases hfile
  | cons named front =>
      obtain ⟨-, behind, hsegments, -⟩ := segments_of_dropWhile hlast
      rw [hsegments, follow_append_eq_ok] at hfollow
      obtain ⟨dir, hfront, hrest⟩ := hfollow
      obtain ⟨hdir, -⟩ := follow_cons_eq_ok.mp hrest
      obtain ⟨way, voids, voids', hsplit, hneighbour, hvoid, hvoid', habsolute⟩ :=
        Path.segments_neighbour hlast hslash
      refine ⟨dir, ⟨before, hend, ?_⟩, hdir⟩
      have hbefore : before = way ++ voids' := by
        have hsame := hend.segments.symm.trans hneighbour
        exact (List.append_inj' hsame rfl).1
      have hstart : fs.start (p.directory.child name) = fs.start p := by
        unfold start
        rw [habsolute]
      rw [hsplit, follow_append_eq_ok] at hfront
      obtain ⟨m, hway, hm⟩ := hfront
      obtain rfl := follow_voids hvoid hm
      rw [hbefore, hstart, follow_append_eq_ok]
      exact ⟨dir, hway, follow_of_voids hdir hvoid'⟩

/-! ## Looking for a neighbour -/

theorem Way.grows (h : Way fs p dir last) (hgrows : Grows W D fs fs') : Way fs' p dir last := by
  obtain ⟨before, hend, hfollow⟩ := h.lastName
  refine ⟨⟨before, hend, ?_⟩, hgrows.isDirectory h.isDirectory⟩
  rw [hgrows.start]
  exact hgrows.follow hfollow

/-- **What is found of a neighbour** is what stands in one location, unless the path is not looked up at all. -/
theorem Way.find_eq (h : Way fs p dir last) :
    fs.find p = (checkPath p >>= fun _ =>
      if isNameTooLong (String.ofList last) then .error .nameTooLong
      else
        match fs.node? (dir ++ [String.ofList last]) with
        | some node => .ok (dir ++ [String.ofList last], node)
        | none => .error .notFound) := by
  obtain ⟨before, hend, hfollow⟩ := h.lastName
  unfold find locate
  cases checkPath p with
  | error e => rfl
  | ok u =>
      have hlast : fs.follow (fs.start p) p.segments = fs.follow dir [last] := by
        rw [hend.segments, follow_append, hfollow]
        rfl
      show (fs.follow (fs.start p) p.segments >>= _) = _
      rw [hlast]
      simp only [follow, h.isDirectory, hend.notVoid, hend.notUp, Bool.not_true, Bool.false_eq_true, if_false]
      cases isNameTooLong (String.ofList last) with
      | true => rfl
      | false =>
          cases hnode : fs.node? (dir ++ [String.ofList last]) with
          | none => rfl
          | some node =>
              show (match fs.node? (dir ++ [String.ofList last]) with
                | some node => Except.ok (dir ++ [String.ofList last], node)
                | none => Except.error FileError.notFound) = _
              rw [hnode]
              rfl

end FileSystem

end ShaderCombos
