import ShaderCombos.Proofs.Outcomes

/-!
# `Proofs.FileSystem.ReadWrite` — what a path leads to, and what a written file is read back as

A path is followed through directories only, and writing puts a file where no directory stands. So a
write disturbs no way that leads to a directory (`follow_put`), least of all the one to the written file
itself (`find_write`), and the file is read back as it was written (`read_write`).

## Contents
- **Following a path.** `Enters` is one segment, `follow_cons_eq_ok` and `follow_append_eq_ok` take a
  successful way apart.
- **Locations.** `getLast?_of_locate`: a location ends in the file name of its path.
- **Reading.** `find_eq_ok`, `readAt_eq_ok`, `readTextAt_eq_ok`.
- **Writing.** `write_eq_ok` says all that a successful write does.
-/

namespace ShaderCombos.FileSystem

variable {fs fs' : FileSystem} {p : Path}

/-! ## Following a path -/

/-- A segment leads from one location to another. -/
def Enters (fs : FileSystem) (loc : Location) (segment : List Char) (next : Location) : Prop :=
  (Path.isVoid segment = true ∧ next = loc) ∨
    (Path.isVoid segment = false ∧ Path.isUp segment = true ∧ next = loc.dropLast) ∨
    (Path.isVoid segment = false ∧ Path.isUp segment = false ∧
      isNameTooLong (String.ofList segment) = false ∧
      (fs.node? (loc ++ [String.ofList segment])).isSome ∧ next = loc ++ [String.ofList segment])

/-- Every step of a way starts at a directory. -/
theorem follow_cons_eq_ok {loc l : Location} {segment : List Char} {rest : List (List Char)} :
    fs.follow loc (segment :: rest) = .ok l ↔
      fs.isDirectory loc = true ∧ ∃ next, fs.Enters loc segment next ∧ fs.follow next rest = .ok l := by
  unfold Enters
  rw [follow]
  cases hdir : fs.isDirectory loc with
  | false => simp
  | true =>
      cases hvoid : Path.isVoid segment with
      | true => simp
      | false =>
          cases hup : Path.isUp segment with
          | true => simp
          | false =>
              cases hlong : isNameTooLong (String.ofList segment) with
              | true => simp [hlong]
              | false =>
                  cases hnode : (fs.node? (loc ++ [String.ofList segment])).isSome with
                  | false => simp [hlong, hnode]
                  | true => simp [hlong, hnode]

/-- A way is followed part by part. -/
theorem follow_append (loc : Location) (a b : List (List Char)) :
    fs.follow loc (a ++ b) = fs.follow loc a >>= fun m => fs.follow m b := by
  induction a generalizing loc with
  | nil => rfl
  | cons segment a ih =>
      simp only [List.cons_append, follow, ih]
      -- Both sides ask the same questions about the first segment.
      split
      · rfl
      · split
        · rfl
        · split
          · rfl
          · split
            · rfl
            · split <;> rfl

theorem follow_append_eq_ok {loc l : Location} {a b : List (List Char)} :
    fs.follow loc (a ++ b) = .ok l ↔ ∃ m, fs.follow loc a = .ok m ∧ fs.follow m b = .ok l := by
  rw [follow_append, except_bind_eq_ok]

/-- Segments that name nothing lead nowhere else. -/
theorem follow_voids {loc l : Location} {voids : List (List Char)}
    (hvoid : ∀ segment ∈ voids, Path.isVoid segment = true) (h : fs.follow loc voids = .ok l) :
    l = loc := by
  induction voids generalizing loc with
  | nil =>
      cases h
      rfl
  | cons segment voids ih =>
      obtain ⟨-, next, henter, hrest⟩ := follow_cons_eq_ok.mp h
      have hhere : Path.isVoid segment = true := hvoid segment (by simp)
      have hnext : next = loc := by
        rcases henter with ⟨-, rfl⟩ | ⟨hnot, -⟩ | ⟨hnot, -⟩
        · rfl
        · simp [hhere] at hnot
        · simp [hhere] at hnot
      subst hnext
      exact ih (fun s hs => hvoid s (by simp [hs])) hrest

/-- A path up to the last segment that fails a test; what follows that segment passes. -/
theorem segments_of_dropWhile {f : List Char → Bool} {last : List Char} {before : List (List Char)}
    (h : p.segments.reverse.dropWhile f = last :: before) :
    f last = false ∧ ∃ behind, p.segments = before.reverse ++ last :: behind ∧
      ∀ segment ∈ behind, f segment = true := by
  have hhead := List.head?_dropWhile_not f p.segments.reverse
  have hsplit := List.takeWhile_append_dropWhile (p := f) (l := p.segments.reverse)
  rw [h] at hhead hsplit
  refine ⟨by simpa using hhead, (p.segments.reverse.takeWhile f).reverse, ?_, ?_⟩
  · have hreverse := congrArg List.reverse hsplit
    simpa using hreverse.symm
  · intro segment hsegment
    exact List.all_eq_true.mp List.all_takeWhile segment (List.mem_reverse.mp hsegment)

/-- **A location ends in the file name of its path.** Two spellings of one file have one file name. -/
theorem getLast?_of_locate {loc : Location} {name : String} (h : fs.locate p = .ok loc)
    (hname : p.fileName? = some name) : loc.getLast? = some name := by
  obtain ⟨-, -, hfollow⟩ := except_bind_eq_ok.mp h
  unfold Path.fileName? at hname
  cases hlast : p.namedFromLast with
  | nil => simp [hlast] at hname
  | cons last before =>
      rw [hlast] at hname
      cases hup : Path.isUp last with
      | true => simp [hup] at hname
      | false =>
          have hname : String.ofList last = name := by simpa [hup] using hname
          obtain ⟨hnamed, voids, hsegments, hvoids⟩ := segments_of_dropWhile (f := Path.isVoid) hlast
          -- The way goes up to the named segment, then through it, and then nowhere else.
          rw [hsegments, follow_append_eq_ok] at hfollow
          obtain ⟨m, -, hm⟩ := hfollow
          obtain ⟨-, next, henter, hrest⟩ := follow_cons_eq_ok.mp hm
          have hnext : next = m ++ [name] := by
            rcases henter with ⟨hvoid, -⟩ | ⟨-, hisup, -⟩ | ⟨-, -, -, -, rfl⟩
            · simp [hnamed] at hvoid
            · simp [hup] at hisup
            · rw [hname]
          have hloc : loc = next := follow_voids hvoids hrest
          rw [hloc, hnext]
          simp

/-! ## Reading -/

theorem find_eq_ok {loc : Location} {node : Node} :
    fs.find p = .ok (loc, node) ↔ fs.locate p = .ok loc ∧ fs.node? loc = some node := by
  unfold find
  rw [except_bind_eq_ok]
  constructor
  · rintro ⟨loc', hlocate, h⟩
    cases hnode : fs.node? loc' with
    | none =>
        rw [hnode] at h
        cases h
    | some node' =>
        rw [hnode] at h
        cases h
        exact ⟨hlocate, hnode⟩
  · rintro ⟨hlocate, hnode⟩
    refine ⟨loc, hlocate, ?_⟩
    rw [hnode]

theorem readAt_eq_ok {loc : Location} {content : ByteArray} :
    fs.readAt p = .ok (loc, content) ↔ ∃ mode, fs.find p = .ok (loc, .file content mode) := by
  unfold readAt
  rw [except_bind_eq_ok]
  constructor
  · rintro ⟨⟨loc', node⟩, hfind, h⟩
    cases node with
    | directory mode => cases h
    | file content' mode =>
        cases h
        exact ⟨mode, hfind⟩
  · rintro ⟨mode, hfind⟩
    exact ⟨(loc, .file content mode), hfind, rfl⟩

theorem readTextAt_eq_ok {loc : Location} {text : String} :
    fs.readTextAt p = .ok (loc, text) ↔
      ∃ content, fs.readAt p = .ok (loc, content) ∧ String.fromUTF8? content = some text := by
  unfold readTextAt
  rw [except_bind_eq_ok]
  constructor
  · rintro ⟨⟨loc', content⟩, hread, h⟩
    cases hdecode : String.fromUTF8? content with
    | none => simp [hdecode] at h
    | some decoded =>
        simp only [hdecode, Except.ok.injEq, Prod.mk.injEq] at h
        obtain ⟨rfl, rfl⟩ := h
        exact ⟨content, hread, hdecode⟩
  · rintro ⟨content, hread, hdecode⟩
    refine ⟨(loc, content), hread, ?_⟩
    simp only [hdecode]

/-- A text is read from where its path leads. -/
theorem locate_of_readTextAt {loc : Location} {text : String}
    (h : fs.readTextAt p = .ok (loc, text)) : fs.locate p = .ok loc := by
  obtain ⟨content, hread, -⟩ := readTextAt_eq_ok.mp h
  obtain ⟨mode, hfind⟩ := readAt_eq_ok.mp hread
  exact (find_eq_ok.mp hfind).1

/-! ## Putting a file -/

theorem isDirectory_put_of_ne {loc target : Location} (h : loc ≠ target) (node : Node) :
    (fs.put target node).isDirectory loc = fs.isDirectory loc := by
  unfold isDirectory
  rw [node?_put_of_ne h]

theorem isSome_node?_put {loc target : Location} {node : Node} (h : (fs.node? loc).isSome) :
    ((fs.put target node).node? loc).isSome := by
  by_cases heq : loc = target
  · rw [heq, node?_put_self]
    rfl
  · rw [node?_put_of_ne heq]
    exact h

theorem ne_of_isDirectory {loc target : Location} (hdir : fs.isDirectory loc = true)
    (htarget : fs.isDirectory target = false) : loc ≠ target := by
  intro heq
  rw [heq, htarget] at hdir
  cases hdir

/-- **A new node where no directory stood closes no way.** Every way that leads to a directory passes
    through directories, so it never touches the target. -/
theorem follow_put {target loc l : Location} {node : Node} {segments : List (List Char)}
    (htarget : fs.isDirectory target = false) (h : fs.follow loc segments = .ok l) :
    (fs.put target node).follow loc segments = .ok l := by
  induction segments generalizing loc with
  | nil => exact h
  | cons segment segments ih =>
      obtain ⟨hdir, next, henter, hrest⟩ := follow_cons_eq_ok.mp h
      refine follow_cons_eq_ok.mpr ⟨?_, next, ?_, ih hrest⟩
      · rw [isDirectory_put_of_ne (ne_of_isDirectory hdir htarget)]
        exact hdir
      · rcases henter with hvoid | hup | ⟨hvoid, hup, hlong, hnode, hnext⟩
        · exact Or.inl hvoid
        · exact Or.inr (Or.inl hup)
        · exact Or.inr (Or.inr ⟨hvoid, hup, hlong, isSome_node?_put hnode, hnext⟩)

/-! ## Writing -/

/-- The place where a path ends: the directory of its last segment that is more than a slash. -/
theorem locateLast_eq_ok {loc : Location} {last : List Char} {slash : Bool}
    (h : fs.locateLast p = .ok (loc, last, slash)) (hvoid : Path.isVoid last = false) :
    checkPath p = .ok () ∧ fs.isDirectory loc = true ∧
      ∃ before behind, p.segments = before ++ last :: behind ∧ (∀ segment ∈ behind, segment = []) ∧
        (slash = false → behind = []) ∧ fs.follow (fs.start p) before = .ok loc := by
  obtain ⟨u, hcheck, h⟩ := except_bind_eq_ok.mp h
  cases hlast : p.segments.reverse.dropWhile (·.isEmpty) with
  | nil =>
      rw [hlast] at h
      cases h
      cases hvoid
  | cons last' before =>
      rw [hlast] at h
      obtain ⟨loc', hfollow, h⟩ := except_bind_eq_ok.mp h
      obtain ⟨-, behind, hsegments, hempty⟩ := segments_of_dropWhile hlast
      have hempty : ∀ segment ∈ behind, segment = [] :=
        fun segment hsegment => List.isEmpty_iff.mp (hempty segment hsegment)
      cases hdir : fs.isDirectory loc' with
      | false => simp [hdir] at h
      | true =>
          simp only [hdir, if_true, Except.ok.injEq, Prod.mk.injEq] at h
          obtain ⟨rfl, rfl, hslash⟩ := h
          refine ⟨hcheck, hdir, before.reverse, behind, hsegments, hempty, ?_, hfollow⟩
          intro hnone
          rw [hnone, decide_eq_false_iff_not] at hslash
          cases behind with
          | nil => rfl
          | cons first behind =>
              -- An empty segment behind would stand at the end of the path.
              have hend : p.segments.getLast?
                  = some ((first :: behind).getLast (List.cons_ne_nil _ _)) := by
                rw [hsegments, List.getLast?_append, List.getLast?_cons_cons,
                  List.getLast?_eq_some_getLast (List.cons_ne_nil first behind)]
                rfl
              rw [hempty _ (List.getLast_mem _)] at hend
              exact absurd hend hslash

/-- **What a successful write does.** The path ends in a name that can stand in its directory, no
    directory stands there, and the file is put there. -/
theorem write_eq_ok {content : ByteArray} (h : fs.write p content = .ok fs') :
    ∃ loc last mode, fs.locateLast p = .ok (loc, last, false) ∧
      Path.isVoid last = false ∧ Path.isUp last = false ∧
        isNameTooLong (String.ofList last) = false ∧
          fs.isDirectory (loc ++ [String.ofList last]) = false ∧
            fs' = fs.put (loc ++ [String.ofList last]) (.file content mode) := by
  obtain ⟨⟨loc, last, slash⟩, hlast, h⟩ := except_bind_eq_ok.mp h
  cases hbad : slash || Path.isVoid last || Path.isUp last with
  | true => simp [hbad] at h
  | false =>
      obtain ⟨⟨rfl, hvoid⟩, hup⟩ : (slash = false ∧ Path.isVoid last = false) ∧
          Path.isUp last = false := by simpa using hbad
      cases hlong : isNameTooLong (String.ofList last) with
      | true => simp [hvoid, hup, hlong] at h
      | false =>
          refine ⟨loc, last, ?_⟩
          simp only [hvoid, hup, hlong, Bool.or_self, Bool.false_eq_true, if_false] at h
          unfold isDirectory
          cases hnode : fs.node? (loc ++ [String.ofList last]) with
          | none =>
              rw [hnode] at h
              cases h
              exact ⟨newFileMode, hlast, hvoid, hup, hlong, rfl, rfl⟩
          | some node =>
              rw [hnode] at h
              cases node with
              | directory mode => cases h
              | file old mode =>
                  cases h
                  exact ⟨mode, hlast, hvoid, hup, hlong, rfl, rfl⟩

/-- **A written file is found.** The path leads to where the file has been put, and there it is. -/
theorem find_write {content : ByteArray} (h : fs.write p content = .ok fs') :
    ∃ loc mode, fs'.find p = .ok (loc, .file content mode) := by
  obtain ⟨loc, last, mode, hlast, hvoid, hup, hlong, hdir, rfl⟩ := write_eq_ok h
  obtain ⟨hcheck, hloc, before, behind, hsegments, -, hnone, hfollow⟩ := locateLast_eq_ok hlast hvoid
  rw [hnone rfl] at hsegments
  have hnode := node?_put_self fs (loc ++ [String.ofList last]) (.file content mode)
  -- The way up to the last segment is open as before, and the last segment now leads to the file.
  have hway : (fs.put (loc ++ [String.ofList last]) (.file content mode)).follow (fs.start p)
      p.segments = .ok (loc ++ [String.ofList last]) := by
    rw [hsegments, follow_append_eq_ok]
    refine ⟨loc, follow_put hdir hfollow, follow_cons_eq_ok.mpr ⟨?_, _, ?_, rfl⟩⟩
    · rw [isDirectory_put_of_ne (ne_of_isDirectory hloc hdir)]
      exact hloc
    · refine Or.inr (Or.inr ⟨hvoid, hup, hlong, ?_, rfl⟩)
      rw [hnode]
      rfl
  have hlocate : (fs.put (loc ++ [String.ofList last]) (.file content mode)).locate p
      = .ok (loc ++ [String.ofList last]) :=
    except_bind_eq_ok.mpr ⟨(), hcheck, hway⟩
  exact ⟨loc ++ [String.ofList last], mode, find_eq_ok.mpr ⟨hlocate, hnode⟩⟩

/-- **A written file is read back.** -/
theorem read_write {content : ByteArray} (h : fs.write p content = .ok fs') :
    fs'.read p = .ok content := by
  obtain ⟨loc, mode, hfind⟩ := find_write h
  have hreadAt : fs'.readAt p = .ok (loc, content) := readAt_eq_ok.mpr ⟨mode, hfind⟩
  unfold read
  rw [hreadAt]
  rfl

end ShaderCombos.FileSystem
