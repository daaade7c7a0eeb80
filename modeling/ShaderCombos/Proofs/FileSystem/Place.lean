import ShaderCombos.Proofs.FileSystem.ReadWrite

/-!
# `Proofs.FileSystem.Place` — where a file is put

A path can be written to before a file stands there. The location that a write goes to, its *place*, is
found by the directories on the way alone (`place_eq_ok_iff`), so it is known beforehand and no file changes
it. Writing is then a matter of what stands at the place (`write_eq`).

A path *names* a location if it leads there or would lead there if a file stood there (`Names`). A file can
be read by a path only at a location that the path names.

## Contents
- **Places.** `place`, `place_eq_ok_iff`, `write_eq`.
- **Names.** `Names`, `LastName` and `place_of_locate`: a path that ends in a name leads to its place.
- **Directories.** `createDirectories_eq`: a directory that is there is not created.
- **Kinds.** `isDirectory_of_node?`: what stands somewhere says whether it is a directory.
- **Putting.** `put_put`: only the last node counts. `putAll`: many nodes at different locations.
-/

namespace ShaderCombos.FileSystem

variable {fs : FileSystem} {p : Path} {loc : Location}

/-! ## Places -/

/-- The location that a write to a path goes to. -/
def place (fs : FileSystem) (p : Path) : Except FileError Location := do
  let (loc, last, slash) ← fs.locateLast p
  if slash || Path.isVoid last || Path.isUp last then .error .isADirectory
  else if isNameTooLong (String.ofList last) then .error .nameTooLong
  else .ok (loc ++ [String.ofList last])

/-- The permission bits of a file that is written at a location: those of the file it replaces. -/
def writtenMode (fs : FileSystem) (loc : Location) : Nat :=
  match fs.node? loc with
  | some node => node.mode
  | none => newFileMode

/-- **A write puts a file in its place** unless a directory stands there. -/
theorem write_eq (content : ByteArray) :
    fs.write p content = (fs.place p >>= fun loc =>
      if fs.isDirectory loc then .error .isADirectory
      else .ok (fs.put loc (.file content (fs.writtenMode loc)))) := by
  unfold write place
  cases fs.locateLast p with
  | error e => rfl
  | ok found =>
      obtain ⟨dir, last, slash⟩ := found
      show (if _ then _ else _) = Except.bind (if _ then _ else _) _
      cases slash || Path.isVoid last || Path.isUp last with
      | true => rfl
      | false =>
          cases isNameTooLong (String.ofList last) with
          | true => rfl
          | false =>
              simp only [Bool.false_eq_true, if_false, Except.bind]
              unfold isDirectory writtenMode
              cases fs.node? (dir ++ [String.ofList last]) with
              | none => rfl
              | some node => cases node <;> rfl

/-- The end of a path that is a name of something. -/
structure LastName (p : Path) (before : List (List Char)) (last : List Char) : Prop where
  segments : p.segments = before ++ [last]
  notVoid : Path.isVoid last = false
  notUp : Path.isUp last = false

theorem locateLast_of_lastName {before : List (List Char)} {last : List Char}
    (h : LastName p before last) :
    fs.locateLast p = (checkPath p >>= fun _ => fs.follow (fs.start p) before >>= fun loc =>
      if fs.isDirectory loc then .ok (loc, last, false) else .error .notADirectory) := by
  have hne : last.isEmpty = false := by
    cases last with
    | nil => exact absurd h.notVoid (by decide)
    | cons c rest => rfl
  have hdrop : p.segments.reverse.dropWhile (·.isEmpty) = last :: before.reverse := by
    rw [h.segments, List.reverse_concat, List.dropWhile_cons_of_neg (by simp [hne])]
  have hslash : decide (p.segments.getLast? = some []) = false := by
    rw [h.segments, List.getLast?_concat]
    cases last with
    | nil => cases hne
    | cons c rest => rfl
  unfold locateLast
  rw [hdrop]
  simp only [List.reverse_reverse, hslash]

/-- **What a place takes**: a name at the end, that can stand in a directory, and a way to that
    directory. -/
theorem place_eq_ok_iff :
    fs.place p = .ok loc ↔ checkPath p = .ok () ∧ ∃ before last dir, LastName p before last ∧
      isNameTooLong (String.ofList last) = false ∧ fs.follow (fs.start p) before = .ok dir ∧
        fs.isDirectory dir = true ∧ loc = dir ++ [String.ofList last] := by
  constructor
  · intro h
    obtain ⟨⟨dir, last, slash⟩, hlast, h⟩ := except_bind_eq_ok.mp h
    cases hbad : slash || Path.isVoid last || Path.isUp last with
    | true => simp [hbad] at h
    | false =>
        obtain ⟨⟨rfl, hvoid⟩, hup⟩ : (slash = false ∧ Path.isVoid last = false) ∧
            Path.isUp last = false := by simpa using hbad
        cases hlong : isNameTooLong (String.ofList last) with
        | true => simp [hvoid, hup, hlong] at h
        | false =>
            obtain ⟨hcheck, hdir, before, behind, hsegments, -, hnone, hfollow⟩ :=
              locateLast_eq_ok hlast hvoid
            rw [hnone rfl] at hsegments
            simp only [hvoid, hup, hlong, Bool.or_self, Bool.false_eq_true, if_false,
              Except.ok.injEq] at h
            exact ⟨hcheck, before, last, dir, ⟨hsegments, hvoid, hup⟩, hlong, hfollow, hdir, h.symm⟩
  · rintro ⟨hcheck, before, last, dir, hend, hlong, hfollow, hdir, rfl⟩
    unfold place
    rw [locateLast_of_lastName hend, hcheck]
    show ((fs.follow (fs.start p) before >>= fun loc => _) >>= _) = _
    rw [hfollow]
    show ((if fs.isDirectory dir = true then _ else _) >>= _) = _
    rw [hdir]
    simp [bind, Except.bind, hend.notVoid, hend.notUp, hlong]

/-- A place ends in the last segment of its path. -/
theorem getLast?_of_place (h : fs.place p = .ok loc) :
    loc.getLast? = p.segments.getLast?.map String.ofList := by
  obtain ⟨-, before, last, dir, hend, -, -, -, rfl⟩ := place_eq_ok_iff.mp h
  rw [hend.segments, List.getLast?_concat, List.getLast?_concat]
  rfl

/-! ## Names -/

/-- A path names a location: it leads there, or it would if a file stood there. -/
def Names (fs : FileSystem) (p : Path) (loc : Location) : Prop :=
  fs.locate p = .ok loc ∨ fs.place p = .ok loc

/-- A path that ends in a name leads to its place, if anywhere. -/
theorem place_of_locate {before : List (List Char)} {last : List Char} (hend : LastName p before last)
    (h : fs.locate p = .ok loc) : fs.place p = .ok loc := by
  obtain ⟨u, hcheck, hfollow⟩ := except_bind_eq_ok.mp h
  rw [hend.segments, follow_append_eq_ok] at hfollow
  obtain ⟨dir, hbefore, hlast⟩ := hfollow
  obtain ⟨hdir, next, henter, hnil⟩ := follow_cons_eq_ok.mp hlast
  cases hnil
  rcases henter with ⟨hvoid, -⟩ | ⟨-, hup, -⟩ | ⟨-, -, hlong, -, hnext⟩
  · rw [hend.notVoid] at hvoid
    cases hvoid
  · rw [hend.notUp] at hup
    cases hup
  · exact place_eq_ok_iff.mpr ⟨hcheck, before, last, dir, hend, hlong, hbefore, hdir, hnext⟩

/-- What stands in a place is found by the path. -/
theorem find_of_place {node : Node} (h : fs.place p = .ok loc) (hnode : fs.node? loc = some node) :
    fs.find p = .ok (loc, node) := by
  obtain ⟨hcheck, before, last, dir, hend, hlong, hfollow, hdir, rfl⟩ := place_eq_ok_iff.mp h
  refine find_eq_ok.mpr ⟨except_bind_eq_ok.mpr ⟨(), hcheck, ?_⟩, hnode⟩
  rw [hend.segments, follow_append_eq_ok]
  refine ⟨dir, hfollow, follow_cons_eq_ok.mpr ⟨hdir, _, Or.inr (Or.inr ?_), rfl⟩⟩
  exact ⟨hend.notVoid, hend.notUp, hlong, by rw [hnode]; rfl, rfl⟩

/-! ## Directories -/

theorem isDirectoryAt_eq_true_iff :
    fs.isDirectoryAt p = true ↔ ∃ loc, fs.locate p = .ok loc ∧ fs.isDirectory loc = true := by
  unfold isDirectoryAt isDirectory
  cases hfind : fs.find p with
  | error e =>
      constructor
      · rintro ⟨⟩
      · rintro ⟨loc, hlocate, hdir⟩
        cases hnode : fs.node? loc with
        | none => simp [hnode] at hdir
        | some node =>
            rw [find_eq_ok.mpr ⟨hlocate, hnode⟩] at hfind
            cases hfind
  | ok found =>
      obtain ⟨loc, node⟩ := found
      obtain ⟨hlocate, hnode⟩ := find_eq_ok.mp hfind
      constructor
      · intro hdir
        exact ⟨loc, hlocate, by simpa [hnode] using hdir⟩
      · rintro ⟨loc', hlocate', hdir⟩
        obtain rfl : loc = loc' := Except.ok.inj (hlocate.symm.trans hlocate')
        simpa [hnode] using hdir

/-- A directory that is there cannot be created. -/
theorem createDirectory_eq (h : fs.isDirectoryAt p = true) :
    fs.createDirectory p = .error .alreadyExists := by
  obtain ⟨loc, hlocate, -⟩ := isDirectoryAt_eq_true_iff.mp h
  obtain ⟨u, hcheck, hfollow⟩ := except_bind_eq_ok.mp hlocate
  unfold createDirectory locateLast
  rw [hcheck]
  cases hdrop : p.segments.reverse.dropWhile (·.isEmpty) with
  | nil => rfl
  | cons last before =>
      -- The way goes through the last segment, so the segments before it lead to a directory.
      obtain ⟨-, behind, hsplit, -⟩ := segments_of_dropWhile hdrop
      rw [hsplit, follow_append_eq_ok] at hfollow
      obtain ⟨dir, hbefore, hlast⟩ := hfollow
      obtain ⟨hdir, next, henter, -⟩ := follow_cons_eq_ok.mp hlast
      simp only [bind, Except.bind, hbefore, hdir, if_true]
      rcases henter with ⟨hvoid, -⟩ | ⟨hvoid, hup, -⟩ | ⟨hvoid, hup, hlong, hnode, -⟩
      · simp [hvoid]
      · simp [hup]
      · simp [hvoid, hup, hlong, hnode]

/-- **Directories that are there are not created again.** -/
theorem createDirectories_eq (h : fs.isDirectoryAt p = true) :
    fs.createDirectories p = (.ok (), fs) := by
  unfold createDirectories Path.ancestors
  cases hlength : p.text.length with
  | zero => rfl
  | succ limit =>
      unfold Path.ancestorsWithin
      cases p.parent? with
      | none => rfl
      | some parent =>
          unfold createOutwards
          rw [createDirectory_eq h]
          simp [h, createEach]

/-! ## Kinds -/

theorem isDirectory_of_node? {node : Node} (h : fs.node? loc = some node) :
    fs.isDirectory loc = node.isDirectory := by
  unfold isDirectory
  rw [h]
  rfl

theorem isDirectory_put_self (fs : FileSystem) (loc : Location) (node : Node) :
    (fs.put loc node).isDirectory loc = node.isDirectory :=
  isDirectory_of_node? (node?_put_self fs loc node)

/-- Where text is read, no directory stands. -/
theorem isDirectory_of_readTextAt {text : String} (h : fs.readTextAt p = .ok (loc, text)) :
    fs.isDirectory loc = false := by
  obtain ⟨content, hread, -⟩ := readTextAt_eq_ok.mp h
  obtain ⟨mode, hfind⟩ := readAt_eq_ok.mp hread
  exact isDirectory_of_node? (find_eq_ok.mp hfind).2

/-! ## Putting -/

/-- Of two nodes at one location the later one stays. -/
theorem put_put (a b : Node) : (fs.put loc a).put loc b = fs.put loc b := by
  unfold put
  simp [List.filter_filter]

/-- File systems that hold the same somewhere hold the same there after the same has been put. -/
theorem node?_put_congr {fs' : FileSystem} {l : Location} {node : Node} (h : fs'.node? l = fs.node? l) :
    (fs'.put loc node).node? l = (fs.put loc node).node? l := by
  by_cases hl : l = loc
  · subst hl
    rw [node?_put_self, node?_put_self]
  · rw [node?_put_of_ne hl, node?_put_of_ne hl, h]

/-- Many nodes, put one after another. -/
def putAll (fs : FileSystem) (puts : List (Location × Node)) : FileSystem :=
  puts.foldl (fun fs e => fs.put e.1 e.2) fs

theorem workingDirectory_putAll (puts : List (Location × Node)) :
    (fs.putAll puts).workingDirectory = fs.workingDirectory := by
  induction puts generalizing fs with
  | nil => rfl
  | cons e rest ih => exact ih

theorem putAll_append (a b : List (Location × Node)) : fs.putAll (a ++ b) = (fs.putAll a).putAll b :=
  List.foldl_append

theorem node?_putAll_of_notMem {puts : List (Location × Node)} (h : loc ∉ puts.map Prod.fst) :
    (fs.putAll puts).node? loc = fs.node? loc := by
  induction puts generalizing fs with
  | nil => rfl
  | cons e rest ih =>
      rw [List.map_cons, List.mem_cons, not_or] at h
      exact (ih h.2).trans (node?_put_of_ne h.1 fs e.2)

/-- **At different locations every node stays.** -/
theorem node?_putAll_of_mem {puts : List (Location × Node)} (hnodup : (puts.map Prod.fst).Nodup)
    {e : Location × Node} (he : e ∈ puts) : (fs.putAll puts).node? e.1 = some e.2 := by
  induction puts generalizing fs with
  | nil => cases he
  | cons first rest ih =>
      rw [List.map_cons, List.nodup_cons] at hnodup
      rcases List.mem_cons.mp he with rfl | hrest
      · exact (node?_putAll_of_notMem hnodup.1).trans (node?_put_self fs e.1 e.2)
      · exact ih hnodup.2 hrest

end ShaderCombos.FileSystem
