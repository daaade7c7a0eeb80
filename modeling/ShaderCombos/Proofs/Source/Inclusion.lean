import Mathlib
import ShaderCombos.Proofs.FileSystem.ReadWrite
import ShaderCombos.Proofs.Source.IncludeLine

/-!
# `Proofs.Source.Inclusion` — which sources can be flattened

Include lines make a graph of the paths of a file system (`Includes`). Flattening walks down that graph
without a mark on the files it has left, so a file is entered as often as it is included; only the files
that are being flattened at the moment are known. The walk nevertheless ends, and it goes through exactly
if every path that it can come to names a readable text and no file lies below itself.

Paths are not files: two spellings can lead to one location, and it is the location that is compared. A
file lies below itself if a path leads down to another spelling of it (`SameFile`).

## Contents
- **One line.** `flatten_cons_of_none` and `flatten_cons_of_read`: what becomes of a line.
  `walk_induction`: induction on the walk, with a case for each thing that can become of one.
- **The graph.** `Includes`, which is what is written in the files (`includes_iff_written`), `SameFile`, `Flattenable`.
- **Descent.** `isOk_flatten_iff` by induction on the walk; the invariant is that the locations above are
  those of files that the walk is still in.
- **Depth.** `assembleWithin` gives up below a depth; `flattenWithin_eq` shows a depth at which it never
  does.
- **Roots.** `assemble_terminates_and_isOk_iff`.
-/

namespace ShaderCombos.Source

open Relation

variable {fs : FileSystem} {entered : List Location} {path : Path} {line : String} {rest : List String}

/-! ## One line -/

theorem flatten_nil : flatten fs entered path [] = .ok {} := by
  rw [flatten]

theorem flatten_cons_of_none (hline : includeTarget? line = none) :
    flatten fs entered path (line :: rest) =
      (flatten fs entered path rest >>= fun after => .ok (⟨[line], []⟩ ++ after)) := by
  rw [flatten]
  split
  · rfl
  · next target htarget =>
    rw [hline] at htarget
    cases htarget

section

variable {target : Path} (hline : includeTarget? line = some target)

include hline

theorem flatten_cons_of_unread {cause : FileError}
    (hread : fs.readTextAt (path.directory.join target) = .error cause) :
    flatten fs entered path (line :: rest) =
      .error (includeFault (path.directory.join target) path cause) := by
  rw [flatten]
  split
  · next hnone =>
    rw [hline] at hnone
    cases hnone
  · next other hother =>
    obtain rfl : target = other := Option.some.inj (hline.symm.trans hother)
    dsimp only
    split
    · next found hfound =>
      obtain rfl : cause = found := Except.error.inj (hread.symm.trans hfound)
      rfl
    · next hfound =>
      rw [hread] at hfound
      cases hfound

/-- An include line whose file can be read: either the file is being flattened already, or its lines come
    in place of the line. -/
theorem flatten_cons_of_read {loc : Location} {text : String}
    (hread : fs.readTextAt (path.directory.join target) = .ok (loc, text)) :
    flatten fs entered path (line :: rest) =
      if loc ∈ entered then .error (.recursiveInclude (path.directory.join target))
      else flatten fs (loc :: entered) (path.directory.join target) (Text.lines text) >>= fun inner =>
        flatten fs entered path rest >>= fun after =>
          .ok (⟨[], [(path.directory.join target).listedName]⟩ ++ inner ++ after) := by
  rw [flatten]
  split
  · next hnone =>
    rw [hline] at hnone
    cases hnone
  · next other hother =>
    obtain rfl : target = other := Option.some.inj (hline.symm.trans hother)
    dsimp only
    split
    · next hfound =>
      rw [hread] at hfound
      cases hfound
    · next loc' text' hfound =>
      obtain ⟨rfl, rfl⟩ : loc = loc' ∧ text = text' := by
        simpa using hread.symm.trans hfound
      split <;> rfl

end

/-- Induction on the walk that flattening makes. An include line is one that cannot be read (`unread`), one
    whose file is being flattened already (`nested`), or one whose file is entered (`descend`). -/
@[elab_as_elim]
theorem walk_induction (fs : FileSystem) {motive : List Location → Path → List String → Prop}
    (nil : ∀ entered path, motive entered path [])
    (keep : ∀ entered path line rest, includeTarget? line = none → motive entered path rest →
      motive entered path (line :: rest))
    (unread : ∀ entered path line rest target cause, includeTarget? line = some target →
      fs.readTextAt (path.directory.join target) = .error cause → motive entered path (line :: rest))
    (nested : ∀ entered path line rest target loc text, includeTarget? line = some target →
      fs.readTextAt (path.directory.join target) = .ok (loc, text) → loc ∈ entered →
        motive entered path (line :: rest))
    (descend : ∀ entered path line rest target loc text, includeTarget? line = some target →
      fs.readTextAt (path.directory.join target) = .ok (loc, text) → loc ∉ entered →
        motive (loc :: entered) (path.directory.join target) (Text.lines text) →
          motive entered path rest → motive entered path (line :: rest))
    (entered : List Location) (path : Path) (lines : List String) : motive entered path lines :=
  flatten.induct fs motive nil keep
    (fun entered path line rest target hline cause hread =>
      unread entered path line rest target cause hline hread)
    (fun entered path line rest target hline loc text hread hmem =>
      nested entered path line rest target loc text hline hread hmem)
    (fun entered path line rest target hline loc text hread hfresh =>
      descend entered path line rest target loc text hline hread hfresh)
    entered path lines

/-! ## The graph -/

/-- The file at `p` has an include line for `q`. -/
def Includes (fs : FileSystem) (p q : Path) : Prop :=
  ∃ loc text, fs.readTextAt p = .ok (loc, text) ∧ q ∈ includedPaths p (Text.lines text)

/-- **What a file includes** is what it has include lines for, seen from its directory. -/
theorem includes_iff_written {p q : Path} :
    Includes fs p q ↔ ∃ loc text, fs.readTextAt p = .ok (loc, text) ∧ ∃ line ∈ Text.lines text,
      ∃ l : IncludeLine, l.text = line.toList ∧ p.directory.join l.path = q := by
  unfold Includes includedPaths
  simp only [List.mem_map, List.mem_filterMap, includeTarget?_eq_some_iff]
  constructor
  · rintro ⟨loc, text, hread, _, ⟨line, hline, l, htext, rfl⟩, hq⟩
    exact ⟨loc, text, hread, line, hline, l, htext, hq⟩
  · rintro ⟨loc, text, hread, line, hline, l, htext, hq⟩
    exact ⟨loc, text, hread, l.path, ⟨line, hline, l, htext, rfl⟩, hq⟩

/-- Two paths are spellings of one file. -/
def SameFile (fs : FileSystem) (p q : Path) : Prop :=
  ∃ loc, fs.locate p = .ok loc ∧ fs.locate q = .ok loc

/-- All that a source includes, directly or through others, is readable text, and nothing that it includes
    lies below itself. -/
structure Flattenable (fs : FileSystem) (root : Path) : Prop where
  readable : ∀ p, ReflTransGen (Includes fs) root p → ∃ loc text, fs.readTextAt p = .ok (loc, text)
  acyclic : ∀ p q, ReflTransGen (Includes fs) root p → TransGen (Includes fs) p q → ¬ SameFile fs p q

/-- No path below `root` leads to one of some locations. -/
def Avoids (fs : FileSystem) (entered : List Location) (root : Path) : Prop :=
  ∀ p, ReflTransGen (Includes fs) root p → ∀ loc, fs.locate p = .ok loc → loc ∉ entered

theorem includes_iff_of_read {p q : Path} {loc : Location} {text : String}
    (hread : fs.readTextAt p = .ok (loc, text)) :
    Includes fs p q ↔ q ∈ includedPaths p (Text.lines text) := by
  constructor
  · rintro ⟨loc', text', hread', hq⟩
    obtain ⟨rfl, rfl⟩ : loc = loc' ∧ text = text' := by
      simpa using hread.symm.trans hread'
    exact hq
  · intro hq
    exact ⟨loc, text, hread, hq⟩

/-- What a file comes to include is the file itself or lies below a path that it includes. -/
theorem eq_or_exists_of_reaches {p q : Path} {loc : Location} {text : String}
    (hread : fs.readTextAt p = .ok (loc, text)) (hq : ReflTransGen (Includes fs) p q) :
    q = p ∨ ∃ c ∈ includedPaths p (Text.lines text), ReflTransGen (Includes fs) c q := by
  rcases ReflTransGen.cases_head hq with rfl | ⟨c, hdown, hq⟩
  · exact Or.inl rfl
  · exact Or.inr ⟨c, (includes_iff_of_read hread).mp hdown, hq⟩

/-- **One step down.** A file can be flattened below some locations exactly if it lies at none of them and
    all that it includes can be flattened below those and its own. -/
theorem flattenable_iff_of_read {p : Path} {loc : Location} {text : String}
    (hread : fs.readTextAt p = .ok (loc, text)) :
    Flattenable fs p ∧ Avoids fs entered p ↔
      loc ∉ entered ∧ ∀ c ∈ includedPaths p (Text.lines text),
        Flattenable fs c ∧ Avoids fs (loc :: entered) c := by
  have hloc : fs.locate p = .ok loc := FileSystem.locate_of_readTextAt hread
  constructor
  · rintro ⟨hflat, havoid⟩
    refine ⟨havoid p .refl loc hloc, fun c hc => ?_⟩
    have hdown : Includes fs p c := (includes_iff_of_read hread).mpr hc
    refine ⟨⟨?_, ?_⟩, ?_⟩
    · intro q hq
      exact hflat.readable q (.head hdown hq)
    · intro q q' hq hq'
      exact hflat.acyclic q q' (.head hdown hq) hq'
    · intro q hq loc' hloc' hmem
      rcases List.mem_cons.mp hmem with rfl | hmem
      · exact hflat.acyclic p q .refl (.head' hdown hq) ⟨loc', hloc, hloc'⟩
      · exact havoid q (.head hdown hq) loc' hloc' hmem
  · rintro ⟨hfresh, hbelow⟩
    refine ⟨⟨?_, ?_⟩, ?_⟩
    · intro q hq
      rcases eq_or_exists_of_reaches hread hq with rfl | ⟨c, hc, hq⟩
      · exact ⟨loc, text, hread⟩
      · exact (hbelow c hc).1.readable q hq
    · intro q q' hq hq'
      rcases eq_or_exists_of_reaches hread hq with rfl | ⟨c, hc, hq⟩
      · rintro ⟨loc', hq, hloc'⟩
        obtain rfl : loc = loc' := Except.ok.inj (hloc.symm.trans hq)
        obtain ⟨c, hdown, hq'⟩ := TransGen.head'_iff.mp hq'
        exact (hbelow c ((includes_iff_of_read hread).mp hdown)).2 q' hq' loc hloc'
          List.mem_cons_self
      · exact (hbelow c hc).1.acyclic q q' hq hq'
    · intro q hq loc' hloc' hmem
      rcases eq_or_exists_of_reaches hread hq with rfl | ⟨c, hc, hq⟩
      · obtain rfl : loc = loc' := Except.ok.inj (hloc.symm.trans hloc')
        exact hfresh hmem
      · exact (hbelow c hc).2 q hq loc' hloc' (List.mem_cons_of_mem _ hmem)

/-! ## Descent -/

theorem includedPaths_cons_of_none {p : Path} (hline : includeTarget? line = none) :
    includedPaths p (line :: rest) = includedPaths p rest := by
  unfold includedPaths
  rw [List.filterMap_cons_none hline]

theorem includedPaths_cons_of_some {p target : Path} (hline : includeTarget? line = some target) :
    includedPaths p (line :: rest) = p.directory.join target :: includedPaths p rest := by
  unfold includedPaths
  rw [List.filterMap_cons_some hline, List.map_cons]

/-- **Lines can be flattened exactly if all that they include can be.** By induction on the walk;
    `flattenable_iff_of_read` takes the locations above from a file to the files it includes. -/
theorem isOk_flatten_iff (entered : List Location) (path : Path) (lines : List String) :
    (∃ source, flatten fs entered path lines = .ok source) ↔
      ∀ c ∈ includedPaths path lines, Flattenable fs c ∧ Avoids fs entered c := by
  induction entered, path, lines using walk_induction fs with
  | nil entered path =>
      simp [flatten_nil, includedPaths]
  | keep entered path line rest hline ih =>
      rw [includedPaths_cons_of_none hline, ← ih, flatten_cons_of_none hline]
      simp only [except_bind_eq_ok, Except.ok.injEq]
      constructor
      · rintro ⟨_, after, hafter, -⟩
        exact ⟨after, hafter⟩
      · rintro ⟨after, hafter⟩
        exact ⟨_, after, hafter, rfl⟩
  | unread entered path line rest target cause hline hread =>
      rw [includedPaths_cons_of_some hline, flatten_cons_of_unread hline hread]
      constructor
      · rintro ⟨_, ⟨⟩⟩
      · intro h
        obtain ⟨hflat, -⟩ := h _ List.mem_cons_self
        obtain ⟨loc, text, hfound⟩ := hflat.readable _ .refl
        rw [hread] at hfound
        cases hfound
  | nested entered path line rest target loc text hline hread hmem =>
      rw [includedPaths_cons_of_some hline, flatten_cons_of_read hline hread, if_pos hmem]
      constructor
      · rintro ⟨_, ⟨⟩⟩
      · intro h
        exact absurd hmem ((flattenable_iff_of_read hread).mp (h _ List.mem_cons_self)).1
  | descend entered path line rest target loc text hline hread hfresh ihInner ihAfter =>
      rw [includedPaths_cons_of_some hline, flatten_cons_of_read hline hread, if_neg hfresh,
        List.forall_mem_cons, flattenable_iff_of_read hread, ← ihInner, ← ihAfter]
      simp only [except_bind_eq_ok, Except.ok.injEq]
      constructor
      · rintro ⟨_, inner, hinner, after, hafter, -⟩
        exact ⟨⟨hfresh, inner, hinner⟩, after, hafter⟩
      · rintro ⟨⟨-, inner, hinner⟩, after, hafter⟩
        exact ⟨_, inner, hinner, after, hafter, rfl⟩

/-- **Recursion is reported of files that are below themselves.** The reported path leads to a file that
    was entered above, or to one that the walk has entered since. -/
theorem of_flatten_eq_recursiveInclude (entered : List Location) (path : Path) (lines : List String)
    {q : Path} (h : flatten fs entered path lines = .error (.recursiveInclude q)) :
    ∃ c ∈ includedPaths path lines, ReflTransGen (Includes fs) c q ∧
      ∃ loc, fs.locate q = .ok loc ∧ (loc ∈ entered ∨
        ∃ p, ReflTransGen (Includes fs) c p ∧ TransGen (Includes fs) p q ∧ fs.locate p = .ok loc) := by
  induction entered, path, lines using walk_induction fs with
  | nil entered path =>
      rw [flatten_nil] at h
      cases h
  | keep entered path line rest hline ih =>
      rw [flatten_cons_of_none hline] at h
      rw [includedPaths_cons_of_none hline]
      rcases except_bind_eq_error.mp h with hrest | ⟨after, -, ⟨⟩⟩
      exact ih hrest
  | unread entered path line rest target cause hline hread =>
      rw [flatten_cons_of_unread hline hread] at h
      cases cause <;> cases h
  | nested entered path line rest target loc text hline hread hmem =>
      rw [flatten_cons_of_read hline hread, if_pos hmem] at h
      rw [includedPaths_cons_of_some hline]
      obtain rfl : path.directory.join target = q := by simpa using h
      exact ⟨_, List.mem_cons_self, .refl, loc, FileSystem.locate_of_readTextAt hread,
        Or.inl hmem⟩
  | descend entered path line rest target loc text hline hread hfresh ihInner ihAfter =>
      rw [flatten_cons_of_read hline hread, if_neg hfresh] at h
      rw [includedPaths_cons_of_some hline]
      rcases except_bind_eq_error.mp h with hinner | ⟨inner, -, h⟩
      · obtain ⟨c, hc, hq, loc', hloc', hnested⟩ := ihInner hinner
        have hdown : Includes fs (path.directory.join target) c := (includes_iff_of_read hread).mpr hc
        refine ⟨_, List.mem_cons_self, .head hdown hq, loc', hloc', ?_⟩
        rcases hnested with hmem | ⟨p, hp, hpq, hlocp⟩
        · rcases List.mem_cons.mp hmem with rfl | hmem
          · exact Or.inr ⟨_, .refl, .head' hdown hq, FileSystem.locate_of_readTextAt hread⟩
          · exact Or.inl hmem
        · exact Or.inr ⟨p, .head hdown hp, hpq, hlocp⟩
      · rcases except_bind_eq_error.mp h with hafter | ⟨after, -, ⟨⟩⟩
        obtain ⟨c, hc, hrest⟩ := ihAfter hafter
        exact ⟨c, List.mem_cons_of_mem _ hc, hrest⟩

/-! ## Depth -/

/-- Flattens lines as `flatten` does, but leaves the lines of included files to `descend`. -/
def flattenBy (fs : FileSystem)
    (descend : List Location → Path → List String → ExceptT Fault Option Source)
    (entered : List Location) (path : Path) : List String → ExceptT Fault Option Source
  | [] => pure {}
  | line :: rest =>
    match includeTarget? line with
    | none => do
      let after ← flattenBy fs descend entered path rest
      pure (⟨[line], []⟩ ++ after)
    | some target =>
      let child := path.directory.join target
      match fs.readTextAt child with
      | .error cause => throw (includeFault child path cause)
      | .ok (loc, text) =>
        if entered.contains loc then throw (.recursiveInclude child)
        else do
          let inner ← descend (loc :: entered) child (Text.lines text)
          let after ← flattenBy fs descend entered path rest
          pure (⟨[], [child.listedName]⟩ ++ inner ++ after)

/-- Flattens lines as `flatten` does, but gives up instead of being in more than `depth` files at a time.
    The recursion is on the depth, so it ends whatever the files hold. -/
def flattenWithin (fs : FileSystem) : Nat → List Location → Path → List String →
    ExceptT Fault Option Source
  | 0 => fun _ _ _ => ExceptT.mk none
  | depth + 1 => flattenBy fs (flattenWithin fs depth)

/-- Assembles a source as `assemble` does, but gives up instead of being in more than `depth` files at a
    time. -/
def assembleWithin (fs : FileSystem) (depth : Nat) (path : Path) : ExceptT Fault Option Source :=
  match fs.readTextAt path with
  | .error cause => throw (.unreadable path cause)
  | .ok (loc, text) => do
    let body ← flattenWithin fs depth [loc] path (Text.lines text)
    pure (⟨[], [path.listedName]⟩ ++ body)

section

variable {α β : Type} {x : ExceptT Fault Option α} {f : α → ExceptT Fault Option β}

/-- A step that does not give up is followed by the next, or by none if it fails. -/
theorem run_bind_of_run_eq_some {r : Except Fault α} {g : α → Except Fault β} (hx : x.run = some r)
    (hf : ∀ a, (f a).run = some (g a)) : (x >>= f).run = some (r >>= g) := by
  rw [ExceptT.run_bind, hx]
  cases r with
  | error e => rfl
  | ok a => exact hf a

end

/-- If `descend` flattens the files that are not entered, then all lines are flattened. -/
theorem flattenBy_eq {descend : List Location → Path → List String → ExceptT Fault Option Source}
    (hdescend : ∀ child loc text, fs.readTextAt child = .ok (loc, text) → loc ∉ entered →
      (descend (loc :: entered) child (Text.lines text)).run
        = some (flatten fs (loc :: entered) child (Text.lines text)))
    (lines : List String) :
    (flattenBy fs descend entered path lines).run = some (flatten fs entered path lines) := by
  induction lines with
  | nil =>
      rw [flatten_nil]
      rfl
  | cons line rest ih =>
      unfold flattenBy
      cases hline : includeTarget? line with
      | none =>
          rw [flatten_cons_of_none hline]
          exact run_bind_of_run_eq_some ih fun _ => rfl
      | some target =>
          dsimp only
          cases hread : fs.readTextAt (path.directory.join target) with
          | error cause =>
              rw [flatten_cons_of_unread hline hread]
              rfl
          | ok found =>
              obtain ⟨loc, text⟩ := found
              rw [flatten_cons_of_read hline hread]
              by_cases hmem : loc ∈ entered
              · simp only [List.contains_iff_mem, if_pos hmem]
                rfl
              · simp only [List.contains_iff_mem, if_neg hmem]
                exact run_bind_of_run_eq_some (hdescend _ loc text hread hmem) fun _ =>
                  run_bind_of_run_eq_some ih fun _ => rfl

/-- **Flattening nests no deeper than there are files.** A depth that leaves room for every file that is
    not entered yet is never reached. -/
theorem flattenWithin_eq (depth : Nat) (entered : List Location) (path : Path) (lines : List String)
    (hdepth : fs.unvisited entered < depth) :
    (flattenWithin fs depth entered path lines).run = some (flatten fs entered path lines) := by
  induction depth generalizing entered path lines with
  | zero => exact absurd hdepth (Nat.not_lt_zero _)
  | succ depth ih =>
      refine flattenBy_eq (fun child loc text hread hfresh => ?_) lines
      have hfewer : fs.unvisited (loc :: entered) < fs.unvisited entered :=
        FileSystem.unvisited_cons_lt (isSome_of_readTextAt hread) hfresh
      exact ih (loc :: entered) child (Text.lines text) (by omega)

theorem assembleWithin_eq (root : Path) :
    (assembleWithin fs fs.nodes.length root).run = some (assemble fs root) := by
  unfold assembleWithin assemble
  cases hread : fs.readTextAt root with
  | error cause => rfl
  | ok found =>
      obtain ⟨loc, text⟩ := found
      have hall : fs.unvisited [] = fs.nodes.length := by simp [FileSystem.unvisited]
      have hfewer : fs.unvisited [loc] < fs.unvisited [] :=
        FileSystem.unvisited_cons_lt (isSome_of_readTextAt hread) List.not_mem_nil
      exact run_bind_of_run_eq_some
        (flattenWithin_eq fs.nodes.length [loc] root (Text.lines text) (by omega)) fun _ => rfl

/-! ## Roots -/

theorem assemble_eq_of_read {root : Path} {loc : Location} {text : String}
    (hread : fs.readTextAt root = .ok (loc, text)) :
    assemble fs root = (flatten fs [loc] root (Text.lines text) >>= fun body =>
      .ok (⟨[], [root.listedName]⟩ ++ body)) := by
  unfold assemble
  rw [hread]

theorem isOk_assemble_iff (root : Path) :
    (∃ source, assemble fs root = .ok source) ↔ Flattenable fs root := by
  cases hread : fs.readTextAt root with
  | error cause =>
      constructor
      · rintro ⟨source, hsource⟩
        unfold assemble at hsource
        rw [hread] at hsource
        cases hsource
      · intro hflat
        obtain ⟨loc, text, hfound⟩ := hflat.readable root .refl
        rw [hread] at hfound
        cases hfound
  | ok found =>
      obtain ⟨loc, text⟩ := found
      have hdown : Flattenable fs root ∧ Avoids fs [] root ↔ _ := flattenable_iff_of_read hread
      have havoid : Avoids fs [] root := fun _ _ _ _ => List.not_mem_nil
      rw [assemble_eq_of_read hread]
      simp only [except_bind_eq_ok, Except.ok.injEq]
      constructor
      · rintro ⟨_, body, hbody, -⟩
        have hbelow := (isOk_flatten_iff [loc] root (Text.lines text)).mp ⟨body, hbody⟩
        exact (hdown.mpr ⟨List.not_mem_nil, hbelow⟩).1
      · intro hflat
        obtain ⟨-, hbelow⟩ := hdown.mp ⟨hflat, havoid⟩
        obtain ⟨body, hbody⟩ := (isOk_flatten_iff [loc] root (Text.lines text)).mpr hbelow
        exact ⟨_, body, hbody, rfl⟩

theorem sameFile_of_assemble_eq_recursiveInclude {root q : Path}
    (h : assemble fs root = .error (.recursiveInclude q)) :
    ∃ p, ReflTransGen (Includes fs) root p ∧ TransGen (Includes fs) p q ∧ SameFile fs p q := by
  cases hread : fs.readTextAt root with
  | error cause =>
      unfold assemble at h
      rw [hread] at h
      cases h
  | ok found =>
      obtain ⟨loc, text⟩ := found
      rw [assemble_eq_of_read hread] at h
      rcases except_bind_eq_error.mp h with hbody | ⟨body, -, ⟨⟩⟩
      obtain ⟨c, hc, hq, loc', hloc', hnested⟩ :=
        of_flatten_eq_recursiveInclude [loc] root (Text.lines text) hbody
      have hdown : Includes fs root c := (includes_iff_of_read hread).mpr hc
      rcases hnested with hmem | ⟨p, hp, hpq, hlocp⟩
      · obtain rfl : loc' = loc := List.mem_singleton.mp hmem
        exact ⟨root, .refl, .head' hdown hq, loc', FileSystem.locate_of_readTextAt hread, hloc'⟩
      · exact ⟨p, .head hdown hp, hpq, loc', hlocp, hloc'⟩

/-- **Which sources can be flattened.** Flattening ends, in no more files at a time than there are. It goes
    through exactly if all that the root comes to include is readable text and nothing lies below itself;
    in particular a file may be included any number of times. A path that is reported as recursive is
    included from below the file that it leads to. What a file includes is what it has include lines for. -/
theorem assemble_terminates_and_isOk_iff (fs : FileSystem) (root : Path) :
    (assembleWithin fs fs.nodes.length root).run = some (assemble fs root) ∧
      ((∃ source, assemble fs root = .ok source) ↔ Flattenable fs root) ∧
        (∀ q, assemble fs root = .error (.recursiveInclude q) →
          ∃ p, ReflTransGen (Includes fs) root p ∧ TransGen (Includes fs) p q ∧ SameFile fs p q) ∧
          ∀ p q, Includes fs p q ↔ ∃ loc text, fs.readTextAt p = .ok (loc, text) ∧
            ∃ line ∈ Text.lines text, ∃ l : IncludeLine, l.text = line.toList ∧ p.directory.join l.path = q :=
  ⟨assembleWithin_eq root, isOk_assemble_iff root,
    fun _ h => sameFile_of_assemble_eq_recursiveInclude h, fun _ _ => includes_iff_written⟩

end ShaderCombos.Source
