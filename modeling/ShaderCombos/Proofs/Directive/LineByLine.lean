import Mathlib
import ShaderCombos.Proofs.Directive.Filtering
import ShaderCombos.Proofs.Directive.Gathered

/-!
# `Proofs.Directive.LineByLine` — a source is read line by line

Nothing that a line declares depends on another line. So sources can be cut anywhere: the declarations of a
source are those of its parts, one behind the other, and its fault is the first fault of its parts. A line
that is no directive, or that the filter rejects, can be put in or taken out without any effect, however
malformed it is. Any other line makes one declaration or is a fault.

`ReadsLineByLine` states this for a filter, and `readsLineByLine` says that it holds for every filter.

## Contents
- **Joining declarations.** `append`, and how it goes with `add`.
- **Cutting a source.** `ofLines_append`.
- **One line.** `ofLines_of_idle`, `Contributes`, `Refuses`, `contributes_or_refuses`.
- **All lines.** `ReadsLineByLine`, `readsLineByLine`.
-/

namespace ShaderCombos.Declarations

open Directive

variable {f : Filter} {line : String}

/-! ## Joining declarations -/

/-- What two sources declare, the second behind the first. -/
def append (a b : Declarations) : Declarations where
  static := a.static ++ b.static
  dynamic := a.dynamic ++ b.dynamic
  skipRules := a.skipRules ++ b.skipRules
  centroid := ⟨a.centroid.bits ||| b.centroid.bits⟩

theorem append_empty (a : Declarations) : a.append {} = a := by
  unfold append
  rw [List.append_nil, List.append_nil, List.append_nil, UInt32.or_zero]

theorem empty_append (b : Declarations) : append {} b = b := by
  unfold append
  rw [List.nil_append, List.nil_append, List.nil_append, UInt32.zero_or]

/-- One more directive is added to the part that comes last. -/
theorem append_add (a b : Declarations) (directive : Directive) :
    (a.append b).add directive = a.append (b.add directive) := by
  unfold append
  cases directive with
  | combo list c =>
      cases list with
      | static => simp only [add, List.append_assoc]
      | dynamic => simp only [add, List.append_assoc]
  | centroid slot => simp only [add, CentroidMask.insert, UInt32.or_assoc]
  | skip rule => simp only [add, List.append_assoc]

/-! ## Cutting a source -/

/-- What has been declared before a line neither changes what the line declares nor whether it fails. -/
theorem addLine_append (a b : Declarations) :
    addLine f (a.append b) line = (addLine f b line).map a.append := by
  unfold addLine
  cases ofLine? f line with
  | error fault => rfl
  | ok outcome =>
      cases outcome with
      | none => rfl
      | some directive => exact congrArg Except.ok (append_add a b directive)

theorem foldlM_addLine_append (a b : Declarations) (lines : List String) :
    lines.foldlM (addLine f) (a.append b) = (lines.foldlM (addLine f) b).map a.append := by
  induction lines generalizing b with
  | nil => rfl
  | cons line rest ih =>
      rw [List.foldlM_cons, List.foldlM_cons, addLine_append]
      cases addLine f b line with
      | error fault => rfl
      | ok next => exact ih next

/-- **A source in two parts.** If the first part has a fault, it is the fault of the whole; otherwise that
    of the second part is; and if neither has one, their declarations are joined. -/
theorem ofLines_append (xs ys : List String) :
    ofLines f (xs ++ ys) = (do
      let a ← ofLines f xs
      let b ← ofLines f ys
      .ok (a.append b)) := by
  unfold ofLines
  rw [List.foldlM_append]
  cases xs.foldlM (addLine f) {} with
  | error fault => rfl
  | ok a =>
      show ys.foldlM (addLine f) a =
        (ys.foldlM (addLine f) {} >>= fun b => .ok (a.append b))
      -- Reading on from `a` is reading from the start and putting `a` in front.
      have hstart := foldlM_addLine_append (f := f) a {} ys
      rw [append_empty] at hstart
      rw [hstart]
      cases ys.foldlM (addLine f) {} with
      | error fault => rfl
      | ok b => rfl

/-! ## One line -/

theorem ofLines_singleton : ofLines f [line] = addLine f {} line := by
  unfold ofLines
  rw [List.foldlM_cons]
  cases addLine f {} line with
  | error fault => rfl
  | ok found => rfl

/-- **Lines that do not count**: they are no directives, or the filter rejects them. -/
theorem ofLines_of_idle (h : head? line.toList = none ∨ f.accepts line.toList = false) :
    ofLines f [line] = .ok {} := by
  have hnothing : ofLine? f line = .ok none := by
    unfold ofLine?
    cases hhead : head? line.toList with
    | none => rfl
    | some head =>
        rcases h with hnone | hrejected
        · rw [hnone] at hhead
          cases hhead
        · exact if_neg (by rw [hrejected]; exact Bool.false_ne_true)
  rw [ofLines_singleton]
  unfold addLine
  rw [hnothing]
  rfl

/-- A line that declares nothing can stand anywhere. -/
theorem ofLines_insert (h : ofLines f [line] = .ok {}) (xs ys : List String) :
    ofLines f (xs ++ line :: ys) = ofLines f (xs ++ ys) := by
  have hhead : ofLines f (line :: ys) = ofLines f ys := by
    rw [← List.singleton_append, ofLines_append, h]
    cases ofLines f ys with
    | error fault => rfl
    | ok b => exact congrArg Except.ok (empty_append b)
  rw [ofLines_append, hhead, ← ofLines_append]

/-- **One declaration**: a single combo, a single rule, or a single bit of the mask. -/
inductive Contributes : Kind → Declarations → Prop where
  | static (c : Combo) : Contributes (.combo .static) { static := [c] }
  | dynamic (c : Combo) : Contributes (.combo .dynamic) { dynamic := [c] }
  | skip (rule : String) : Contributes .skip { skipRules := [rule] }
  | centroid {mask : CentroidMask} {slot : Nat} (hslot : slot < 32)
      (hmask : mask.bits.toNat = 2 ^ slot) : Contributes .centroid { centroid := mask }

/-- **The faults of a line**: it does not follow the grammar of its keyword, or it names a texture
    coordinate that has no bit. A predicate is never at fault. -/
inductive Refuses (line : String) : Kind → Fault → Prop where
  | combo (list : ComboKind) : Refuses line (.combo list) (malformed (.combo list) line)
  | centroid : Refuses line .centroid (malformed .centroid line)
  | slot {n : Nat} (h : 32 ≤ n) : Refuses line .centroid (.centroidOutOfRange n)

theorem contributes_centroid (slot : Fin 32) :
    Contributes .centroid (add {} (.centroid slot)) := by
  refine .centroid slot.isLt ?_
  revert slot
  decide

/-- **Lines that count** make one declaration of their kind or are at fault. -/
theorem contributes_or_refuses {kind : Kind} {body : List Char}
    (hhead : head? line.toList = some (kind, body)) (haccepts : f.accepts line.toList = true) :
    (∃ found, Contributes kind found ∧ ofLines f [line] = .ok found) ∨
      ∃ fault, Refuses line kind fault ∧ ofLines f [line] = .error fault := by
  have hline : ofLines f [line] = (Directive.read f kind body line).map (add {}) := by
    rw [ofLines_singleton]
    unfold addLine ofLine?
    rw [hhead]
    simp only [haccepts, if_true]
    cases Directive.read f kind body line with
    | error fault => rfl
    | ok directive => rfl
  rw [hline]
  unfold Directive.read
  cases kind with
  | combo list =>
      cases hcombo : combo? list line.toList with
      | none => exact Or.inr ⟨_, .combo list, by simp only [hcombo]; rfl⟩
      | some c =>
          left
          cases list with
          | static => exact ⟨_, .static c, by simp only [hcombo]; rfl⟩
          | dynamic => exact ⟨_, .dynamic c, by simp only [hcombo]; rfl⟩
  | centroid =>
      cases centroidSlot? f.stage line.toList with
      | none => exact Or.inr ⟨_, .centroid, rfl⟩
      | some slot =>
          by_cases hlt : slot < 32
          · exact Or.inl ⟨_, contributes_centroid ⟨slot, hlt⟩, by simp only [dif_pos hlt]; rfl⟩
          · exact Or.inr ⟨_, .slot (Nat.not_lt.mp hlt), by simp only [dif_neg hlt]; rfl⟩
  | skip => exact Or.inl ⟨_, .skip _, rfl⟩

/-! ## All lines -/

/-- **A source is read line by line** with the given filter. -/
structure ReadsLineByLine (f : Filter) : Prop where
  /-- A source in two parts has the first fault of its parts, or the declarations of both. -/
  append : ∀ xs ys, ofLines f (xs ++ ys) = do
    let a ← ofLines f xs
    let b ← ofLines f ys
    .ok (a.append b)
  /-- A directive that the filter does not reject makes one declaration of its kind or is at fault. -/
  directive : ∀ line kind body, head? line.toList = some (kind, body) → ¬ f.Rejects line.toList →
    (∃ found, Contributes kind found ∧ ofLines f [line] = .ok found) ∨
      ∃ fault, Refuses line kind fault ∧ ofLines f [line] = .error fault
  /-- Any other line declares nothing and is never at fault. -/
  idle : ∀ line, head? line.toList = none ∨ f.Rejects line.toList → ofLines f [line] = .ok {}
  /-- Such a line can be put in or taken out anywhere. -/
  insert : ∀ line, head? line.toList = none ∨ f.Rejects line.toList →
    ∀ xs ys, ofLines f (xs ++ line :: ys) = ofLines f (xs ++ ys)

/-- **Every filter reads sources line by line.** -/
theorem readsLineByLine (stage : Stage) (version : String) :
    ReadsLineByLine (Filter.ofVersion stage version) := by
  have haccepts : ∀ line, (Filter.ofVersion stage version).accepts line = true ↔
      ¬ (Filter.ofVersion stage version).Rejects line := fun line =>
    Filter.accepts_iff (asciiLowercase_version stage version)
  have hidle : ∀ line : String,
      head? line.toList = none ∨ (Filter.ofVersion stage version).Rejects line.toList →
        ofLines (Filter.ofVersion stage version) [line] = .ok {} := by
    rintro line (hnone | hrejects)
    · exact ofLines_of_idle (Or.inl hnone)
    · refine ofLines_of_idle (Or.inr ?_)
      rw [← Bool.not_eq_true, haccepts]
      exact not_not.mpr hrejects
  exact {
    append := ofLines_append
    directive := fun line kind body hhead hfree =>
      contributes_or_refuses hhead ((haccepts line.toList).mpr hfree)
    idle := hidle
    insert := fun line h => ofLines_insert (hidle line h) }

end ShaderCombos.Declarations
