import ShaderCombos.FileSystem.Action

/-!
# `Proofs.Outcomes` — taking a successful step apart

Steps are chained in two ways: an `Except` stops at the first error, and an `Action` also passes the file
system along. A successful chain is a successful run of each part. The lemmas here say that once for each
way of building a step; later proofs peel a run with them from the front and never open a monad.

## Contents
- **Outcomes.** `except_bind_eq_ok`, `except_bind_eq_error`, `except_map_eq_ok` and the wrappers of
  `Attempt`.
- **Actions.** `bind_eq_ok`, `pure_eq_ok`, `query_eq_ok`, `change_eq_ok` for success, `bind_eq_error` for
  failure; `bind_of_ok` and `bind_of_error` run a sequence whose first part is known, `query_of_error` and
  `change_of_error` fail.
-/

namespace ShaderCombos

variable {α β ε δ : Type}

/-! ## Outcomes -/

/-- A chain of two steps succeeds exactly if both do. -/
theorem except_bind_eq_ok {x : Except ε α} {f : α → Except ε β} {b : β} :
    (x >>= f) = .ok b ↔ ∃ a, x = .ok a ∧ f a = .ok b := by
  cases x with
  | error e => simp [bind, Except.bind]
  | ok a => simp [bind, Except.bind]

/-- A chain of two steps fails with the error of the first step that fails. -/
theorem except_bind_eq_error {x : Except ε α} {f : α → Except ε β} {e : ε} :
    (x >>= f) = .error e ↔ x = .error e ∨ ∃ a, x = .ok a ∧ f a = .error e := by
  cases x with
  | error e' => simp [bind, Except.bind]
  | ok a => simp [bind, Except.bind]

theorem except_map_eq_ok {x : Except ε α} {f : α → β} {b : β} :
    x.map f = .ok b ↔ ∃ a, x = .ok a ∧ f a = b := by
  cases x with
  | error e => simp [Except.map]
  | ok a => simp [Except.map]

theorem except_mapError_eq_ok {x : Except ε α} {f : ε → δ} {a : α} :
    x.mapError f = .ok a ↔ x = .ok a := by
  cases x with
  | error e =>
      constructor
      · rintro ⟨⟩
      · rintro ⟨⟩
  | ok a =>
      constructor
      · rintro ⟨⟩
        rfl
      · rintro ⟨⟩
        rfl

theorem Attempt.ofFaulty_eq_ok {activities : List Activity} {x : Except Fault α} {a : α} :
    Attempt.ofFaulty activities x = .ok a ↔ x = .ok a :=
  except_mapError_eq_ok

theorem Attempt.ofFile_eq_ok {activity : Activity} {x : Except FileError α} {a : α} :
    Attempt.ofFile activity x = .ok a ↔ x = .ok a :=
  except_mapError_eq_ok

/-! ## Actions -/

namespace Action

variable {fs fs' : FileSystem}

/-- **A sequence succeeds exactly if both parts do**, the second where the first has left off. -/
theorem bind_eq_ok {x : Action α} {f : α → Action β} {b : β} :
    (x >>= f) fs = (.ok b, fs') ↔ ∃ a fs₁, x fs = (.ok a, fs₁) ∧ f a fs₁ = (.ok b, fs') := by
  show ExceptT.bindCont f (x fs).1 (x fs).2 = (.ok b, fs') ↔ _
  rcases x fs with ⟨outcome, fs₁⟩
  cases outcome with
  | error e =>
      constructor
      · intro h
        cases h
      · rintro ⟨a, fs₂, hx, -⟩
        cases hx
  | ok a =>
      constructor
      · intro h
        exact ⟨a, fs₁, rfl, h⟩
      · rintro ⟨a', fs₂, hx, hf⟩
        cases hx
        exact hf

/-- A sequence fails where its first part does, or where the second does after it. -/
theorem bind_eq_error {x : Action α} {f : α → Action β} {e : Failure} :
    (x >>= f) fs = (.error e, fs') ↔
      x fs = (.error e, fs') ∨ ∃ a fs₁, x fs = (.ok a, fs₁) ∧ f a fs₁ = (.error e, fs') := by
  show ExceptT.bindCont f (x fs).1 (x fs).2 = (.error e, fs') ↔ _
  rcases x fs with ⟨outcome, fs₁⟩
  cases outcome with
  | error e' =>
      constructor
      · intro h
        cases h
        exact Or.inl rfl
      · rintro (h | ⟨a, fs₂, hx, -⟩)
        · cases h
          rfl
        · cases hx
  | ok a =>
      constructor
      · intro h
        exact Or.inr ⟨a, fs₁, rfl, h⟩
      · rintro (h | ⟨a', fs₂, hx, hf⟩)
        · cases h
        · cases hx
          exact hf

theorem bind_of_ok {x : Action α} {a : α} (h : x fs = (.ok a, fs')) (f : α → Action β) :
    (x >>= f) fs = f a fs' := by
  show ExceptT.bindCont f (x fs).1 (x fs).2 = _
  rw [h]
  rfl

theorem bind_of_error {x : Action α} {e : Failure} (h : x fs = (.error e, fs')) (f : α → Action β) :
    (x >>= f) fs = (.error e, fs') := by
  show ExceptT.bindCont f (x fs).1 (x fs).2 = _
  rw [h]
  rfl

theorem pure_eq_ok {a b : α} : (pure a : Action α) fs = (.ok b, fs') ↔ a = b ∧ fs = fs' := by
  show ((.ok a : Attempt α), fs) = (.ok b, fs') ↔ _
  rw [Prod.mk.injEq, Except.ok.injEq]

/-- A question is answered without a change. -/
theorem query_eq_ok {question : FileSystem → Attempt α} {a : α} :
    query question fs = (.ok a, fs') ↔ question fs = .ok a ∧ fs = fs' := by
  unfold query
  rw [Prod.mk.injEq]

theorem query_of_error {question : FileSystem → Attempt α} {e : Failure}
    (h : question fs = .error e) : query question fs = (.error e, fs) := by
  unfold query
  rw [h]

/-- A change happens as a whole. -/
theorem change_eq_ok {activity : Activity} {edit : FileSystem → Except FileError FileSystem} {u : Unit} :
    change activity edit fs = (.ok u, fs') ↔ edit fs = .ok fs' := by
  unfold change
  cases edit fs with
  | error e =>
      constructor
      · intro h
        cases h
      · intro h
        cases h
  | ok fs₁ =>
      constructor
      · intro h
        cases h
        rfl
      · intro h
        cases h
        rfl

/-- A change that cannot be made is none. -/
theorem change_of_error {activity : Activity} {edit : FileSystem → Except FileError FileSystem}
    {e : FileError} (h : edit fs = .error e) :
    change activity edit fs = (.error ⟨[activity], .file e⟩, fs) := by
  unfold change
  rw [h]

end Action

end ShaderCombos
