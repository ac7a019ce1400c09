import RegisterWrites.Log

/-!
# Computations that may fail

What follows from the outcome of computations in `Except` that stand in a row: how far they came
(`failure?_foldlM`), and what each of them gave (`bind_eq_ok_iff`).
-/

namespace RegisterWrites

variable {ε ε' α β : Type} {a : α} {b : β} {e : ε}

theorem bind_eq_ok_iff {x : Except ε α} {f : α → Except ε β} :
    (x >>= f) = .ok b ↔ ∃ a, x = .ok a ∧ f a = .ok b := by
  cases x with
  | error cause => exact ⟨nofun, nofun⟩
  | ok a =>
    constructor
    · intro h
      exact ⟨a, rfl, h⟩
    · rintro ⟨_, ⟨⟩, h⟩
      exact h

theorem bind_eq_error_iff {x : Except ε α} {f : α → Except ε β} :
    (x >>= f) = .error e ↔ x = .error e ∨ ∃ a, x = .ok a ∧ f a = .error e := by
  cases x with
  | error cause =>
    constructor
    · rintro ⟨⟩
      exact .inl rfl
    · rintro (⟨⟨⟩⟩ | ⟨_, ⟨⟩, -⟩)
      rfl
  | ok a =>
    constructor
    · intro h
      exact .inr ⟨a, rfl, h⟩
    · rintro (⟨⟨⟩⟩ | ⟨_, ⟨⟩, h⟩)
      exact h

/-- Behind a guard `c` that throws, `y` is not reached. -/
theorem ite_throw_eq_ok_iff {c : Prop} [Decidable c] {y : Except ε β} :
    (if c then throw e >>= fun (_ : PUnit) => y else y) = .ok b ↔ ¬c ∧ y = .ok b := by
  by_cases hc : c
  · rw [if_pos hc]
    exact ⟨nofun, fun h => absurd hc h.1⟩
  · rw [if_neg hc]
    exact ⟨fun h => ⟨hc, h⟩, fun h => h.2⟩

theorem pure_ne_error : (pure a : Except ε α) ≠ .error e :=
  nofun

/-- A value that `x` lacks is the error `e`. -/
theorem elim_throw_eq_ok_iff {x : Option α} :
    x.elim (throw e) pure = (.ok a : Except ε α) ↔ x = some a := by
  cases x with
  | none => exact ⟨nofun, nofun⟩
  | some b =>
    constructor
    · rintro ⟨⟩
      rfl
    · rintro ⟨⟩
      rfl

theorem elim_throw_eq_error_iff {x : Option α} {e' : ε} :
    x.elim (throw e) pure = (.error e' : Except ε α) ↔ x = none ∧ e = e' := by
  cases x with
  | none =>
    constructor
    · rintro ⟨⟩
      exact ⟨rfl, rfl⟩
    · rintro ⟨-, rfl⟩
      rfl
  | some b => exact ⟨nofun, nofun⟩

theorem mapError_eq_ok_iff {x : Except ε α} {g : ε → ε'} : x.mapError g = .ok a ↔ x = .ok a := by
  cases x with
  | error cause => exact ⟨nofun, nofun⟩
  | ok b =>
    constructor
    · rintro ⟨⟩
      rfl
    · rintro ⟨⟩
      rfl

theorem mapError_eq_error_iff {x : Except ε α} {g : ε → ε'} {e : ε'} :
    x.mapError g = .error e ↔ ∃ cause, x = .error cause ∧ g cause = e := by
  cases x with
  | error cause =>
    constructor
    · intro h
      exact ⟨cause, rfl, Except.error.inj h⟩
    · rintro ⟨_, ⟨⟩, rfl⟩
      rfl
  | ok b => exact ⟨nofun, nofun⟩

/-! ## The error of a run -/

/-- The error, if there is one. -/
def failure? : Except ε α → Option ε
  | .ok _ => none
  | .error e => some e

theorem failure?_eq_some_iff {x : Except ε α} : failure? x = some e ↔ x = .error e := by
  cases x with
  | error cause =>
    constructor
    · rintro ⟨⟩
      rfl
    · rintro ⟨⟩
      rfl
  | ok a => exact ⟨nofun, nofun⟩

theorem failure?_eq_none_iff {x : Except ε α} : failure? x = none ↔ ∃ a, x = .ok a := by
  cases x with
  | error cause => exact ⟨nofun, nofun⟩
  | ok a => exact ⟨fun _ => ⟨a, rfl⟩, fun _ => rfl⟩

theorem failure?_bind_pure (x : Except ε α) (f : α → β) :
    failure? (x >>= fun a => pure (f a)) = failure? x := by
  cases x with
  | error cause => rfl
  | ok a => rfl

/-- Where `step` fails as `fault?` says, whatever the state, the first of `as` with a fault
decides. -/
theorem failure?_foldlM {σ : Type} {step : σ → α → Except ε σ} {fault? : α → Option ε}
    (hstep : ∀ s a, failure? (step s a) = fault? a) (as : List α) (s : σ) :
    failure? (as.foldlM step s) = as.findSome? fault? := by
  induction as generalizing s with
  | nil => rfl
  | cons a as ih =>
    rw [List.foldlM_cons, List.findSome?_cons, ← hstep s a]
    cases step s a with
    | error cause => rfl
    | ok next => exact ih next

theorem Logged.result_bind (x : Logged ε α) (f : α → Logged ε β) :
    (x >>= f).result = x.result >>= fun a => (f a).result := by
  cases h : x.result with
  | error e => rw [Logged.bind_of_error h]; rfl
  | ok a => rw [Logged.bind_of_ok h]; rfl

end RegisterWrites
