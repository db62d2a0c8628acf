import Mathlib.Logic.Basic

/-!
# Successful outcomes

When a sequence of steps that may fail succeeds, each of its steps does.
`bind_eq_ok_iff` takes one step off the front, and `bind_eq_error_iff` tells which
step failed where one did; the others read off what a guard or a last step
contributes.
-/

namespace FixtureMatrix

variable {ε α β : Type}

@[simp] theorem bind_eq_ok_iff {x : Except ε α} {f : α → Except ε β} {b : β} :
    (x >>= f) = .ok b ↔ ∃ a, x = .ok a ∧ f a = .ok b := by
  cases x with
  | error e => simp [bind, Except.bind]
  | ok a => simp [bind, Except.bind]

/-- A step fails, or it succeeds and what comes behind it fails. -/
theorem bind_eq_error_iff {x : Except ε α} {f : α → Except ε β} {e : ε} :
    (x >>= f) = .error e ↔ x = .error e ∨ ∃ a, x = .ok a ∧ f a = .error e := by
  cases x with
  | error cause => simp [bind, Except.bind]
  | ok a => simp [bind, Except.bind]

/-- A last step that only changes the result has the error of the one before. -/
theorem bind_pure_eq_error_iff {x : Except ε α} {f : α → β} {e : ε} :
    (x >>= fun a => pure (f a)) = .error e ↔ x = .error e := by
  simp [bind_eq_error_iff, pure, Except.pure]

@[simp] theorem pure_eq_ok_iff {a b : α} : (pure a : Except ε α) = .ok b ↔ a = b := by
  simp [pure, Except.pure]

/-- Two checks succeed one after the other exactly when each does. -/
theorem then_eq_ok_iff {x y : Except ε Unit} :
    (do x; y) = .ok () ↔ x = .ok () ∧ y = .ok () := by
  cases x with
  | error e => simp [bind, Except.bind]
  | ok u => simp [bind, Except.bind]

/-- The error of two checks one after the other is that of the first, or that of the
second where the first succeeds. -/
theorem then_eq_error_iff {x y : Except ε Unit} {e : ε} :
    (do x; y) = .error e ↔ x = .error e ∨ x = .ok () ∧ y = .error e := by
  cases x with
  | error cause => simp [bind, Except.bind]
  | ok u => simp [bind, Except.bind]

/-- A guard lets a run go on exactly when its condition fails. -/
theorem guard_eq_ok_iff {p : Prop} [Decidable p] {e : ε} {x : Except ε α} {a : α} :
    (if p then .error e else x) = .ok a ↔ ¬ p ∧ x = .ok a := by
  split <;> simp_all

/-- So does one at the head of further steps. -/
theorem guard_bind_eq_ok_iff {p : Prop} [Decidable p] {e : ε} {f : β → Except ε α}
    {x : Except ε α} {a : α} :
    (if p then .error e >>= f else x) = .ok a ↔ ¬ p ∧ x = .ok a := by
  split
  · simp_all [bind, Except.bind]
  · simp_all

/-- The error of a guarded run is that of the guard, or that of the run. -/
theorem guard_eq_error_iff {p : Prop} [Decidable p] {e e' : ε} {x : Except ε α} :
    (if p then .error e else x) = .error e' ↔ p ∧ e = e' ∨ ¬ p ∧ x = .error e' := by
  split <;> simp_all

/-- An error that is told in another way is that of the run. -/
theorem mapError_eq_error_iff {ε' : Type} {f : ε → ε'} {x : Except ε α} {e' : ε'} :
    x.mapError f = .error e' ↔ ∃ e, x = .error e ∧ f e = e' := by
  cases x with
  | error e =>
    show Except.error (f e) = .error e' ↔ _
    simp
  | ok a =>
    show Except.ok a = .error e' ↔ _
    simp

theorem mapError_eq_ok_iff {ε' : Type} {f : ε → ε'} {x : Except ε α} {a : α} :
    x.mapError f = .ok a ↔ x = .ok a := by
  cases x with
  | error e =>
    show Except.error (f e) = .ok a ↔ _
    simp
  | ok b =>
    show Except.ok b = .ok a ↔ _
    simp

/-- A check that fails with exactly the errors that are found succeeds where none is. -/
theorem exists_ok_iff_eq_none {x : Except ε α} {found : Option ε}
    (h : ∀ e, x = .error e ↔ found = some e) : (∃ a, x = .ok a) ↔ found = none := by
  cases x with
  | error e => simp [(h e).1 rfl]
  | ok a =>
    have hnone : found = none := by
      rw [Option.eq_none_iff_forall_ne_some]
      intro e he
      cases (h e).2 he
    simp [hnone]

/-- A map succeeds where each of its steps does. -/
theorem mapM_eq_ok {f : α → Except ε β} {g : α → β} {as : List α}
    (h : ∀ a ∈ as, f a = .ok (g a)) : as.mapM f = .ok (as.map g) := by
  induction as with
  | nil => rfl
  | cons a as ih =>
    obtain ⟨ha, has⟩ := List.forall_mem_cons.1 h
    rw [List.mapM_cons, ha, ih has]
    rfl

end FixtureMatrix
