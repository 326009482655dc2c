/-!
# Steps that may fail

When steps taken one after the other give a value, and when they fail.
-/
namespace AccessControl

theorem bind_eq_ok_iff {ε α β : Type} {step : Except ε α} {next : α → Except ε β} {value : β} :
    (step >>= next) = .ok value ↔ ∃ x, step = .ok x ∧ next x = .ok value := by
  cases step with
  | error e =>
    constructor
    · intro fails
      cases fails
    · rintro ⟨x, succeeds, -⟩
      cases succeeds
  | ok x =>
    constructor
    · intro succeeds
      exact ⟨x, rfl, succeeds⟩
    · rintro ⟨y, same, succeeds⟩
      cases same
      exact succeeds

theorem bind_eq_error_iff {ε α β : Type} {step : Except ε α} {next : α → Except ε β} {e : ε} :
    (step >>= next) = .error e ↔ step = .error e ∨ ∃ x, step = .ok x ∧ next x = .error e := by
  cases step with
  | error e' =>
    constructor
    · intro fails
      cases fails
      exact Or.inl rfl
    · rintro (fails | ⟨x, succeeds, -⟩)
      · cases fails
        rfl
      · cases succeeds
  | ok x =>
    constructor
    · intro fails
      exact Or.inr ⟨x, rfl, fails⟩
    · rintro (fails | ⟨y, same, fails⟩)
      · cases fails
      · cases same
        exact fails

@[simp] theorem mapError_ok {ε ε' α : Type} (f : ε → ε') (value : α) :
    (.ok value : Except ε α).mapError f = .ok value := rfl

@[simp] theorem mapError_error {ε ε' α : Type} (f : ε → ε') (e : ε) :
    (.error e : Except ε α).mapError f = .error (f e) := rfl

theorem mapError_eq_ok_iff {ε ε' α : Type} {step : Except ε α} {f : ε → ε'} {value : α} :
    step.mapError f = .ok value ↔ step = .ok value := by
  cases step <;> simp

theorem mapError_eq_error_iff {ε ε' α : Type} {step : Except ε α} {f : ε → ε'} {e' : ε'} :
    step.mapError f = .error e' ↔ ∃ e, step = .error e ∧ f e = e' := by
  cases step <;> simp

end AccessControl
