/-! # Outcomes that keep their state

An operation on a stateful value ends in a result or in a failure, and either way it leaves a
state behind. A failed read has still moved the counters, and a later call goes on from there, so
the state after a failure is as much part of the answer as the state after a success.
-/

namespace GrammarCheck

instance decidableEqExcept {ε α : Type} [DecidableEq ε] [DecidableEq α] :
    DecidableEq (Except ε α)
  | .ok _, .ok _ => decidable_of_iff _ ⟨congrArg Except.ok, Except.ok.inj⟩
  | .error _, .error _ => decidable_of_iff _ ⟨congrArg Except.error, Except.error.inj⟩
  | .ok _, .error _ => .isFalse nofun
  | .error _, .ok _ => .isFalse nofun

/-- The end of an operation: a value or a failure, with the state that it leaves. -/
inductive Outcome (ε σ α : Type) where
  | ok (value : α) (state : σ)
  | error (failure : ε) (state : σ)
  deriving DecidableEq, Repr

namespace Outcome

variable {ε ε' σ τ α β : Type}

/-- The state after the operation, whether it succeeded or not. -/
def state : Outcome ε σ α → σ
  | ok _ state => state
  | error _ state => state

def result : Outcome ε σ α → Except ε α
  | ok value _ => .ok value
  | error failure _ => .error failure

/-- Carries the value on, leaving the state as it is. -/
def map (f : α → β) : Outcome ε σ α → Outcome ε σ β
  | ok value state => ok (f value) state
  | error failure state => error failure state

/-- Goes on from a success and stays with a failure. -/
def andThen (outcome : Outcome ε σ α) (further : α → σ → Outcome ε σ β) : Outcome ε σ β :=
  match outcome with
  | ok value state => further value state
  | error failure state => error failure state

/-- Puts the state back into the larger state that it was taken from, and names the failure in the
terms of that larger state. -/
def lift (name : ε → ε') (put : σ → τ) : Outcome ε σ α → Outcome ε' τ α
  | ok value state => ok value (put state)
  | error failure state => error (name failure) (put state)

@[simp] theorem state_ok (value : α) (state : σ) :
    (ok value state : Outcome ε σ α).state = state := rfl

@[simp] theorem state_error (failure : ε) (state : σ) :
    (error failure state : Outcome ε σ α).state = state := rfl

@[simp] theorem result_ok (value : α) (state : σ) :
    (ok value state : Outcome ε σ α).result = .ok value := rfl

@[simp] theorem result_error (failure : ε) (state : σ) :
    (error failure state : Outcome ε σ α).result = .error failure := rfl

@[simp] theorem andThen_ok (value : α) (state : σ) (further : α → σ → Outcome ε σ β) :
    (ok value state).andThen further = further value state := rfl

@[simp] theorem andThen_error (failure : ε) (state : σ) (further : α → σ → Outcome ε σ β) :
    (error failure state).andThen further = error failure state := rfl

/-- A sequence succeeds exactly when both its parts do. -/
theorem andThen_eq_ok_iff {outcome : Outcome ε σ α} {further : α → σ → Outcome ε σ β} {value : β}
    {state : σ} :
    outcome.andThen further = ok value state ↔
      ∃ first middle, outcome = ok first middle ∧ further first middle = ok value state := by
  cases outcome <;> simp [and_assoc]

theorem map_eq_ok_iff {outcome : Outcome ε σ α} {f : α → β} {value : β} {state : σ} :
    outcome.map f = ok value state ↔ ∃ first, outcome = ok first state ∧ f first = value := by
  cases outcome <;> simp [map, and_assoc, and_comm]

theorem lift_eq_ok_iff {outcome : Outcome ε σ α} {name : ε → ε'} {put : σ → τ} {value : α}
    {state : τ} :
    outcome.lift name put = ok value state ↔
      ∃ inner, outcome = ok value inner ∧ put inner = state := by
  cases outcome <;> simp [lift, and_assoc]

theorem eq_ok_of_result_eq {outcome : Outcome ε σ α} {value : α}
    (succeeded : outcome.result = .ok value) : outcome = ok value outcome.state := by
  cases outcome with
  | ok _ state => exact congrArg (ok · state) (Except.ok.inj succeeded)
  | error _ _ => contradiction

theorem eq_error_of_result_eq {outcome : Outcome ε σ α} {failure : ε}
    (failed : outcome.result = .error failure) : outcome = error failure outcome.state := by
  cases outcome with
  | ok _ _ => contradiction
  | error _ state => exact congrArg (error · state) (Except.error.inj failed)

@[simp] theorem state_map (f : α → β) (outcome : Outcome ε σ α) :
    (outcome.map f).state = outcome.state := by
  cases outcome <;> rfl

@[simp] theorem state_lift (name : ε → ε') (put : σ → τ) (outcome : Outcome ε σ α) :
    (outcome.lift name put).state = put outcome.state := by
  cases outcome <;> rfl

end Outcome

end GrammarCheck
