import GrammarCheck.Outcome

/-! # Outcomes that go together

Two operations go together when both succeed or both fail, with values, failures and states that
stand for each other. The first may also have halted for a reason of its own, while the second went
on. They are alike when the values and the failures are the same.
-/

namespace GrammarCheck.Outcome

variable {ε ε' σ τ α β : Type}

/-- What holds behind the first of two operations and is kept by the second holds behind both. -/
theorem holds_andThen {P : σ → Prop} {outcome : Outcome ε σ α} {further : α → σ → Outcome ε σ β}
    (holds : P outcome.state) (keeps : ∀ value next, P next → P (further value next).state) :
    P (outcome.andThen further).state := by
  cases outcome with
  | ok value next => exact keeps value next holds
  | error failure next => exact holds

/-- The outcomes go together, or the first has halted. A first operation that has halted takes no
further part, so what is known of the second is a property of the state that it has reached. -/
inductive Mirrors (halted : ε → σ → τ → Prop) (failures : ε → ε' → Prop) (states : σ → τ → Prop)
    (values : α → β → Prop) : Outcome ε σ α → Outcome ε' τ β → Prop
  | ok {value : α} {value' : β} {left : σ} {right : τ} (same : values value value')
    (related : states left right) :
    Mirrors halted failures states values (.ok value left) (.ok value' right)
  | error {failure : ε} {failure' : ε'} {left : σ} {right : τ} (same : failures failure failure')
    (related : states left right) :
    Mirrors halted failures states values (.error failure left) (.error failure' right)
  | halt {failure : ε} {left : σ} {right : Outcome ε' τ β}
    (stopped : halted failure left right.state) :
    Mirrors halted failures states values (.error failure left) right

namespace Mirrors

variable {halted : ε → σ → τ → Prop} {failures : ε → ε' → Prop} {states : σ → τ → Prop}
  {values : α → β → Prop} {left : Outcome ε σ α} {right : Outcome ε' τ β}

/-- An operation goes together with itself. -/
theorem refl {failures : ε → ε → Prop} {states : σ → σ → Prop} {values : α → α → Prop}
    {halted : ε → σ → σ → Prop} (outcome : Outcome ε σ α)
    (failure_refl : ∀ failure, failures failure failure) (state_refl : ∀ state, states state state)
    (value_refl : ∀ value, values value value) :
    Mirrors halted failures states values outcome outcome := by
  cases outcome with
  | ok value state => exact .ok (value_refl value) (state_refl state)
  | error failure state => exact .error (failure_refl failure) (state_refl state)

/-- What goes together goes together in a weaker sense. -/
theorem imp {weaker : σ → τ → Prop} (mirrors : Mirrors halted failures states values left right)
    (weaken : ∀ {first second}, states first second → weaker first second) :
    Mirrors halted failures weaker values left right := by
  cases mirrors with
  | ok same related => exact .ok same (weaken related)
  | error same related => exact .error same (weaken related)
  | halt stopped => exact .halt stopped

/-- What goes together goes together for weaker notions of a halt and of failures. -/
theorem mono {halted' : ε → σ → τ → Prop} {failures' : ε → ε' → Prop}
    (mirrors : Mirrors halted failures states values left right)
    (stops : ∀ {failure first second}, halted failure first second → halted' failure first second)
    (fails : ∀ {failure failure'}, failures failure failure' → failures' failure failure') :
    Mirrors halted' failures' states values left right := by
  cases mirrors with
  | ok same related => exact .ok same related
  | error same related => exact .error (fails same) related
  | halt stopped => exact .halt (stops stopped)

theorem map {α' β' : Type} {values' : α' → β' → Prop} {f : α → α'} {g : β → β'}
    (mirrors : Mirrors halted failures states values left right)
    (further : ∀ {first second}, values first second → values' (f first) (g second)) :
    Mirrors halted failures states values' (left.map f) (right.map g) := by
  cases mirrors with
  | ok same related => exact .ok (further same) related
  | error same related => exact .error same related
  | halt stopped => exact .halt (by rwa [state_map])

theorem lift {ω ω' σ' τ' : Type} {halted' : ω → σ' → τ' → Prop} {failures' : ω → ω' → Prop}
    {states' : σ' → τ' → Prop} {name : ε → ω} {name' : ε' → ω'} {put : σ → σ'} {put' : τ → τ'}
    (mirrors : Mirrors halted failures states values left right)
    (stops : ∀ {failure first second}, halted failure first second →
      halted' (name failure) (put first) (put' second))
    (fails : ∀ {failure failure'}, failures failure failure' →
      failures' (name failure) (name' failure'))
    (puts : ∀ {first second}, states first second → states' (put first) (put' second)) :
    Mirrors halted' failures' states' values (left.lift name put) (right.lift name' put') := by
  cases mirrors with
  | ok same related => exact .ok same (puts related)
  | error same related => exact .error (fails same) (puts related)
  | halt stopped => exact .halt (by rw [state_lift]; exact stops stopped)

/-- Sequences go together part by part. Behind a halt it is the second alone that goes on. -/
theorem andThen_of {α' β' : Type} {stronger : σ → τ → Prop} {values' : α' → β' → Prop}
    {first : α → σ → Outcome ε σ α'} {second : β → τ → Outcome ε' τ β'}
    (mirrors : Mirrors halted failures stronger values left right)
    (weaken : ∀ {left right}, stronger left right → states left right)
    (further : ∀ {value value' next next'}, left = .ok value next → values value value' →
      stronger next next' → Mirrors halted failures states values' (first value next)
        (second value' next'))
    (lasting : ∀ {failure left right} (value), halted failure left right →
      halted failure left (second value right).state) :
    Mirrors halted failures states values' (left.andThen first) (right.andThen second) := by
  cases mirrors with
  | ok same related => exact further rfl same related
  | error same related => exact .error same (weaken related)
  | @halt failure left right stopped =>
    cases right with
    | ok value right => exact .halt (lasting value stopped)
    | error failure' right => exact .halt stopped

theorem andThen {α' β' : Type} {stronger : σ → τ → Prop} {values' : α' → β' → Prop}
    {first : α → σ → Outcome ε σ α'} {second : β → τ → Outcome ε' τ β'}
    (mirrors : Mirrors halted failures stronger values left right)
    (weaken : ∀ {left right}, stronger left right → states left right)
    (further : ∀ {value value' left right}, values value value' → stronger left right →
      Mirrors halted failures states values' (first value left) (second value' right))
    (lasting : ∀ {failure left right} (value), halted failure left right →
      halted failure left (second value right).state) :
    Mirrors halted failures states values' (left.andThen first) (right.andThen second) :=
  mirrors.andThen_of weaken (fun _ => further) lasting

end Mirrors

/-- Two outcomes give the same and leave related states. -/
inductive Alike (related : σ → τ → Prop) : Outcome ε σ α → Outcome ε τ α → Prop
  | ok (value : α) {left : σ} {right : τ} (states : related left right) :
    Alike related (.ok value left) (.ok value right)
  | error (failure : ε) {left : σ} {right : τ} (states : related left right) :
    Alike related (.error failure left) (.error failure right)

namespace Alike

variable {related : σ → τ → Prop} {left : Outcome ε σ α} {right : Outcome ε τ α}

/-- Outcomes that are alike go together, where nothing halts. -/
theorem mirrors {halted : ε → σ → τ → Prop} {failures : ε → ε → Prop} {values : α → α → Prop}
    (alike : Alike related left right) (failure_refl : ∀ failure, failures failure failure)
    (value_refl : ∀ value, values value value) :
    Mirrors halted failures related values left right := by
  cases alike with
  | ok value states => exact .ok (value_refl value) states
  | error failure states => exact .error (failure_refl failure) states

theorem of_mirrors {halted : ε → σ → τ → Prop} {failures : ε → ε → Prop} {values : α → α → Prop}
    (mirrors : Mirrors halted failures related values left right)
    (going : ∀ {failure first second}, ¬ halted failure first second)
    (failure_eq : ∀ {failure failure'}, failures failure failure' → failure = failure')
    (value_eq : ∀ {value value'}, values value value' → value = value') :
    Alike related left right := by
  cases mirrors with
  | ok same states =>
    obtain rfl := value_eq same
    exact .ok _ states
  | error same states =>
    obtain rfl := failure_eq same
    exact .error _ states
  | halt stopped => exact absurd stopped going

theorem andThen {stronger : σ → τ → Prop} {first : α → σ → Outcome ε σ β}
    {second : α → τ → Outcome ε τ β} (alike : Alike stronger left right)
    (weaken : ∀ {left right}, stronger left right → related left right)
    (further : ∀ value {left right}, stronger left right →
      Alike related (first value left) (second value right)) :
    Alike related (left.andThen first) (right.andThen second) := by
  cases alike with
  | ok value states => exact further value states
  | error failure states => exact .error failure (weaken states)

theorem mono {weaker : σ → τ → Prop} (alike : Alike related left right)
    (weaken : ∀ {left right}, related left right → weaker left right) :
    Alike weaker left right := by
  cases alike with
  | ok value states => exact .ok value (weaken states)
  | error failure states => exact .error failure (weaken states)

theorem states (alike : Alike related left right) : related left.state right.state := by
  cases alike with
  | ok _ states => exact states
  | error _ states => exact states

theorem result_eq (alike : Alike related left right) : left.result = right.result := by
  cases alike <;> rfl

theorem exists_ok {value : α} {state : σ} (alike : Alike related (.ok value state) right) :
    ∃ state', right = .ok value state' ∧ related state state' := by
  cases alike with
  | ok _ states => exact ⟨_, rfl, states⟩

theorem exists_error {failure : ε} {state : σ}
    (alike : Alike related (.error failure state) right) :
    ∃ state', right = .error failure state' ∧ related state state' := by
  cases alike with
  | error _ states => exact ⟨_, rfl, states⟩

end Alike

end GrammarCheck.Outcome
