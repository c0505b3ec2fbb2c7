import GrammarCheck.Checker

/-! # Running a check

A run works on goals until none is left or one fails. A failed run closes the groups that it had
opened, so the checker can be asked again.
-/

namespace GrammarCheck.Checker

variable {τ ρ : Type} [TokenStream τ]

@[simp] theorem tokensLeft_note (event : Event) (checker : Checker τ ρ) :
    (checker.note event).tokensLeft = checker.tokensLeft :=
  TokenStream.note_eq event checker.tokens

theorem tokensLeft_peek_le {checker next : Checker τ ρ} {token : Token}
    (shown : checker.peek = .ok token next) : next.tokensLeft ≤ checker.tokensLeft := by
  obtain ⟨tokens, read, rfl⟩ := Outcome.lift_eq_ok_iff.mp shown
  have bound := TokenStream.peek_le checker.tokens
  rwa [read] at bound

theorem tokensLeft_drop_le {checker next : Checker τ ρ}
    (moved : checker.drop = .ok () next) : next.tokensLeft ≤ checker.tokensLeft := by
  obtain ⟨tokens, read, rfl⟩ := Outcome.lift_eq_ok_iff.mp moved
  have bound := TokenStream.drop_le checker.tokens
  rwa [read] at bound

/-- To drop a token that does not end the input comes closer to the end. -/
theorem tokensLeft_drop_lt {before checker next : Checker τ ρ} {token : Token}
    (shown : before.peek = .ok token checker) (notEnd : token.kind ≠ .endOfInput)
    (moved : checker.drop = .ok () next) : next.tokensLeft < before.tokensLeft := by
  have bound := tokensLeft_peek_le shown
  obtain ⟨tokens, read, rfl⟩ := Outcome.lift_eq_ok_iff.mp shown
  obtain ⟨rest, dropped, rfl⟩ := Outcome.lift_eq_ok_iff.mp moved
  exact Nat.lt_of_lt_of_le (TokenStream.drop_lt read notEnd dropped) bound

/-- No token that starts a factor ends the input. -/
theorem notEnd_of_factorKinds {kind : Token.Kind} (starts : kind ∈ Token.Kind.factorKinds) :
    kind ≠ .endOfInput := by
  rintro rfl
  simp [Token.Kind.factorKinds] at starts

/-- Entering a factor drops its first token, and adds at most the goals of a group. -/
theorem tokensLeft_enterFactor_lt {before checker next : Checker τ ρ} {token : Token}
    {goals pushed : List Goal} (shown : before.peek = .ok token checker)
    (notEnd : token.kind ≠ .endOfInput)
    (entered : checker.enterFactor token goals = .ok pushed next) :
    next.tokensLeft < before.tokensLeft ∧ Goal.totalWeight pushed ≤ Goal.totalWeight goals + 6 := by
  unfold enterFactor at entered
  split at entered
  · obtain ⟨_, moved, rfl⟩ := Outcome.map_eq_ok_iff.mp entered
    exact ⟨tokensLeft_drop_lt shown notEnd moved, Nat.le_add_right _ _⟩
  · split at entered
    · cases entered
    · obtain ⟨_, after, moved, rest⟩ := Outcome.andThen_eq_ok_iff.mp entered
      have smaller := tokensLeft_drop_lt shown notEnd moved
      cases rest
      refine ⟨smaller, ?_⟩
      simp only [Goal.totalWeight_cons, Goal.weight]
      omega

variable [Receiver ρ]

theorem tokensLeft_reject {found : Token} {expected : List Token.Kind} {checker next : Checker τ ρ}
    (rejected : checker.reject found expected = .ok () next) :
    next.tokensLeft = checker.tokensLeft := by
  unfold reject at rejected
  split at rejected
  · cases rejected
    exact tokensLeft_note _ _
  · obtain ⟨receiver, _, rfl⟩ := Outcome.lift_eq_ok_iff.mp rejected
    exact tokensLeft_note _ checker

theorem tokensLeft_require_le {kinds : List Token.Kind} {checker next : Checker τ ρ}
    (done : checker.require kinds = .ok () next) : next.tokensLeft ≤ checker.tokensLeft := by
  obtain ⟨token, middle, shown, further⟩ := Outcome.andThen_eq_ok_iff.mp done
  have bound := tokensLeft_peek_le shown
  split at further
  · exact Nat.le_trans (tokensLeft_drop_le further) bound
  · rwa [tokensLeft_reject further]

def stepsLeft (goals : List Goal) (checker : Checker τ ρ) : Nat :=
  checker.tokensLeft * 10 + Goal.totalWeight goals

/-- Every step comes closer to the end: the goals get lighter, or a token is dropped for at most
nine units of weight. -/
theorem stepsLeft_step_lt {goal : Goal} {checker next : Checker τ ρ} {pushed : List Goal}
    (success : checker.step goal = .ok pushed next) :
    next.stepsLeft pushed < checker.stepsLeft [goal] := by
  unfold stepsLeft
  cases goal with
  | oneOf kinds =>
    obtain ⟨_, done, rfl⟩ := Outcome.map_eq_ok_iff.mp success
    have bound := tokensLeft_require_le done
    simp only [Goal.totalWeight_cons, Goal.totalWeight_nil, Goal.weight]
    omega
  | groupEnd bracket =>
    obtain ⟨_, done, rfl⟩ := Outcome.map_eq_ok_iff.mp success
    have bound := tokensLeft_require_le done
    change next.tokensLeft ≤ checker.tokensLeft at bound
    simp only [Goal.totalWeight_cons, Goal.totalWeight_nil, Goal.weight]
    omega
  | production | definition | expression | term =>
    cases success
    simp only [Goal.totalWeight_cons, Goal.totalWeight_nil, Goal.weight]
    omega
  | productions =>
    obtain ⟨token, middle, shown, further⟩ := Outcome.andThen_eq_ok_iff.mp success
    split at further
    · next named =>
      obtain ⟨_, moved, rfl⟩ := Outcome.map_eq_ok_iff.mp further
      have bound := tokensLeft_drop_lt shown (by simp [named]) moved
      simp only [Goal.totalWeight_cons, Goal.totalWeight_nil, Goal.weight]
      omega
    · cases further
      have bound := tokensLeft_peek_le shown
      simp only [Goal.totalWeight_cons, Goal.totalWeight_nil, Goal.weight]
      omega
  | progress first =>
    obtain ⟨token, middle, shown, further⟩ := Outcome.andThen_eq_ok_iff.mp success
    have bound := tokensLeft_peek_le shown
    split at further
    · obtain ⟨_, moved, rfl⟩ := Outcome.map_eq_ok_iff.mp further
      have smaller := tokensLeft_drop_le moved
      rw [tokensLeft_note] at smaller
      simp only [Goal.totalWeight_cons, Goal.totalWeight_nil, Goal.weight]
      omega
    · cases further
      simp only [Goal.totalWeight_cons, Goal.totalWeight_nil, Goal.weight]
      omega
  | alternatives =>
    obtain ⟨token, middle, shown, further⟩ := Outcome.andThen_eq_ok_iff.mp success
    split at further
    · next bar =>
      obtain ⟨_, moved, rfl⟩ := Outcome.map_eq_ok_iff.mp further
      have bound := tokensLeft_drop_lt shown (by simp [bar]) moved
      simp only [Goal.totalWeight_cons, Goal.totalWeight_nil, Goal.weight]
      omega
    · cases further
      have bound := tokensLeft_peek_le shown
      simp only [Goal.totalWeight_cons, Goal.totalWeight_nil, Goal.weight]
      omega
  | factors =>
    obtain ⟨token, middle, shown, further⟩ := Outcome.andThen_eq_ok_iff.mp success
    split at further
    · next starts =>
      have bound := tokensLeft_enterFactor_lt shown (notEnd_of_factorKinds starts) further
      simp only [Goal.totalWeight_cons, Goal.totalWeight_nil, Goal.weight] at bound ⊢
      omega
    · cases further
      have bound := tokensLeft_peek_le shown
      simp only [Goal.totalWeight_cons, Goal.totalWeight_nil, Goal.weight]
      omega
  | factor =>
    obtain ⟨token, middle, shown, further⟩ := Outcome.andThen_eq_ok_iff.mp success
    split at further
    · next starts =>
      have bound := tokensLeft_enterFactor_lt shown (notEnd_of_factorKinds starts) further
      simp only [Goal.totalWeight_cons, Goal.totalWeight_nil, Goal.weight] at bound ⊢
      omega
    · obtain ⟨_, rejected, rfl⟩ := Outcome.map_eq_ok_iff.mp further
      have bound := tokensLeft_peek_le shown
      rw [← tokensLeft_reject rejected] at bound
      simp only [Goal.totalWeight_cons, Goal.totalWeight_nil, Goal.weight]
      omega

/-- Works on the goals in order. -/
def run (goals : List Goal) (checker : Checker τ ρ) : Outcome Failure (Checker τ ρ) Unit :=
  match goals with
  | [] => .ok () checker
  | goal :: rest =>
    match _stepped : checker.step goal with
    | .error failure next => .error failure { next with depth := next.depth - Goal.openGroups rest }
    | .ok pushed next => next.run (pushed ++ rest)
termination_by checker.stepsLeft goals
decreasing_by
  have smaller := stepsLeft_step_lt _stepped
  simp only [stepsLeft, Goal.totalWeight_cons, Goal.totalWeight_append, Goal.totalWeight_nil] at *
  omega

/-- Checks that what comes next derives from a nonterminal. -/
def check (nonterminal : Nonterminal) (checker : Checker τ ρ) :
    Outcome Failure (Checker τ ρ) Unit :=
  checker.run nonterminal.goals

end GrammarCheck.Checker
