import GrammarCheck.Checker.Run
import GrammarCheck.Proofs.Grammar.GoalLanguage
import GrammarCheck.Proofs.Mirroring

/-! # Runs step by step

A run is a step and then the run of the goals that the step leaves. The tokens change only by what
can be done with a stream, and the receiver and the number of diagnostics only where a diagnostic is
handed over.
-/

namespace GrammarCheck.Checker

open Goal

variable {τ ρ : Type} {checker next : Checker τ ρ} {goal : Goal}
  {goals front back pushed : List Goal}

section Runs

variable [TokenStream τ] [Receiver ρ]

theorem run_nil : checker.run [] = .ok () checker := by
  rw [run]

theorem run_of_step_ok (stepped : checker.step goal = .ok pushed next) :
    checker.run (goal :: goals) = next.run (pushed ++ goals) := by
  rw [run]
  split
  · next failed => simp [stepped] at failed
  · next stepped' =>
    obtain ⟨rfl, rfl⟩ := Outcome.ok.inj (stepped.symm.trans stepped')
    rfl

theorem run_of_step_error {failure : Failure} (failed : checker.step goal = .error failure next) :
    checker.run (goal :: goals) =
      .error failure { next with depth := next.depth - openGroups goals } := by
  rw [run]
  split
  · next failed' =>
    obtain ⟨rfl, rfl⟩ := Outcome.error.inj (failed.symm.trans failed')
    rfl
  · next stepped => simp [failed] at stepped

/-- A run that comes through got through its first step. -/
theorem exists_step_of_run_ok (passed : checker.run (goal :: goals) = .ok () next) :
    ∃ pushed middle, checker.step goal = .ok pushed middle ∧
      middle.run (pushed ++ goals) = .ok () next := by
  cases stepped : checker.step goal with
  | ok pushed middle =>
    rw [run_of_step_ok stepped] at passed
    exact ⟨pushed, middle, rfl, passed⟩
  | error failure middle =>
    rw [run_of_step_error stepped] at passed
    contradiction

/-- Goals behind which no group is open can be worked on in two runs. -/
theorem run_append (closed : openGroups back = 0) : checker.run (front ++ back) =
    (checker.run front).andThen fun () next => next.run back := by
  induction front, checker using run.induct with
  | case1 checker => rw [run_nil, List.nil_append, Outcome.andThen_ok]
  | case2 checker goal goals failure next failed =>
    rw [List.cons_append, run_of_step_error failed, run_of_step_error failed, openGroups_append,
      closed, Outcome.andThen_error, Nat.add_zero]
  | case3 checker goal goals pushed next stepped ih =>
    rw [List.cons_append, run_of_step_ok stepped, run_of_step_ok stepped, ← List.append_assoc, ih]

end Runs

section Preserving

variable [TokenStream τ] [Receiver ρ]

/-- A checker at work keeps the property until a production is stuck. While a token is the lookahead
more may hold, and a token is dropped or reported only then. -/
structure Sustains (I : Checker τ ρ → Prop) (Showing : Token → Checker τ ρ → Prop) : Prop where
  of_showing {checker : Checker τ ρ} {token : Token} : Showing token checker → I checker
  peek_ok {checker next : Checker τ ρ} {token : Token} (holds : I checker)
    (shown : checker.peek = .ok token next) : Showing token next
  peek_error {checker next : Checker τ ρ} {failure : Failure} (holds : I checker)
    (failed : checker.peek = .error failure next) : I next
  drop {checker : Checker τ ρ} {token : Token} (showing : Showing token checker) :
    I checker.drop.state
  reject {checker : Checker τ ρ} {token : Token} (expected : List Token.Kind)
    (showing : Showing token checker) : I (checker.reject token expected).state
  withDepth {checker : Checker τ ρ} (depth : Nat) (holds : I checker) :
    I { checker with depth }

namespace Sustains

variable {I : Checker τ ρ → Prop} {Showing : Token → Checker τ ρ → Prop}
  (sustains : Sustains I Showing)

include sustains

theorem peekThen {α : Type} {further : Token → Checker τ ρ → Outcome Failure (Checker τ ρ) α}
    (holds : I checker)
    (each : ∀ {token next}, Showing token next → I (further token next).state) :
    I (checker.peek.andThen further).state := by
  cases shown : checker.peek with
  | ok token next => exact each (sustains.peek_ok holds shown)
  | error failure next => exact sustains.peek_error holds shown

theorem enterFactor {token : Token} (showing : Showing token checker) :
    I (checker.enterFactor token goals).state := by
  have dropped := sustains.drop showing
  rw [Checker.enterFactor]
  split
  · rwa [Outcome.state_map]
  split
  · exact sustains.of_showing showing
  · exact Outcome.holds_andThen dropped fun _ _ holds => sustains.withDepth _ holds

theorem require {kinds : List Token.Kind} (holds : I checker) :
    I (checker.require kinds).state := by
  refine sustains.peekThen holds fun showing => ?_
  split
  · exact sustains.drop showing
  · exact sustains.reject _ showing

/-- To drop the lookahead or go on with it keeps the property in both cases. -/
theorem dropIf (token : Token) {condition : Prop} [Decidable condition]
    (showing : Showing token checker) :
    I (if condition then checker.drop.map fun () => pushed else .ok [] checker).state := by
  split
  · rw [Outcome.state_map]
    exact sustains.drop showing
  · exact sustains.of_showing showing

/-- Only where a production is stuck can a step do more than look, drop and report. -/
theorem step (plain : ∀ first, goal ≠ .progress first) (holds : I checker) :
    I (checker.step goal).state := by
  cases goal with
  | production | definition | expression | term => exact holds
  | oneOf kinds =>
    rw [Checker.step, Outcome.state_map]
    exact sustains.require holds
  | groupEnd bracket =>
    rw [Checker.step, Outcome.state_map]
    exact sustains.require (sustains.withDepth _ holds)
  | productions | alternatives =>
    exact sustains.peekThen holds fun showing => sustains.dropIf _ showing
  | progress first => exact absurd rfl (plain first)
  | factors =>
    refine sustains.peekThen holds fun showing => ?_
    split
    · exact sustains.enterFactor showing
    · exact sustains.of_showing showing
  | factor =>
    refine sustains.peekThen holds fun showing => ?_
    split
    · exact sustains.enterFactor showing
    · rw [Outcome.state_map]
      exact sustains.reject _ showing

end Sustains

/-- A checker at work keeps the property. While a token is the lookahead more may hold, and a token
is dropped or reported only then. -/
structure Upholds (I : Checker τ ρ → Prop) (Showing : Token → Checker τ ρ → Prop) : Prop where
  of_showing {checker : Checker τ ρ} {token : Token} : Showing token checker → I checker
  peek_ok {checker next : Checker τ ρ} {token : Token} (holds : I checker)
    (shown : checker.peek = .ok token next) : Showing token next
  peek_error {checker next : Checker τ ρ} {failure : Failure} (holds : I checker)
    (failed : checker.peek = .error failure next) : I next
  drop {checker : Checker τ ρ} {token : Token} (showing : Showing token checker) :
    I checker.drop.state
  stuck {checker : Checker τ ρ} {token : Token} (position : Position)
    (showing : Showing token checker) : Showing token (checker.note (.stuck position))
  reject {checker : Checker τ ρ} {token : Token} (expected : List Token.Kind)
    (showing : Showing token checker) : I (checker.reject token expected).state
  withDepth {checker : Checker τ ρ} (depth : Nat) (holds : I checker) :
    I { checker with depth }

namespace Upholds

variable {I : Checker τ ρ → Prop} {Showing : Token → Checker τ ρ → Prop}
  (upholds : Upholds I Showing)

include upholds

theorem sustains : Sustains I Showing where
  of_showing := upholds.of_showing
  peek_ok := upholds.peek_ok
  peek_error := upholds.peek_error
  drop := upholds.drop
  reject := upholds.reject
  withDepth := upholds.withDepth

theorem enterFactor {token : Token} (showing : Showing token checker) :
    I (checker.enterFactor token goals).state :=
  upholds.sustains.enterFactor showing

/-- To drop the lookahead or go on with it keeps the property in both cases. -/
theorem dropIf (token : Token) {condition : Prop} [Decidable condition]
    (showing : Showing token checker) :
    I (if condition then checker.drop.map fun () => pushed else .ok [] checker).state :=
  upholds.sustains.dropIf token showing

theorem step (holds : I checker) : I (checker.step goal).state := by
  cases goal with
  | progress first =>
    refine upholds.sustains.peekThen holds fun showing => ?_
    split
    · rw [Outcome.state_map]
      exact upholds.drop (upholds.stuck _ showing)
    · exact upholds.of_showing showing
  | _ => exact upholds.sustains.step nofun holds

/-- A run keeps what its operations keep. -/
theorem run (holds : I checker) : I (checker.run goals).state := by
  induction goals, checker using run.induct with
  | case1 checker =>
    rw [run_nil]
    exact holds
  | case2 checker goal goals failure next failed =>
    have after : I (checker.step goal).state := upholds.step holds
    rw [failed] at after
    rw [run_of_step_error failed]
    exact upholds.withDepth _ after
  | case3 checker goal goals pushed next stepped ih =>
    have after : I (checker.step goal).state := upholds.step holds
    rw [stepped] at after
    rw [run_of_step_ok stepped]
    exact ih after

/-- Behind a step that keeps the property the rest of a run keeps it. -/
theorem runCons (holds : I (checker.step goal).state) :
    I (checker.run (goal :: goals)).state := by
  cases stepped : checker.step goal with
  | ok pushed next =>
    rw [stepped] at holds
    rw [run_of_step_ok stepped]
    exact upholds.run holds
  | error failure next =>
    rw [stepped] at holds
    rw [run_of_step_error stepped]
    exact upholds.withDepth _ holds

end Upholds

/-- Each operation of a checker keeps the property. While a token is the lookahead more may hold,
and a token is dropped or reported only then. -/
structure Preserves (I : Checker τ ρ → Prop) (Showing : Token → Checker τ ρ → Prop) : Prop where
  of_showing {checker : Checker τ ρ} {token : Token} : Showing token checker → I checker
  peek_ok {checker next : Checker τ ρ} {token : Token} (holds : I checker)
    (shown : checker.peek = .ok token next) : Showing token next
  peek_error {checker next : Checker τ ρ} {failure : Failure} (holds : I checker)
    (failed : checker.peek = .error failure next) : I next
  drop {checker : Checker τ ρ} {token : Token} (showing : Showing token checker) :
    I checker.drop.state
  note {checker : Checker τ ρ} {token : Token} (event : Event) (showing : Showing token checker) :
    Showing token (checker.note event)
  reject {checker : Checker τ ρ} {token : Token} (expected : List Token.Kind)
    (showing : Showing token checker) : I (checker.reject token expected).state
  withDepth {checker : Checker τ ρ} (depth : Nat) (holds : I checker) :
    I { checker with depth }

/-- A checker at work notes no more than that a production is stuck. -/
theorem Preserves.upholds {I : Checker τ ρ → Prop} {Showing : Token → Checker τ ρ → Prop}
    (preserves : Preserves I Showing) : Upholds I Showing where
  of_showing := preserves.of_showing
  peek_ok := preserves.peek_ok
  peek_error := preserves.peek_error
  drop := preserves.drop
  stuck position := preserves.note (.stuck position)
  reject := preserves.reject
  withDepth := preserves.withDepth

end Preserving

section Keeping

variable [TokenStream τ] [Receiver ρ] {I : τ → ρ → Nat → Prop}

/-- Whatever is done with the tokens keeps the property, and so does each delivery. -/
structure Kept (I : τ → ρ → Nat → Prop) : Prop where
  peek {tokens : τ} {receiver : ρ} {count : Nat} (holds : I tokens receiver count) :
    I (TokenStream.peek tokens).state receiver count
  drop {tokens : τ} {receiver : ρ} {count : Nat} (holds : I tokens receiver count) :
    I (TokenStream.drop tokens).state receiver count
  note {tokens : τ} {receiver : ρ} {count : Nat} (event : Event)
    (holds : I tokens receiver count) : I (TokenStream.note event tokens) receiver count
  receive {tokens : τ} {receiver : ρ} {count : Nat} (diagnostic : Diagnostic)
    (holds : I tokens receiver count) :
    I tokens (Receiver.receive diagnostic receiver).state (count + 1)

/-- The property holds of the tokens, of the receiver and of the number of diagnostics. -/
def Satisfies (I : τ → ρ → Nat → Prop) (checker : Checker τ ρ) : Prop :=
  I checker.tokens checker.receiver checker.reportCount

namespace Kept

variable (kept : Kept I)

include kept

theorem ofPeek (holds : checker.Satisfies I) : checker.peek.state.Satisfies I := by
  rw [Checker.peek, Outcome.state_lift]
  exact kept.peek holds

theorem ofDrop (holds : checker.Satisfies I) : checker.drop.state.Satisfies I := by
  rw [Checker.drop, Outcome.state_lift]
  exact kept.drop holds

theorem ofReject {found : Token} {expected : List Token.Kind} (holds : checker.Satisfies I) :
    (checker.reject found expected).state.Satisfies I := by
  rw [reject]
  split
  · exact kept.note _ holds
  · rw [Outcome.state_lift]
    exact kept.receive _ (kept.note _ holds)

/-- It makes no difference which token is the lookahead. -/
theorem preserves : Preserves (Satisfies I) fun (_ : Token) (checker : Checker τ ρ) =>
    checker.Satisfies I where
  of_showing holds := holds
  peek_ok {checker next token} holds shown := by
    have after := kept.ofPeek holds
    rwa [shown] at after
  peek_error {checker next failure} holds failed := by
    have after := kept.ofPeek holds
    rwa [failed] at after
  drop holds := kept.ofDrop holds
  note event holds := kept.note event holds
  reject expected holds := kept.ofReject holds
  withDepth depth holds := holds

theorem ofRun (holds : checker.Satisfies I) : (checker.run goals).state.Satisfies I :=
  kept.preserves.upholds.run holds

theorem ofRunCons (holds : (checker.step goal).state.Satisfies I) :
    (checker.run (goal :: goals)).state.Satisfies I :=
  kept.preserves.upholds.runCons holds

end Kept

end Keeping

section Deliveries

variable {P : ρ → Nat → Prop}

/-- The property holds of the receiver and of the number of diagnostics. -/
def Holds (P : ρ → Nat → Prop) (checker : Checker τ ρ) : Prop :=
  P checker.receiver checker.reportCount

theorem holds_andThen {α β : Type} {outcome : Outcome Failure (Checker τ ρ) α}
    {further : α → Checker τ ρ → Outcome Failure (Checker τ ρ) β} (holds : outcome.state.Holds P)
    (keeps : ∀ value next, next.Holds P → (further value next).state.Holds P) :
    (outcome.andThen further).state.Holds P :=
  Outcome.holds_andThen holds keeps

/-- Whatever every delivery keeps is kept. -/
theorem kept_of_delivers [TokenStream τ] [Receiver ρ] (delivers : ∀ diagnostic receiver count,
    P receiver count → P (Receiver.receive diagnostic receiver).state (count + 1)) :
    Kept fun (_ : τ) => P :=
  ⟨id, id, fun _ => id, fun _ => delivers _ _ _⟩

end Deliveries

end GrammarCheck.Checker
