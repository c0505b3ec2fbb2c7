import GrammarCheck.Proofs.Checking.Tracking
import Mathlib.Data.List.Forall2

/-! # The stages of a run

At each stage a run works on one goal. What a run refuses, reports and takes is read off its stages,
in their order.
-/

namespace GrammarCheck

/-- The kinds of which a goal takes a token. -/
def Goal.accepts : Goal → List Token.Kind
  | oneOf kinds => kinds
  | productions => [.identifier]
  | alternatives => [.bar]
  | factors | factor => Token.Kind.factorKinds
  | groupEnd bracket => [.closing bracket]
  | progress _ | production | definition | expression | term => []

/-- The goal gives way only to a token, and reports one that it does not accept. -/
def Goal.insists : Goal → Bool
  | oneOf _ | factor | groupEnd _ => true
  | productions | progress _ | production | definition | expression | alternatives | term
  | factors => false

/-- A goal at work, and the checker at that moment. -/
structure Stage (τ ρ : Type) where
  goal : Goal
  checker : Checker τ ρ

section Definitions

variable {τ ρ : Type} [TokenStream τ]

/-- The token that is next, if it can be read. -/
def Checker.lookahead? (checker : Checker τ ρ) : Option Token :=
  match TokenStream.peek checker.tokens with
  | .ok token _ => some token
  | .error .. => none

namespace Stage

def taken? (stage : Stage τ ρ) : Option Token :=
  stage.checker.lookahead?.filter (·.kind ∈ stage.goal.accepts)

/-- The token that does not fit the goal, with the kinds that would have. -/
def refused? (stage : Stage τ ρ) : Option Diagnostic :=
  if stage.goal.insists then
    (stage.checker.lookahead?.filter (·.kind ∉ stage.goal.accepts)).map
      (⟨·, stage.goal.accepts⟩)
  else none

/-- What is handed to the receiver: a refusal, unless its token is the one reported last. -/
def reported? (stage : Stage τ ρ) : Option Diagnostic :=
  stage.refused?.filter fun diagnostic => stage.checker.lastReported ≠ some diagnostic.found

end Stage

namespace Checker

variable [Receiver ρ]

theorem stepsLeft_append_lt {goal : Goal} {behind pushed : List Goal} {checker next : Checker τ ρ}
    (stepped : checker.step goal = .ok pushed next) :
    next.stepsLeft (pushed ++ behind) < checker.stepsLeft (goal :: behind) := by
  have smaller := stepsLeft_step_lt stepped
  simp only [stepsLeft, Goal.totalWeight_cons, Goal.totalWeight_append, Goal.totalWeight_nil] at *
  omega

def stages (goals : List Goal) (checker : Checker τ ρ) : List (Stage τ ρ) :=
  match goals with
  | [] => []
  | goal :: behind =>
    ⟨goal, checker⟩ ::
      match _stepped : checker.step goal with
      | .error .. => []
      | .ok pushed next => next.stages (pushed ++ behind)
termination_by checker.stepsLeft goals
decreasing_by exact stepsLeft_append_lt _stepped

/-- Checks for the nonterminals one after the other, each from where the last one stopped, and
whether that failed or not. -/
def checkEach (nonterminals : List Nonterminal) (checker : Checker τ ρ) : Checker τ ρ :=
  match nonterminals with
  | [] => checker
  | nonterminal :: further => (checker.check nonterminal).state.checkEach further

def stagesOfEach (nonterminals : List Nonterminal) (checker : Checker τ ρ) : List (Stage τ ρ) :=
  match nonterminals with
  | [] => []
  | nonterminal :: further =>
    checker.stages nonterminal.goals ++ (checker.check nonterminal).state.stagesOfEach further

end Checker

end Definitions

/-- Two stages have the same goal, and their checkers agree. -/
structure Stage.Alike {σ τ ρ : Type} (related : σ → τ → Prop) (left : Stage σ ρ)
    (right : Stage τ ρ) : Prop where
  goal_eq : left.goal = right.goal
  checkers : left.checker.Alike related right.checker

/-- What is read off each stage in the same way is the same for stages that agree. -/
theorem Stage.filterMap_eq_of_alike {σ τ ρ α : Type} {related : σ → τ → Prop}
    {first : Stage σ ρ → Option α} {second : Stage τ ρ → Option α} {left : List (Stage σ ρ)}
    {right : List (Stage τ ρ)}
    (same : ∀ {stage stage'}, Stage.Alike related stage stage' → first stage = second stage')
    (alike : List.Forall₂ (Stage.Alike related) left right) :
    left.filterMap first = right.filterMap second := by
  induction alike with
  | nil => rfl
  | cons stages _ ih => rw [List.filterMap_cons, List.filterMap_cons, same stages, ih]

namespace Checker

section Stages

variable {τ ρ : Type} [TokenStream τ] [Receiver ρ] {checker next : Checker τ ρ} {goal : Goal}
  {goals front pushed : List Goal}

theorem stages_nil : checker.stages [] = [] := by
  rw [stages]

theorem stages_of_step_ok (stepped : checker.step goal = .ok pushed next) :
    checker.stages (goal :: goals) = ⟨goal, checker⟩ :: next.stages (pushed ++ goals) := by
  rw [stages]
  split
  · next failed => simp [stepped] at failed
  · next stepped' =>
    obtain ⟨rfl, rfl⟩ := Outcome.ok.inj (stepped.symm.trans stepped')
    rfl

theorem stages_of_step_error {failure : Failure}
    (failed : checker.step goal = .error failure next) :
    checker.stages (goal :: goals) = [⟨goal, checker⟩] := by
  rw [stages]
  split
  · rfl
  · next stepped => simp [failed] at stepped

/-- With further goals behind those that are left, the same stages come first. -/
theorem stages_append (back : List Goal) (passed : checker.run front = .ok () next) :
    checker.stages (front ++ back) = checker.stages front ++ next.stages back := by
  induction front, checker using run.induct with
  | case1 checker =>
    rw [run_nil] at passed
    cases passed
    rw [stages_nil, List.nil_append, List.nil_append]
  | case2 checker goal goals failure next failed =>
    rw [run_of_step_error failed] at passed
    contradiction
  | case3 checker goal goals pushed next stepped ih =>
    rw [run_of_step_ok stepped] at passed
    rw [List.cons_append, stages_of_step_ok stepped, stages_of_step_ok stepped, List.cons_append,
      ← List.append_assoc, ih passed]

end Stages

section Tracking

variable {σ τ ρ : Type} {offers shows : σ → τ → Prop} {left : Checker σ ρ} {right : Checker τ ρ}
  {goals : List Goal}

variable [TokenStream σ] [TokenStream τ] (tracks : TokenStream.Tracks offers shows)

include tracks

theorem Alike.lookahead?_eq (alike : left.Alike offers right) :
    left.lookahead? = right.lookahead? := by
  have shown := tracks.peek alike.tokens
  unfold lookahead?
  generalize TokenStream.peek left.tokens = first at shown
  generalize TokenStream.peek right.tokens = second at shown
  cases shown <;> rfl

section Readings

variable {stage : Stage σ ρ} {stage' : Stage τ ρ}

theorem refused?_eq_of_alike (alike : stage.Alike offers stage') :
    stage.refused? = stage'.refused? := by
  rw [Stage.refused?, Stage.refused?, alike.goal_eq, alike.checkers.lookahead?_eq tracks]

theorem reported?_eq_of_alike (alike : stage.Alike offers stage') :
    stage.reported? = stage'.reported? := by
  rw [Stage.reported?, Stage.reported?, refused?_eq_of_alike tracks alike,
    alike.checkers.lastReported_eq]

theorem taken?_eq_of_alike (alike : stage.Alike offers stage') :
    stage.taken? = stage'.taken? := by
  rw [Stage.taken?, Stage.taken?, alike.goal_eq, alike.checkers.lookahead?_eq tracks]

end Readings

variable [Receiver ρ]

theorem alike_stages (alike : left.Alike offers right) :
    List.Forall₂ (Stage.Alike offers) (left.stages goals) (right.stages goals) := by
  induction goals, left using run.induct generalizing right with
  | case1 left =>
    rw [stages_nil, stages_nil]
    exact .nil
  | case2 left goal goals failure next failed =>
    obtain ⟨next', failed', -⟩ := exists_step_error tracks alike failed
    rw [stages_of_step_error failed, stages_of_step_error failed']
    exact .cons ⟨rfl, alike⟩ .nil
  | case3 left goal goals pushed next stepped ih =>
    obtain ⟨next', stepped', states⟩ := exists_step_ok tracks alike stepped
    rw [stages_of_step_ok stepped, stages_of_step_ok stepped']
    exact .cons ⟨rfl, alike⟩ (ih states)

theorem alike_checkEach (nonterminals : List Nonterminal) (alike : left.Alike offers right) :
    Alike offers (left.checkEach nonterminals) (right.checkEach nonterminals) := by
  induction nonterminals generalizing left right with
  | nil => exact alike
  | cons nonterminal further ih => exact ih (alike_run tracks alike).states

theorem alike_stagesOfEach (nonterminals : List Nonterminal) (alike : left.Alike offers right) :
    List.Forall₂ (Stage.Alike offers) (left.stagesOfEach nonterminals)
      (right.stagesOfEach nonterminals) := by
  induction nonterminals generalizing left right with
  | nil => exact .nil
  | cons nonterminal further ih =>
    exact List.rel_append (alike_stages tracks alike) (ih (alike_run tracks alike).states)

end Tracking

end Checker

end GrammarCheck
