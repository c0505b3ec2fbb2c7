import GrammarCheck.Checker.Goal
import GrammarCheck.Receiver
import GrammarCheck.Token.Stream

/-! # Checkers

A checker drops tokens that fit its goals and reports those that do not. A token that does not fit
stays the lookahead, and is reported once however many goals it fails. Every goal either drops a
token or gives way to lighter goals, so a check ends.
-/

namespace GrammarCheck

/-- How many groups may be open at once. -/
def nestingLimit : Nat := 256

/-- A check of a token stream, with the receiver that its diagnostics go to. -/
structure Checker (τ ρ : Type) where
  tokens : τ
  receiver : ρ
  /-- The token that was reported last. -/
  lastReported : Option Token := none
  /-- The number of diagnostics handed to the receiver. -/
  reportCount : Nat := 0
  /-- The number of groups that are open. -/
  depth : Nat := 0

namespace Checker

variable {τ ρ : Type} [TokenStream τ]

def release (checker : Checker τ ρ) : Checker τ ρ :=
  { checker with tokens := TokenStream.release checker.tokens }

def note (event : Event) (checker : Checker τ ρ) : Checker τ ρ :=
  { checker with tokens := TokenStream.note event checker.tokens }

def peek (checker : Checker τ ρ) : Outcome Failure (Checker τ ρ) Token :=
  (TokenStream.peek checker.tokens).lift id fun tokens => { checker with tokens }

def drop (checker : Checker τ ρ) : Outcome Failure (Checker τ ρ) Unit :=
  (TokenStream.drop checker.tokens).lift id fun tokens => { checker with tokens }

/-- Enters the group that the lookahead token opens, or drops a token that is a whole factor, and
goes on with `goals`. A group beyond the limit is not entered. -/
def enterFactor (token : Token) (goals : List Goal) (checker : Checker τ ρ) :
    Outcome Failure (Checker τ ρ) (List Goal) :=
  match token.kind.opens? with
  | none => checker.drop.map fun () => goals
  | some bracket =>
    if nestingLimit ≤ checker.depth then
      .error (.nestingTooDeep token.position nestingLimit) checker
    else
      checker.drop.andThen fun () checker =>
        .ok (.expression :: .groupEnd bracket :: goals) { checker with depth := checker.depth + 1 }

variable [Receiver ρ]

/-- Reports a token unless it is the one reported last. -/
def reject (found : Token) (expected : List Token.Kind) (checker : Checker τ ρ) :
    Outcome Failure (Checker τ ρ) Unit :=
  if checker.lastReported = some found then .ok () (checker.note (.suppressed found.position))
  else
    let diagnostic : Diagnostic := ⟨found, expected⟩
    let checker := checker.note (.reported diagnostic)
    (Receiver.receive diagnostic checker.receiver).lift .io fun receiver =>
      { checker with
        receiver
        lastReported := some found
        reportCount := checker.reportCount + 1 }

/-- Drops the lookahead token if it is of one of the kinds, and else reports it. -/
def require (kinds : List Token.Kind) (checker : Checker τ ρ) :
    Outcome Failure (Checker τ ρ) Unit :=
  checker.peek.andThen fun token checker =>
    if token.kind ∈ kinds then checker.drop else checker.reject token kinds

/-- Works on one goal and returns the goals that take its place. -/
def step (goal : Goal) (checker : Checker τ ρ) : Outcome Failure (Checker τ ρ) (List Goal) :=
  match goal with
  | .oneOf kinds => (checker.require kinds).map fun () => []
  | .productions =>
    checker.peek.andThen fun token checker =>
      if token.kind = .identifier then
        checker.drop.map fun () => [.definition, .progress token, .productions]
      else .ok [] checker
  | .progress first =>
    checker.peek.andThen fun token checker =>
      if token = first then (checker.note (.stuck first.position)).drop.map fun () => []
      else .ok [] checker
  | .production => .ok [.oneOf [.identifier], .definition] checker
  | .definition => .ok [.oneOf [.assign], .expression, .oneOf [.period]] checker
  | .expression => .ok [.term, .alternatives] checker
  | .alternatives =>
    checker.peek.andThen fun token checker =>
      if token.kind = .bar then checker.drop.map fun () => [.term, .alternatives]
      else .ok [] checker
  | .term => .ok [.factor, .factors] checker
  | .factors =>
    checker.peek.andThen fun token checker =>
      if token.kind ∈ Token.Kind.factorKinds then checker.enterFactor token [.factors]
      else .ok [] checker
  | .factor =>
    checker.peek.andThen fun token checker =>
      if token.kind ∈ Token.Kind.factorKinds then checker.enterFactor token []
      else (checker.reject token Token.Kind.factorKinds).map fun () => []
  | .groupEnd bracket =>
    ({ checker with depth := checker.depth - 1 }.require [.closing bracket]).map fun () => []

def tokensLeft (checker : Checker τ ρ) : Nat :=
  TokenStream.tokensLeft checker.tokens

end Checker

end GrammarCheck
