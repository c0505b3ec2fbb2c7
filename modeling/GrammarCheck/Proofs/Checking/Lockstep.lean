import GrammarCheck.Proofs.Checking.Running
import GrammarCheck.Proofs.Mirroring
import Mathlib.Data.List.Forall2

/-! # Checkers in lockstep

A checker decides by the kinds of tokens and by whether two tokens are the same. So two checkers
whose tokens stand for each other take the same steps, as far as both of them go: the first may halt
where its stream or its receiver fails.
-/

namespace GrammarCheck

open Outcome (Mirrors)

section Correspondence

variable (tokens : Token → Token → Prop)

/-- Tokens that stand for each other cannot be told apart by what a checker asks of them. -/
structure Corresponds : Prop where
  kind_eq {left right : Token} : tokens left right → left.kind = right.kind
  eq_iff {first second first' second' : Token} : tokens first first' → tokens second second' →
    (first = second ↔ first' = second')

/-- The diagnostics are about tokens that stand for each other, and expect the same. -/
structure Diagnostic.Alike (left right : Diagnostic) : Prop where
  found : tokens left.found right.found
  expected_eq : left.expected = right.expected

/-- The failures are the same, at tokens that stand for each other if they name a place. -/
inductive Failure.Alike : Failure → Failure → Prop
  | io (cause : IoFailure) : Alike (.io cause) (.io cause)
  | closed : Alike .closed .closed
  | nestingTooDeep {left right : Token} (same : tokens left right) (limit : Nat) :
    Alike (.nestingTooDeep left.position limit) (.nestingTooDeep right.position limit)

/-- The checkers note the same about tokens that stand for each other. -/
inductive Event.Alike : Event → Event → Prop
  | stuck {left right : Token} (same : tokens left right) :
    Alike (.stuck left.position) (.stuck right.position)
  | suppressed {left right : Token} (same : tokens left right) :
    Alike (.suppressed left.position) (.suppressed right.position)
  | reported {left right : Diagnostic} (same : left.Alike tokens right) :
    Alike (.reported left) (.reported right)

/-- The goals are the same, up to the token that a production started from. -/
inductive Goal.Alike : Goal → Goal → Prop
  | plain {goal : Goal} (plain : ∀ first, goal ≠ .progress first) : Alike goal goal
  | progress {left right : Token} (same : tokens left right) :
    Alike (.progress left) (.progress right)

end Correspondence

theorem Corresponds.eq : Corresponds Eq where
  kind_eq same := congrArg Token.kind same
  eq_iff same same' := by rw [same, same']

section Weakening

variable {tokens weaker : Token → Token → Prop}
  (weaken : ∀ {first second}, tokens first second → weaker first second)

include weaken

theorem Diagnostic.Alike.imp {left right : Diagnostic} (alike : left.Alike tokens right) :
    left.Alike weaker right :=
  ⟨weaken alike.found, alike.expected_eq⟩

theorem Failure.Alike.imp {left right : Failure} (alike : left.Alike tokens right) :
    left.Alike weaker right := by
  cases alike with
  | io cause => exact .io cause
  | closed => exact .closed
  | nestingTooDeep same limit => exact .nestingTooDeep (weaken same) limit

end Weakening

theorem Goal.Alike.refl (goal : Goal) : Goal.Alike Eq goal goal := by
  cases goal with
  | progress first => exact .progress rfl
  | _ => exact .plain nofun

theorem Failure.Alike.refl (failure : Failure) : Failure.Alike Eq failure failure := by
  cases failure with
  | io cause => exact .io cause
  | closed => exact .closed
  | nestingTooDeep position limit =>
    let there : Token := ⟨position, .unknown, ""⟩
    exact .nestingTooDeep (rfl : there = there) limit

theorem Failure.Alike.eq {left right : Failure} (alike : Failure.Alike Eq left right) :
    left = right := by
  cases alike with
  | io | closed => rfl
  | nestingTooDeep same =>
    subst same
    rfl

theorem Diagnostic.Alike.eq {left right : Diagnostic} (alike : left.Alike Eq right) :
    left = right := by
  obtain ⟨found, expected⟩ := left
  obtain ⟨rfl, rfl⟩ := alike
  rfl

theorem Event.Alike.eq {left right : Event} (alike : Event.Alike Eq left right) :
    left = right := by
  cases alike with
  | stuck same | suppressed same => rw [same]
  | reported same => rw [same.eq]

theorem Goal.eq_of_alike {left right : List Goal}
    (alike : List.Forall₂ (Goal.Alike Eq) left right) : left = right := by
  induction alike with
  | nil => rfl
  | cons head _ ih =>
    rw [ih]
    cases head with
    | plain _ => rfl
    | progress same => rw [same]

private theorem Goal.openGroups_eq_of_alike {tokens : Token → Token → Prop} {left right : List Goal}
    (alike : List.Forall₂ (Goal.Alike tokens) left right) : openGroups left = openGroups right := by
  induction alike with
  | nil => rfl
  | @cons goal goal' goals goals' head _ ih =>
    rw [← List.singleton_append, openGroups_append, ← List.singleton_append (l := goals'),
      openGroups_append, ih]
    cases head <;> rfl

private theorem Nonterminal.alike_goals (tokens : Token → Token → Prop)
    (nonterminal : Nonterminal) :
    List.Forall₂ (Goal.Alike tokens) nonterminal.goals nonterminal.goals := by
  refine List.forall₂_same.mpr fun goal member => .plain fun first same => ?_
  subst same
  cases nonterminal <;> simp [Nonterminal.goals] at member

/-- Where the first of two checkers never halts, nothing has to be kept of how it did. -/
theorem Checker.Kept.never {τ ρ ρ' : Type} [TokenStream τ] [Receiver ρ'] (_ : Failure) (_ : ρ) :
    Checker.Kept fun (_ : τ) (_ : ρ') (_ : Nat) => False :=
  ⟨id, id, fun _ => id, fun _ => id⟩

/-- Streams and receivers that keep two checkers in step. The second stream may go on behind the
place where the first one halts, and so may the second receiver. -/
structure Lockstep (σ τ ρ ρ' : Type) [TokenStream σ] [TokenStream τ] [Receiver ρ]
    [Receiver ρ'] where
  /-- The tokens stand for each other. -/
  tokens : Token → Token → Prop
  /-- The streams are about to show tokens that stand for each other. -/
  offers : σ → τ → Prop
  /-- The streams have shown tokens that stand for each other. -/
  shows : σ → τ → Prop
  /-- The receivers, after their numbers of diagnostics. -/
  receivers : ρ → Nat → ρ' → Nat → Prop
  /-- The first checker has halted with the failure and left its receiver so. -/
  halted : Failure → ρ → τ → ρ' → Nat → Prop
  corresponds : Corresponds tokens
  offers_of_shows {left : σ} {right : τ} : shows left right → offers left right
  note {left : σ} {right : τ} {event event' : Event} : event.Alike tokens event' →
    shows left right → shows (TokenStream.note event left) (TokenStream.note event' right)
  peek {left : σ} {right : τ} {receiver : ρ} {count : Nat} {receiver' : ρ'} {count' : Nat} :
    offers left right → receivers receiver count receiver' count' →
    Mirrors (fun failure _ later => halted failure receiver later receiver' count')
      (Failure.Alike tokens) shows tokens (TokenStream.peek left) (TokenStream.peek right)
  drop {left : σ} {right : τ} {receiver : ρ} {count : Nat} {receiver' : ρ'} {count' : Nat} :
    shows left right → receivers receiver count receiver' count' →
    Mirrors (fun failure _ later => halted failure receiver later receiver' count')
      (Failure.Alike tokens) shows Eq (TokenStream.drop left) (TokenStream.drop right)
  receive {receiver : ρ} {count : Nat} {receiver' : ρ'} {count' : Nat}
    {diagnostic diagnostic' : Diagnostic} (right : τ) :
    receivers receiver count receiver' count' → diagnostic.Alike tokens diagnostic' →
    Mirrors (fun failure after after' => halted (.io failure) after right after' (count' + 1)) Eq
      (fun after after' => receivers after (count + 1) after' (count' + 1)) Eq
      (Receiver.receive diagnostic receiver) (Receiver.receive diagnostic' receiver')
  kept (failure : Failure) (receiver : ρ) : Checker.Kept (halted failure receiver)

namespace Lockstep

variable {σ τ ρ ρ' : Type} [TokenStream σ] [TokenStream τ] [Receiver ρ] [Receiver ρ']
  (lock : Lockstep σ τ ρ ρ')

/-- Two checkers in step, with their streams in the relation. -/
structure Relates (streams : σ → τ → Prop) (left : Checker σ ρ) (right : Checker τ ρ') : Prop where
  tokens : streams left.tokens right.tokens
  receivers : lock.receivers left.receiver left.reportCount right.receiver right.reportCount
  reported {first second : Token} : lock.tokens first second →
    (left.lastReported = some first ↔ right.lastReported = some second)
  depth_eq : left.depth = right.depth

/-- The first checker has halted, and the second has come so far. -/
def Halted (failure : Failure) (left : Checker σ ρ) (right : Checker τ ρ') : Prop :=
  right.Satisfies (lock.halted failure left.receiver)

/-- What operations of two checkers in step have in common. -/
def Agree {α β : Type} (streams : σ → τ → Prop) (values : α → β → Prop)
    (left : Outcome Failure (Checker σ ρ) α) (right : Outcome Failure (Checker τ ρ') β) : Prop :=
  Mirrors lock.Halted (Failure.Alike lock.tokens) (lock.Relates streams) values left right

variable {lock} {left : Checker σ ρ} {right : Checker τ ρ'} {first second : Token}
  {goals goals' : List Goal}

namespace Relates

theorem withTokens {streams later : σ → τ → Prop} (relates : lock.Relates streams left right)
    {stream : σ} {stream' : τ} (states : later stream stream') :
    lock.Relates later { left with tokens := stream } { right with tokens := stream' } :=
  { relates with tokens := states }

theorem of_shows (relates : lock.Relates lock.shows left right) :
    lock.Relates lock.offers left right :=
  { relates with tokens := lock.offers_of_shows relates.tokens }

theorem note {event event' : Event} (relates : lock.Relates lock.shows left right)
    (alike : event.Alike lock.tokens event') :
    lock.Relates lock.shows (left.note event) (right.note event') :=
  relates.withTokens (lock.note alike relates.tokens)

theorem peek (relates : lock.Relates lock.offers left right) :
    lock.Agree lock.shows lock.tokens left.peek right.peek :=
  (lock.peek relates.tokens relates.receivers).lift id id relates.withTokens

theorem drop (relates : lock.Relates lock.shows left right) :
    lock.Agree lock.shows Eq left.drop right.drop :=
  (lock.drop relates.tokens relates.receivers).lift id id relates.withTokens

private theorem enterFactor (relates : lock.Relates lock.shows left right)
    (same : lock.tokens first second)
    (behind : List.Forall₂ (Goal.Alike lock.tokens) goals goals') :
    lock.Agree lock.shows (List.Forall₂ (Goal.Alike lock.tokens)) (left.enterFactor first goals)
      (right.enterFactor second goals') := by
  unfold Checker.enterFactor
  rw [lock.corresponds.kind_eq same]
  split
  · exact relates.drop.map fun _ => behind
  · next bracket _ =>
    rw [relates.depth_eq]
    split
    · exact .error (.nestingTooDeep same _) relates
    · refine relates.drop.andThen id (fun _ dropped => ?_) fun _ stopped => stopped
      have inside : List.Forall₂ (Goal.Alike lock.tokens)
          (.expression :: .groupEnd bracket :: goals)
          (.expression :: .groupEnd bracket :: goals') :=
        .cons (.plain nofun) (.cons (.plain nofun) behind)
      exact .ok inside { dropped with depth_eq := congrArg (· + 1) dropped.depth_eq }

theorem reject (relates : lock.Relates lock.shows left right)
    (same : lock.tokens first second) (expected : List Token.Kind) :
    lock.Agree lock.shows Eq (left.reject first expected) (right.reject second expected) := by
  have again := relates.reported same
  unfold Checker.reject
  by_cases known : left.lastReported = some first
  · rw [if_pos known, if_pos (again.mp known)]
    exact .ok rfl (relates.note (.suppressed same))
  · rw [if_neg known, if_neg (mt again.mpr known)]
    have about : Diagnostic.Alike lock.tokens ⟨first, expected⟩ ⟨second, expected⟩ := ⟨same, rfl⟩
    have noted := relates.note (.reported about)
    refine (lock.receive _ noted.receivers about).lift id ?_ fun taken => ?_
    · rintro cause _ rfl
      exact .io cause
    · refine ⟨noted.tokens, taken, fun other => ?_, noted.depth_eq⟩
      rw [Option.some_inj, Option.some_inj]
      exact lock.corresponds.eq_iff same other

/-- Where both look at their tokens, they go on with tokens that stand for each other. -/
theorem peekThen {α β : Type} {values : α → β → Prop}
    {further : Token → Checker σ ρ → Outcome Failure (Checker σ ρ) α}
    {further' : Token → Checker τ ρ' → Outcome Failure (Checker τ ρ') β}
    (relates : lock.Relates lock.offers left right)
    (each : ∀ {first second left right}, lock.tokens first second →
      lock.Relates lock.shows left right →
      lock.Agree lock.shows values (further first left) (further' second right))
    (lasting : ∀ {I : τ → ρ' → Nat → Prop}, Checker.Kept I → ∀ second right,
      Checker.Satisfies I right → (further' second right).state.Satisfies I) :
    lock.Agree lock.offers values (left.peek.andThen further) (right.peek.andThen further') := by
  have together : lock.Agree lock.shows values (left.peek.andThen further)
      (right.peek.andThen further') :=
    relates.peek.andThen id each fun second stopped => lasting (lock.kept _ _) second _ stopped
  exact together.imp of_shows

private theorem require (relates : lock.Relates lock.offers left right) (kinds : List Token.Kind) :
    lock.Agree lock.offers Eq (left.require kinds) (right.require kinds) := by
  refine relates.peekThen (fun {first second _ _} same shown => ?_)
    fun kept second right holds => ?_
  · rw [lock.corresponds.kind_eq same]
    split
    · exact shown.drop
    · exact shown.reject same kinds
  · split
    · exact kept.ofDrop holds
    · exact kept.ofReject holds

/-- Checkers in step take a step together, on goals that stand for each other. -/
theorem step {goal goal' : Goal} (relates : lock.Relates lock.offers left right)
    (alike : goal.Alike lock.tokens goal') :
    lock.Agree lock.offers (List.Forall₂ (Goal.Alike lock.tokens)) (left.step goal)
      (right.step goal') := by
  cases alike with
  | @progress started started' named =>
    refine relates.peekThen (fun same shown => ?_) fun kept second right holds => ?_
    · have met := lock.corresponds.eq_iff same named
      split
      · next here =>
        rw [if_pos (met.mp here)]
        exact (shown.note (.stuck named)).drop.map fun _ => .nil
      · next apart =>
        rw [if_neg (mt met.mpr apart)]
        exact .ok .nil shown
    · split
      · rw [Outcome.state_map]
        exact kept.ofDrop (kept.note _ holds)
      · exact holds
  | plain plain =>
  cases goal with
  | progress started => exact absurd rfl (plain started)
  | production | definition | expression | term =>
    exact .ok (by repeat' first | exact .nil | refine .cons (.plain nofun) ?_) relates
  | oneOf kinds => exact (relates.require kinds).map fun _ => .nil
  | groupEnd bracket =>
    have closed : lock.Relates lock.offers { left with depth := left.depth - 1 }
        { right with depth := right.depth - 1 } :=
      { relates with depth_eq := congrArg (· - 1) relates.depth_eq }
    exact (closed.require _).map fun _ => .nil
  | productions =>
    refine relates.peekThen (fun same shown => ?_) fun kept second right holds => ?_
    · rw [lock.corresponds.kind_eq same]
      split
      · refine shown.drop.map fun _ => ?_
        exact .cons (.plain nofun) (.cons (.progress same) (.cons (.plain nofun) .nil))
      · exact .ok .nil shown
    · exact kept.preserves.upholds.dropIf second holds
  | alternatives =>
    refine relates.peekThen (fun same shown => ?_) fun kept second right holds => ?_
    · rw [lock.corresponds.kind_eq same]
      split
      · exact shown.drop.map fun _ => .cons (.plain nofun) (.cons (.plain nofun) .nil)
      · exact .ok .nil shown
    · exact kept.preserves.upholds.dropIf second holds
  | factors =>
    refine relates.peekThen (fun same shown => ?_) fun kept second right holds => ?_
    · rw [lock.corresponds.kind_eq same]
      split
      · exact shown.enterFactor same (.cons (.plain nofun) .nil)
      · exact .ok .nil shown
    · split
      · exact kept.preserves.upholds.enterFactor holds
      · exact holds
  | factor =>
    refine relates.peekThen (fun same shown => ?_) fun kept second right holds => ?_
    · rw [lock.corresponds.kind_eq same]
      split
      · exact shown.enterFactor same .nil
      · exact (shown.reject same _).map fun _ => .nil
    · split
      · exact kept.preserves.upholds.enterFactor holds
      · rw [Outcome.state_map]
        exact kept.ofReject holds

/-- Runs of checkers in step end together, or the first has halted on the way. -/
theorem run (relates : lock.Relates lock.offers left right)
    (alike : List.Forall₂ (Goal.Alike lock.tokens) goals goals') :
    lock.Agree lock.offers Eq (left.run goals) (right.run goals') := by
  -- Each step of the first run is one of the second, which goes on by itself after a halt.
  induction goals, left using Checker.run.induct generalizing right goals' with
  | case1 left =>
    cases alike
    rw [Checker.run_nil, Checker.run_nil]
    exact .ok rfl relates
  | case2 left goal goals failure next failed =>
    cases alike with
    | @cons _ goal' _ goals' head tail =>
    have stepped := relates.step head
    rw [failed] at stepped
    rw [Checker.run_of_step_error failed]
    generalize met : right.step goal' = outcome at stepped
    cases stepped with
    | error same related =>
      rw [Checker.run_of_step_error met, ← Goal.openGroups_eq_of_alike tail]
      exact .error same { related with depth_eq := congrArg (· - _) related.depth_eq }
    | halt stopped =>
      refine .halt ?_
      rw [← met] at stopped
      exact (lock.kept _ _).ofRunCons stopped
  | case3 left goal goals pushed next stepped ih =>
    cases alike with
    | @cons _ goal' _ goals' head tail =>
    have together := relates.step head
    rw [stepped] at together
    rw [Checker.run_of_step_ok stepped]
    generalize met : right.step goal' = outcome at together
    cases together with
    | ok same related =>
      rw [Checker.run_of_step_ok met]
      exact ih related (List.rel_append same tail)

/-- Checkers in step check for a nonterminal together. -/
theorem check (relates : lock.Relates lock.offers left right) (nonterminal : Nonterminal) :
    lock.Agree lock.offers Eq (left.check nonterminal) (right.check nonterminal) :=
  relates.run (nonterminal.alike_goals lock.tokens)

end Relates

end Lockstep

end GrammarCheck
