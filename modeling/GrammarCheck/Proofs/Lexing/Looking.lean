import Mathlib.Data.List.TakeWhile
import GrammarCheck.Proofs.Lexing.Exposing

/-! # Looks at the lookahead

A look at the lookahead of a lexer reads it if there is none yet, and changes nothing else. So a
look matters only in front of a first drop, which has a token to drop then and would have had none.
-/

namespace GrammarCheck

namespace Lexer

inductive Call where
  | peek
  | drop
  | next
  deriving DecidableEq, Repr

inductive Answer where
  | shown (result : Except Failure Token)
  | dropped (result : Except Failure Unit)
  | listed (item? : Option (Except Failure Token))
  deriving DecidableEq

section Definitions

variable {σ : Type} [CharStream σ]

def ask (lexer : Lexer σ) : Call → Answer × Lexer σ
  | .peek => (.shown lexer.peek.result, lexer.peek.state)
  | .drop => (.dropped lexer.drop.result, lexer.drop.state)
  | .next => (.listed lexer.next.1, lexer.next.2)

def answers (lexer : Lexer σ) : List Call → List Answer
  | [] => []
  | call :: calls => (lexer.ask call).1 :: (lexer.ask call).2.answers calls

def after (lexer : Lexer σ) : List Call → Lexer σ
  | [] => lexer
  | call :: calls => (lexer.ask call).2.after calls

/-- The answers to calls with extra looks in between, each of them a `none`. Nobody waits for the
answer to an extra look. -/
def answersAmongLooks (lexer : Lexer σ) : List (Option Call) → List Answer
  | [] => []
  | none :: schedule => lexer.peek.state.answersAmongLooks schedule
  | some call :: schedule => (lexer.ask call).1 :: (lexer.ask call).2.answersAmongLooks schedule

/-- How many tokens calls on a lexer that has read nothing drop if the text has as many. A drop that
comes first finds nothing to drop. -/
def Call.drops : List Call → Nat
  | .drop :: calls => calls.countP (· ≠ .peek)
  | calls => calls.countP (· ≠ .peek)

end Definitions

section Held

variable {σ : Type} [CharStream σ] {lexer showing : Lexer σ} {token : Token}

theorem peek_of_held (held : lexer.lookahead = some token) : lexer.peek = .ok token lexer := by
  rw [Lexer.peek, held]

/-- A failed read keeps the lookahead. -/
theorem exists_lookahead_drop (held : lexer.lookahead = some token) :
    ∃ token, lexer.drop.state.lookahead = some token := by
  cases dropped : lexer.drop with
  | ok _ next => exact exists_lookahead_of_drop dropped
  | error failure next =>
    rw [Lexer.drop, held] at dropped
    dsimp only at dropped
    split at dropped
    · obtain ⟨-, rfl⟩ := Outcome.error.inj dropped
      exact ⟨token, held⟩
    split at dropped
    · contradiction
    rw [loadToken] at dropped
    split at dropped
    · obtain ⟨-, rfl⟩ := Outcome.error.inj dropped
      exact ⟨token, held⟩
    · contradiction

private theorem exists_lookahead_ask (held : lexer.lookahead = some token) (call : Call) :
    ∃ token, (lexer.ask call).2.lookahead = some token := by
  cases call with
  | peek =>
    refine ⟨token, ?_⟩
    rw [ask, peek_of_held held]
    exact held
  | drop => exact exists_lookahead_drop held
  | next =>
    obtain ⟨token', behind⟩ := exists_lookahead_drop held
    change ∃ token, lexer.next.2.lookahead = some token
    rw [Lexer.next, peek_of_held held]
    dsimp only
    split
    · exact ⟨token, held⟩
    split
    · exact ⟨token, held⟩
    cases dropped : lexer.drop with
    | error failure rest =>
      rw [dropped] at behind
      exact ⟨token', behind⟩
    | ok _ rest =>
      rw [dropped] at behind
      exact ⟨token', behind⟩

/-- Where there is a lookahead a look leaves the lexer as it is. -/
private theorem answersAmongLooks_of_held (held : lexer.lookahead = some token)
    (schedule : List (Option Call)) :
    lexer.answersAmongLooks schedule = lexer.answers schedule.reduceOption := by
  induction schedule generalizing lexer token with
  | nil => rfl
  | cons call? schedule ih =>
    cases call? with
    | none =>
      rw [answersAmongLooks, peek_of_held held]
      exact ih held
    | some call =>
      obtain ⟨_, behind⟩ := exists_lookahead_ask held call
      exact congrArg _ (ih behind)

/-- A listing starts with a look. -/
private theorem next_of_peek (going : lexer.finished = false)
    (shown : lexer.peek = .ok token showing) :
    showing.next = lexer.next := by
  have again : showing.peek = .ok token showing := peek_of_held (lookahead_of_peek shown)
  have same : showing.finished = false := by
    have kept := lexer.finished_peek
    rw [shown] at kept
    exact kept.trans going
  rw [Lexer.next, Lexer.next, going, same, shown, again]
  rfl

private theorem ask_of_peek {call : Call} (going : lexer.finished = false)
    (shown : lexer.peek = .ok token showing) (apart : call ≠ .drop) :
    showing.ask call = lexer.ask call := by
  cases call with
  | drop => contradiction
  | peek => rw [ask, ask, shown, peek_of_held (lookahead_of_peek shown)]
  | next => rw [ask, ask, next_of_peek going shown]

private theorem answers_of_peek {calls : List Call} (going : lexer.finished = false)
    (shown : lexer.peek = .ok token showing) (apart : calls.head? ≠ some .drop) :
    showing.answers calls = lexer.answers calls := by
  cases calls with
  | nil => rfl
  | cons call calls =>
    have same := ask_of_peek going shown fun drop => apart (congrArg some drop)
    rw [answers, answers, same]

/-- Where the first token can be read, the first call reads it. -/
theorem exists_lookahead_of_first (going : lexer.finished = false)
    (shown : lexer.peek = .ok token showing) (call : Call) :
    ∃ token, (lexer.ask call).2.lookahead = some token := by
  have held := lookahead_of_peek shown
  by_cases apart : call = .drop
  · obtain rfl := apart
    cases lookahead : lexer.lookahead with
    | some first => exact exists_lookahead_drop lookahead
    | none =>
      -- Without a lookahead a look is a drop.
      rw [peek_eq, lookahead] at shown
      obtain ⟨_, next, dropped, -⟩ := Outcome.andThen_eq_ok_iff.mp shown
      change ∃ token, lexer.drop.state.lookahead = some token
      rw [dropped]
      exact exists_lookahead_of_drop dropped
  · rw [← ask_of_peek going shown apart]
    exact exists_lookahead_ask held call

/-- Extra looks change no answer where the first token can be read and none of them stands in front
of a first drop. -/
theorem answersAmongLooks_eq (going : lexer.finished = false)
    (shown : lexer.peek = .ok token showing) {schedule : List (Option Call)}
    (apart : schedule.head? = some none → schedule.reduceOption.head? ≠ some .drop) :
    lexer.answersAmongLooks schedule = lexer.answers schedule.reduceOption := by
  obtain _ | ⟨call?, schedule⟩ := schedule
  · rfl
  cases call? with
  | none =>
    rw [answersAmongLooks, shown, Outcome.state_ok,
      answersAmongLooks_of_held (lookahead_of_peek shown)]
    exact answers_of_peek going shown (apart rfl)
  | some call =>
    obtain ⟨_, held⟩ := exists_lookahead_of_first going shown call
    exact congrArg _ (answersAmongLooks_of_held held schedule)

end Held

end Lexer

/-- The tokens behind the first `count`, or the end of the text if there are not so many. -/
def Tokens.skip (tokens : Tokens) (count : Nat) : Tokens :=
  { tokens with front := tokens.front.drop count }

private theorem Tokens.rest_skip (tokens : Tokens) (count : Nat) :
    (tokens.skip count).rest = tokens.skip (count + 1) := by
  rw [rest, skip, skip, List.tail_drop]

private theorem Tokens.first_skip (tokens : Tokens) (count : Nat) :
    tokens.toList[count]?.or tokens.toList.getLast? = some (tokens.skip count).first := by
  rw [toList, List.getLast?_concat, first, skip, List.headD_eq_head?_getD, List.head?_drop]
  obtain within | beyond := Nat.lt_or_ge count tokens.front.length
  · rw [List.getElem?_append_left within, List.getElem?_eq_getElem within]
    rfl
  · rw [List.getElem?_append_right beyond, List.getElem?_eq_none beyond]
    cases count - tokens.front.length <;> rfl

namespace Lexer

section Steady

open SteadyStream

variable {σ : Type} [CharStream σ] [SteadyStream σ] {lexer : Lexer σ} {tokens : Tokens}

/-- The lookahead is the first of the tokens, and a listing that has ended has come to the last. -/
structure Holds (lexer : Lexer σ) (tokens : Tokens) : Prop where
  showing : lexer.Shows tokens
  ended : lexer.finished = true → tokens.front = []

theorem Holds.drop (holds : lexer.Holds tokens) : lexer.drop.state.Holds tokens.rest := by
  obtain ⟨next, dropped, following, same⟩ := holds.showing.drop
  rw [dropped]
  refine ⟨following, fun ended => ?_⟩
  rw [Outcome.state_ok, same] at ended
  rw [Tokens.rest, holds.ended ended]
  rfl

theorem Holds.next (holds : lexer.Holds tokens) : lexer.next.2.Holds tokens.rest := by
  have shown := peek_of_held holds.showing.lookahead_eq
  have stays (empty : tokens.front = []) : tokens.rest = tokens := by
    obtain ⟨front, finish⟩ := tokens
    obtain rfl : front = [] := empty
    rfl
  cases going : lexer.finished with
  | true =>
    rw [Lexer.next, if_pos going, stays (holds.ended going)]
    exact holds
  | false =>
    rw [Lexer.next, going, shown]
    dsimp only
    by_cases last : tokens.first.kind = .endOfInput
    · have empty := Tokens.front_of_endOfInput holds.showing.running last
      rw [if_neg Bool.false_ne_true, if_pos last, stays empty]
      exact ⟨{ holds.showing with }, fun _ => empty⟩
    · rw [if_neg Bool.false_ne_true, if_neg last]
      have behind := holds.drop
      obtain ⟨next, dropped, -⟩ := holds.showing.drop
      rw [dropped] at behind ⊢
      exact behind

theorem Holds.after {count : Nat} (holds : lexer.Holds (tokens.skip count)) (calls : List Call) :
    (lexer.after calls).Holds (tokens.skip (count + calls.countP (· ≠ .peek))) := by
  induction calls generalizing lexer count with
  | nil => exact holds
  | cons call calls ih =>
    rw [after, List.countP_cons, ← Nat.add_assoc]
    cases call with
    | peek =>
      rw [ask, peek_of_held holds.showing.lookahead_eq]
      exact ih holds
    | drop =>
      have behind := holds.drop
      rw [Tokens.rest_skip] at behind
      rw [Nat.add_right_comm]
      exact ih behind
    | next =>
      have behind := holds.next
      rw [Tokens.rest_skip] at behind
      rw [Nat.add_right_comm]
      exact ih behind

/-- A lexer that has read nothing shows the token behind those that were dropped. -/
theorem Unread.peek_after (unread : lexer.Unread tokens) (going : lexer.finished = false)
    (calls : List Call) : ∃ next,
      (lexer.after calls).peek = .ok (tokens.skip (Call.drops calls)).first next := by
  obtain ⟨showing, shown, shows, same⟩ := Offers.peek (.inl unread)
  have looked : showing.Holds (tokens.skip 0) :=
    ⟨shows, fun ended => absurd (same.symm.trans ended) (by simp [going])⟩
  cases calls with
  | nil => exact ⟨showing, shown⟩
  | cons call calls =>
    have holds : (lexer.after (call :: calls)).Holds (tokens.skip (Call.drops (call :: calls))) := by
      cases call with
      | peek =>
        have further := looked.after calls
        rw [Nat.zero_add] at further
        rw [Lexer.after, ask, shown]
        exact further
      | drop =>
        obtain ⟨next, dropped, shows', same'⟩ := unread.drop
        have moved : next.Holds (tokens.skip 0) :=
          ⟨shows', fun ended => absurd (same'.symm.trans ended) (by simp [going])⟩
        have further := moved.after calls
        rw [Nat.zero_add] at further
        rw [Lexer.after, ask, dropped]
        exact further
      | next =>
        have further := looked.next
        rw [next_of_peek going shown, Tokens.rest_skip] at further
        have counted : Call.drops (.next :: calls) = 0 + 1 + calls.countP (· ≠ .peek) := by
          rw [Nat.zero_add, Nat.add_comm]
          exact List.countP_cons_of_pos rfl
        rw [counted]
        exact further.after calls
    exact ⟨_, peek_of_held holds.showing.lookahead_eq⟩

/-- Over an error-free stream extra looks change the answer of no other call, unless one of them
stands in front of a drop that would have come first. What a look shows depends only on how many
tokens were dropped. -/
theorem looks_change_no_other_answer {source : σ} {text : List Char} (serves : Serves source text)
    (name : String) (line column : Nat) :
    let lexer := start source name line column
    (∀ schedule : List (Option Call),
        (schedule.head? = some none → schedule.reduceOption.head? ≠ some .drop) →
        lexer.answersAmongLooks schedule = lexer.answers schedule.reduceOption) ∧
      ∃ tokens : List Token, lexer.toList.1 = tokens.map .ok ∧
        ∀ calls, ∃ token, (lexer.after calls).peek.result = .ok token ∧
          tokens[Call.drops calls]?.or tokens.getLast? = some token := by
  intro lexer
  obtain ⟨tokens, -, unread⟩ := exists_unread_start serves name line column
  have going : lexer.finished = false := rfl
  obtain ⟨showing, shown, -⟩ := Offers.peek (.inl unread)
  refine ⟨fun schedule => answersAmongLooks_eq going shown, tokens.toList,
    toList_of_offers (.inl unread) going, fun calls => ?_⟩
  obtain ⟨next, looked⟩ := unread.peek_after going calls
  have shown : (lexer.after calls).peek = _ := looked
  rw [shown]
  exact ⟨_, rfl, tokens.first_skip _⟩

/-- Looks behind a first drop change nothing. -/
theorem looks_behind_a_first_drop :
    let lexer := start (Text.ofString "a b") "g" 0 0
    let schedule := [some Call.drop, none, some .peek, none, some .next]
    Serves (Text.ofString "a b") ['a', ' ', 'b'] ∧
      (schedule.head? = some none → schedule.reduceOption.head? ≠ some .drop) ∧
      lexer.answersAmongLooks schedule = lexer.answers [.drop, .peek, .next] ∧
      ∃ tokens : List Token, lexer.toList.1 = tokens.map .ok ∧
        ∀ calls, ∃ token, (lexer.after calls).peek.result = .ok token ∧
          tokens[Call.drops calls]?.or tokens.getLast? = some token := by
  intro lexer schedule
  have serves := Text.serves_ofString "a b"
  obtain ⟨unchanged, dropped⟩ := looks_change_no_other_answer serves "g" 0 0
  exact ⟨serves, nofun, unchanged schedule nofun, dropped⟩

/-- A look in front of a first drop leaves it a token to drop. -/
theorem look_in_front_of_a_first_drop :
    let lexer := start (Text.ofString "a b") "g" 0 0
    lexer.answers [.drop, .peek] =
        [.dropped (.ok ()), .shown (.ok ⟨⟨"g", 1, 1⟩, .identifier, "a"⟩)] ∧
      lexer.answersAmongLooks [none, some .drop, some .peek] =
        [.dropped (.ok ()), .shown (.ok ⟨⟨"g", 1, 3⟩, .identifier, "b"⟩)] := by
  decide +kernel

end Steady

end Lexer

end GrammarCheck
