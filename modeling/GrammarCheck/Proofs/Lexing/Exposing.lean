import GrammarCheck.Chars.Utf8Lines
import GrammarCheck.Proofs.Lexing.Keeping
import GrammarCheck.Proofs.Lexing.Listing

/-! # Exposed and listed tokens

A lexer can be driven by hand: its lookahead is asked for and dropped, again and again, until the
end of the text comes up or a read fails. A listing gives the tokens that come up in this way. It
has read the token behind the one that it is about to give, so a failure there takes the place of a
token that had come up already.
-/

namespace GrammarCheck.Lexer

variable {σ : Type} [CharStream σ] {lexer next : Lexer σ}

/-- The tokens that come up when the lookahead is asked for and dropped in turn, and the failure
that stops this before the end of the text. -/
def exposed (lexer : Lexer σ) : List Token × Option Failure :=
  match _shown : lexer.peek with
  | .error failure _ => ([], some failure)
  | .ok token showing =>
    if _ended : token.kind = .endOfInput then ([token], none)
    else
      match _dropped : showing.drop with
      | .error failure _ => ([token], some failure)
      | .ok () next => (token :: next.exposed.1, next.exposed.2)
termination_by lexer.tokensLeft
decreasing_by
  all_goals
    have shorter := tokensLeft_drop_lt (lookahead_of_peek _shown) _ended _dropped
    have bound := lexer.tokensLeft_peek_le
    rw [_shown] at bound
    exact Nat.lt_of_lt_of_le shorter bound

private theorem finished_loadToken (lexer : Lexer σ) :
    lexer.loadToken.state.finished = lexer.finished := by
  rw [loadToken]
  split <;> rfl

private theorem finished_drop (lexer : Lexer σ) : lexer.drop.state.finished = lexer.finished := by
  rw [Lexer.drop]
  split
  · rfl
  split
  · split
    · rfl
    · exact finished_loadToken _
  · split
    · rfl
    · exact finished_loadToken _

theorem finished_peek (lexer : Lexer σ) : lexer.peek.state.finished = lexer.finished := by
  have kept := lexer.finished_drop
  rw [peek_eq]
  split
  · rfl
  · cases dropped : lexer.drop with
    | error failure next =>
      rw [dropped] at kept
      exact kept
    | ok done next =>
      rw [dropped] at kept
      rw [Outcome.andThen_ok]
      split <;> exact kept

private theorem exists_lookahead_of_loadToken (loaded : lexer.loadToken = .ok () next) :
    ∃ token, next.lookahead = some token := by
  rw [loadToken_eq, Outcome.andThen_eq_ok_iff] at loaded
  obtain ⟨token, middle, -, shown⟩ := loaded
  obtain ⟨-, rfl⟩ := Outcome.ok.inj shown
  exact ⟨token, rfl⟩

/-- A dropped token makes room for another, or stays if it is the end. -/
theorem exists_lookahead_of_drop (dropped : lexer.drop = .ok () next) :
    ∃ token, next.lookahead = some token := by
  rw [drop_eq] at dropped
  split at dropped
  · contradiction
  split at dropped
  · obtain ⟨c?, middle, -, loaded⟩ := Outcome.andThen_eq_ok_iff.mp dropped
    exact exists_lookahead_of_loadToken loaded
  · next token held =>
    split at dropped
    · obtain ⟨-, rfl⟩ := Outcome.ok.inj dropped
      exact ⟨token, held⟩
    · exact exists_lookahead_of_loadToken dropped

/-- A lookahead comes up first. -/
theorem exposed_ne_nil {token : Token} (held : lexer.lookahead = some token) :
    lexer.exposed.1 ≠ [] := by
  have shown : lexer.peek = .ok token lexer := by rw [Lexer.peek, held]
  rw [exposed]
  split
  · next failed =>
    rw [shown] at failed
    contradiction
  · split
    · exact List.cons_ne_nil _ _
    · split <;> exact List.cons_ne_nil _ _

/-- The end comes up last, and only if no read fails. -/
theorem exposed_kinds (lexer : Lexer σ) :
    (lexer.exposed.2 = none ↔ ∃ token ∈ lexer.exposed.1.getLast?, token.kind = .endOfInput) ∧
      ∀ token ∈ lexer.exposed.1.dropLast, token.kind ≠ .endOfInput := by
  fun_induction exposed lexer with
  | case1 lexer failure rest shown => simp
  | case2 lexer token showing shown ended => simp [ended]
  | case3 lexer token showing shown running failure rest failed => simp [running]
  | case4 lexer token showing shown running next dropped ih =>
    obtain ⟨_, held⟩ := exists_lookahead_of_drop dropped
    obtain ⟨second, further, more⟩ := List.exists_cons_of_ne_nil (exposed_ne_nil held)
    rw [more] at ih ⊢
    rw [List.getLast?_cons_cons, List.dropLast_cons_cons, List.forall_mem_cons]
    exact ⟨ih.1, running, ih.2⟩

private theorem toList_of_last {item : Except Failure Token} (going : lexer.finished = false)
    (listed : lexer.next = (some item, next)) (stopped : next.finished = true) :
    lexer.toList = ([item], next) := by
  rw [toList_of_going going, listed, Option.elim_some, toList_of_finished stopped]

/-- The listing gives the tokens that come up. A failure takes the place of the last of them. -/
theorem toList_eq_exposed (going : lexer.finished = false) :
    lexer.toList.2.finished = true ∧ lexer.toList.1 =
      (if lexer.exposed.2 = none then lexer.exposed.1 else lexer.exposed.1.dropLast).map .ok ++
        lexer.exposed.2.toList.map .error := by
  fun_induction exposed lexer with
  | case1 lexer failure rest failed =>
    have listed : lexer.next = (some (.error failure), { rest with finished := true }) := by
      rw [Lexer.next, going, failed]
      rfl
    rw [toList_of_last going listed rfl]
    exact ⟨rfl, rfl⟩
  | case2 lexer token showing shown ended =>
    have listed : lexer.next = (some (.ok token), { showing with finished := true }) := by
      rw [Lexer.next, going, shown]
      exact if_pos ended
    rw [toList_of_last going listed rfl]
    exact ⟨rfl, rfl⟩
  | case3 lexer token showing shown running failure rest failed =>
    have listed : lexer.next = (some (.error failure), { rest with finished := true }) := by
      rw [Lexer.next, going, shown]
      dsimp only
      rw [if_neg running, failed]
      rfl
    rw [toList_of_last going listed rfl]
    exact ⟨rfl, rfl⟩
  | case4 lexer token showing shown running next dropped ih =>
    have listed : lexer.next = (some (.ok token), next) := by
      rw [Lexer.next, going, shown]
      dsimp only
      rw [if_neg running, dropped]
      rfl
    have still : next.finished = false := by
      have peeked := lexer.finished_peek
      have kept := showing.finished_drop
      rw [shown] at peeked
      rw [dropped] at kept
      exact kept.trans (peeked.trans going)
    obtain ⟨stopped, items⟩ := ih still
    rw [toList_of_going going, listed, Option.elim_some]
    refine ⟨stopped, ?_⟩
    rw [items]
    cases next.exposed.2 with
    | none => rfl
    | some failure =>
      -- Another token has come up, so it is not this one that the failure replaces.
      obtain ⟨_, held⟩ := exists_lookahead_of_drop dropped
      dsimp only
      rw [List.dropLast_cons_of_ne_nil (exposed_ne_nil held)]
      rfl

/-- A listing gives the tokens that come up and then ends for good. If no read fails these are all
tokens up to the end of the text. Else the last of them is lost and the failure stands in its
place, so that nothing is lost only if the first token could not be read. -/
theorem listing_loses_the_token_before_a_failure (source : σ) (name : String) (line column : Nat) :
    let lexer := start source name line column
    let tokens := lexer.exposed.1
    let failure? := lexer.exposed.2
    lexer.toList.1 = (if failure? = none then tokens else tokens.dropLast).map .ok ++
      failure?.toList.map .error ∧
    lexer.toList.2.next = (none, lexer.toList.2) ∧
    (failure? = none ↔ ∃ token ∈ tokens.getLast?, token.kind = .endOfInput) ∧
    (∀ token ∈ tokens.dropLast, token.kind ≠ .endOfInput) ∧
    (lexer.toList.1 = tokens.map .ok ++ failure?.toList.map .error ↔
      failure? = none ∨ tokens = []) := by
  intro lexer tokens failure?
  have going : lexer.finished = false := rfl
  obtain ⟨stopped, items⟩ := toList_eq_exposed going
  obtain ⟨ends, before⟩ := lexer.exposed_kinds
  refine ⟨items, by rw [Lexer.next, if_pos stopped], ends, before, ?_⟩
  rw [items, List.append_cancel_right_eq]
  change (if failure? = none then tokens else tokens.dropLast).map _ = _ ↔ _
  split
  · next succeeded => simp [succeeded]
  · next failed =>
    rw [List.map_inj_right fun _ _ => Except.ok.inj, or_iff_right failed]
    refine ⟨fun same => ?_, fun empty => by rw [empty]; rfl⟩
    have shorter := congrArg List.length same
    rw [List.length_dropLast] at shorter
    exact List.length_eq_zero_iff.mp (by omega)

/-- The first of two words has come up when the read of the second fails, and it is not listed. -/
theorem word_before_a_failure_is_not_listed :
    let failure : IoFailure := ⟨.other, "injected failure"⟩
    let source := Utf8Lines.ofFeed 8192 (Feed.failingAt "a\nb".toUTF8.data.toList 2 1 failure)
    let lexer := start source "g" 0 0
    lexer.exposed = ([⟨⟨"g", 1, 1⟩, .identifier, "a"⟩], some (.io failure)) ∧
      lexer.toList.1 = [.error (.io failure)] := by
  intro failure source lexer
  decide +kernel

end GrammarCheck.Lexer
