import GrammarCheck.Proofs.Lexing.Lexed

/-! # Lexers over steady streams

A lexer offers the tokens of the text that its stream serves: it shows them one after the other,
and its listing gives them all, the end included, and stops.
-/

namespace GrammarCheck.Lexer

open SteadyStream

variable {σ : Type} [CharStream σ] [SteadyStream σ]

/-- The lookahead of the lexer is the first of the tokens, and the others are still to be read. -/
structure Shows (lexer : Lexer σ) (tokens : Tokens) : Prop where
  lookahead_eq : lexer.lookahead = some tokens.first
  held : lexer.cursor.released = false
  running : ∀ token ∈ tokens.front, token.kind ≠ .endOfInput
  behind : tokens.front ≠ [] → ∃ position text, lexer.cursor.StandsAt position text ∧
    Lexed position text tokens.rest

/-- The lexer has read nothing yet, and these are the tokens of its text. -/
structure Unread (lexer : Lexer σ) (tokens : Tokens) : Prop where
  lookahead_eq : lexer.lookahead = none
  held : lexer.cursor.released = false
  spot_eq : lexer.cursor.spot = .start
  lineEnded_eq : lexer.cursor.lineEnded = true
  ahead : ∃ text, Serves lexer.cursor.source text ∧
    Lexed ⟨lexer.cursor.name, lexer.cursor.line + 1, 1⟩ text tokens

/-- The tokens are those that the lexer has still to give, lookahead first. -/
def Offers (lexer : Lexer σ) (tokens : Tokens) : Prop :=
  lexer.Unread tokens ∨ lexer.Shows tokens

variable {lexer : Lexer σ} {tokens : Tokens}

theorem Shows.note (showing : lexer.Shows tokens) (event : Event) :
    (lexer.note event).Shows tokens where
  lookahead_eq := showing.lookahead_eq
  held := showing.held
  running := showing.running
  behind more := by
    obtain ⟨position, text, stands, lexed⟩ := showing.behind more
    exact ⟨position, text, stands.note event, lexed⟩

theorem Unread.note (unread : lexer.Unread tokens) (event : Event) :
    (lexer.note event).Unread tokens :=
  { unread with }

theorem Offers.note (offers : lexer.Offers tokens) (event : Event) :
    (lexer.note event).Offers tokens :=
  offers.imp (·.note event) (·.note event)

/-- The first token of the text at the cursor becomes the lookahead. -/
theorem loadToken_of_lexed {position : Position} {text : List Char}
    (stands : lexer.cursor.StandsAt position text) (lexed : Lexed position text tokens) :
    ∃ next, lexer.loadToken = .ok () next ∧ next.Shows tokens ∧
      next.finished = lexer.finished := by
  obtain ⟨cursor, read, held, behind⟩ := stands.nextToken_of_lexed lexed
  have loaded : lexer.loadToken = .ok () { lexer with
      cursor := cursor.note (.token tokens.first), lookahead := some tokens.first } := by
    rw [loadToken, read]
  refine ⟨_, loaded, ⟨rfl, held, lexed.ne_endOfInput, fun more => ?_⟩, rfl⟩
  obtain ⟨place, rest, there, tail⟩ := behind more
  exact ⟨place, rest, there.note _, tail⟩

/-- To drop the lookahead shows the next token. The end stays. -/
theorem Shows.drop (showing : lexer.Shows tokens) :
    ∃ next, lexer.drop = .ok () next ∧ next.Shows tokens.rest ∧
      next.finished = lexer.finished := by
  have held : ¬ lexer.cursor.released = true := by simp [showing.held]
  rw [Lexer.drop, if_neg held, showing.lookahead_eq]
  dsimp only
  obtain ⟨_ | ⟨token, front⟩, finish⟩ := tokens
  · exact ⟨lexer, if_pos rfl, showing, rfl⟩
  · rw [Tokens.first_cons, if_neg (showing.running token (List.mem_cons_self ..))]
    obtain ⟨position, text, stands, lexed⟩ := showing.behind (List.cons_ne_nil _ _)
    exact loadToken_of_lexed stands lexed

/-- A lexer that has read nothing drops nothing: it shows the first token. -/
theorem Unread.drop (unread : lexer.Unread tokens) :
    ∃ next, lexer.drop = .ok () next ∧ next.Shows tokens ∧ next.finished = lexer.finished := by
  obtain ⟨cursor, lookahead, finished⟩ := lexer
  obtain ⟨rfl, held, spot, ended, text, serves, lexed⟩ := unread
  dsimp only at held spot ended serves lexed
  obtain ⟨there, moved, stands⟩ := Cursor.move_of_serves held (by simp [spot]) serves
  rw [Cursor.position_count_of_lineEnded ended] at stands
  have entered : (Lexer.mk there none finished).cursor.StandsAt _ text := stands
  obtain ⟨next, loaded, showing, same⟩ := loadToken_of_lexed entered lexed
  refine ⟨next, ?_, showing, same⟩
  simp only [Lexer.drop, held, Bool.false_eq_true, ↓reduceIte, moved, loaded]

/-- The first token is shown, and read if it was not. -/
theorem Offers.peek (offers : lexer.Offers tokens) :
    ∃ next, lexer.peek = .ok tokens.first next ∧ next.Shows tokens ∧
      next.finished = lexer.finished := by
  rcases offers with unread | showing
  · obtain ⟨next, dropped, showing, same⟩ := unread.drop
    refine ⟨next, ?_, showing, same⟩
    simp only [Lexer.peek, unread.lookahead_eq, dropped, showing.lookahead_eq]
  · exact ⟨lexer, by rw [Lexer.peek, showing.lookahead_eq], showing, rfl⟩

omit [SteadyStream σ] in
theorem toList_of_finished (ended : lexer.finished = true) : lexer.toList = ([], lexer) := by
  rw [toList, dif_pos ended]

omit [SteadyStream σ] in
theorem toList_of_going (going : lexer.finished = false) :
    lexer.toList = lexer.next.1.elim ([], lexer.next.2) fun item =>
      (item :: lexer.next.2.toList.1, lexer.next.2.toList.2) := by
  rw [toList, dif_neg (by simp [going])]
  split
  · next listed => rw [listed, Option.elim_none]
  · next listed => rw [listed, Option.elim_some]

omit [SteadyStream σ] in
private theorem toList_of_next {item : Except Failure Token} {rest : Lexer σ}
    (going : lexer.finished = false) (listed : lexer.next = (some item, rest)) :
    lexer.toList.1 = item :: rest.toList.1 := by
  rw [toList_of_going going, listed, Option.elim_some]

/-- The listing is the tokens, the end included. -/
theorem toList_of_offers (offers : lexer.Offers tokens) (going : lexer.finished = false) :
    lexer.toList.1 = tokens.toList.map .ok := by
  obtain ⟨front, finish⟩ := tokens
  induction front generalizing lexer with
  | nil =>
    obtain ⟨next, shown, _, _⟩ := offers.peek
    have listed : lexer.next = (some (.ok (.atEnd finish)), { next with finished := true }) := by
      rw [Lexer.next, going, shown]
      rfl
    rw [toList_of_next going listed, toList_of_finished rfl]
    rfl
  | cons token front ih =>
    obtain ⟨middle, shown, showing, same⟩ := offers.peek
    obtain ⟨next, dropped, following, same'⟩ := showing.drop
    have listed : lexer.next = (some (.ok token), next) := by
      rw [Lexer.next, going, shown]
      dsimp only
      rw [Tokens.first_cons, if_neg (showing.running token (List.mem_cons_self ..)), dropped]
      rfl
    rw [toList_of_next going listed, ih (by rw [same', same, going]) (.inr following)]
    rfl

/-- A lexer that starts on a text offers the tokens of the text. -/
theorem exists_unread_start {source : σ} {text : List Char} (serves : Serves source text)
    (name : String) (line column : Nat) :
    ∃ tokens, Lexed ⟨name, line + 1, 1⟩ text tokens ∧
      (Lexer.start source name line column).Unread tokens := by
  have fresh : (Cursor.start source name line column).spot ≠ .finish := nofun
  obtain ⟨cursor, _, stands⟩ := Cursor.move_of_serves rfl fresh serves
  obtain ⟨tokens, lexed⟩ := stands.exists_lexed
  rw [Cursor.position_count_of_lineEnded rfl] at lexed
  exact ⟨tokens, lexed, ⟨rfl, rfl, rfl, rfl, text, serves, lexed⟩⟩

end GrammarCheck.Lexer
