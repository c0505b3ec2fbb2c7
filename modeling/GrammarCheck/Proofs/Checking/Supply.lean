import GrammarCheck.Proofs.Checking.Tracking
import GrammarCheck.Proofs.Lexing.Listing

/-! # Lexers over their whole life

A lexer has shown nothing at first, then it shows token after token, and once its text is let go the
lookahead is all that is left of it. A supply of tokens goes through the same, and never fails while
it is open.
-/

namespace GrammarCheck

/-- The tokens that a lexer still has to show. -/
inductive Supply where
  /-- None of the tokens was shown. -/
  | unread (tokens : Tokens)
  /-- The first of the tokens is the lookahead. -/
  | shown (tokens : Tokens)
  /-- The text was let go while this was the lookahead. -/
  | released (lookahead? : Option Token)

namespace Supply

/-- The tokens that can still be shown, the lookahead first. -/
def ahead : Supply → List Token
  | unread tokens | shown tokens => tokens.toList
  | released lookahead? => lookahead?.toList

def peek : Supply → Outcome Failure Supply Token
  | unread tokens | shown tokens => .ok tokens.first (shown tokens)
  | released (some token) => .ok token (released (some token))
  | released none => .error .closed (released none)

def drop : Supply → Outcome Failure Supply Unit
  | unread tokens => .ok () (shown tokens)
  | shown tokens => .ok () (shown tokens.rest)
  | released lookahead? => .error .closed (released lookahead?)

def release : Supply → Supply
  | unread _ => released none
  | shown tokens => released (some tokens.first)
  | released lookahead? => released lookahead?

def tokensLeft : Supply → Nat
  | unread tokens | shown tokens => tokens.front.length
  | released _ => 0

instance : TokenStream Supply where
  peek := peek
  drop := drop
  release := release
  note _ supply := supply
  tokensLeft := tokensLeft
  peek_le supply := by
    rcases supply with tokens | tokens | _ | token <;> exact Nat.le_refl _
  drop_le supply := by
    rcases supply with tokens | tokens | lookahead?
    · exact Nat.le_refl _
    · exact TokenStream.drop_le tokens
    · exact Nat.le_refl _
  drop_lt {before supply after token} shown notEnd success := by
    rcases before with tokens | tokens | _ | held <;> cases shown <;> cases success
    all_goals
      have first : TokenStream.peek tokens = .ok tokens.first tokens := rfl
      exact TokenStream.drop_lt first notEnd rfl
  note_eq _ _ := rfl

theorem ahead_peek (supply : Supply) : supply.peek.state.ahead.Sublist supply.ahead := by
  rcases supply with tokens | tokens | _ | token <;> exact List.Sublist.refl _

theorem head?_ahead_of_peek {supply next : Supply} {token : Token}
    (shown : supply.peek = .ok token next) : next.ahead.head? = some token := by
  rcases supply with tokens | tokens | _ | held <;> cases shown
  · exact tokens.head?_toList
  · exact tokens.head?_toList
  · rfl

theorem ahead_drop (supply : Supply) : supply.drop.state.ahead.Sublist supply.ahead := by
  rcases supply with tokens | tokens | lookahead?
  · exact List.Sublist.refl _
  · change tokens.rest.toList.Sublist tokens.toList
    rw [Tokens.toList_rest]
    split
    · exact List.Sublist.refl _
    · exact List.tail_sublist _
  · exact List.Sublist.refl _

/-- Only the lookahead is left when the text is let go. -/
theorem ahead_release_prefix (supply : Supply) : supply.release.ahead <+: supply.ahead := by
  rcases supply with tokens | tokens | lookahead?
  · exact List.nil_prefix
  · obtain ⟨behind, split⟩ := List.head?_eq_some_iff.mp tokens.head?_toList
    exact ⟨behind, split.symm⟩
  · exact List.prefix_refl _

theorem ahead_release (supply : Supply) : supply.release.ahead.Sublist supply.ahead :=
  supply.ahead_release_prefix.sublist

theorem tokensLeft_release_le (supply : Supply) :
    TokenStream.tokensLeft (TokenStream.release supply) ≤ TokenStream.tokensLeft supply := by
  rcases supply with tokens | tokens | lookahead? <;> exact Nat.zero_le _

/-- Tokens are dropped only while the supply is open. -/
theorem open_of_drop {supply middle next : Supply} {token : Token}
    (shown : supply.peek = .ok token middle) (dropped : middle.drop = .ok () next) :
    ∃ tokens, (supply = .unread tokens ∨ supply = .shown tokens) ∧ token = tokens.first ∧
      next = .shown tokens.rest := by
  rcases supply with tokens | tokens | _ | held <;> cases shown <;> cases dropped
  · exact ⟨tokens, .inl rfl, rfl, rfl⟩
  · exact ⟨tokens, .inr rfl, rfl, rfl⟩

end Supply

namespace Lexer

open SteadyStream

variable {σ : Type} [CharStream σ] [SteadyStream σ] {lexer : Lexer σ} {supply : Supply}

omit [CharStream σ] [SteadyStream σ] in
theorem released_release (lexer : Lexer σ) : lexer.release.cursor.released = true := by
  rw [release]
  dsimp only
  rw [Cursor.release]
  split
  · assumption
  · rfl

/-- The lexer has these tokens still to show. -/
inductive Supplies (lexer : Lexer σ) : Supply → Prop
  | unread {tokens : Tokens} (unread : lexer.Unread tokens) (going : lexer.finished = false) :
    Supplies lexer (.unread tokens)
  | shown {tokens : Tokens} (showing : lexer.Shows tokens) (going : lexer.finished = false) :
    Supplies lexer (.shown tokens)
  | released {lookahead? : Option Token} (released : lexer.cursor.released = true)
    (lookahead_eq : lexer.lookahead = lookahead?) : Supplies lexer (.released lookahead?)

namespace Supplies

theorem peek (supplies : lexer.Supplies supply) :
    Outcome.Alike Supplies lexer.peek supply.peek := by
  cases supplies with
  | unread unread going =>
    obtain ⟨next, shown, showing, same⟩ := Offers.peek (.inl unread)
    rw [shown]
    exact .ok _ (.shown showing (same.trans going))
  | shown showing going =>
    obtain ⟨next, shown, showing, same⟩ := Offers.peek (.inr showing)
    rw [shown]
    exact .ok _ (.shown showing (same.trans going))
  | @released lookahead? released lookahead =>
    cases lookahead? with
    | none =>
      rw [Lexer.peek, lookahead]
      dsimp only
      rw [Lexer.drop, if_pos released]
      exact .error _ (.released released lookahead)
    | some token =>
      rw [Lexer.peek, lookahead]
      exact .ok _ (.released released lookahead)

theorem drop (supplies : lexer.Supplies supply) :
    Outcome.Alike Supplies lexer.drop supply.drop := by
  cases supplies with
  | unread unread going =>
    obtain ⟨next, dropped, showing, same⟩ := unread.drop
    rw [dropped]
    exact .ok _ (.shown showing (same.trans going))
  | shown showing going =>
    obtain ⟨next, dropped, following, same⟩ := showing.drop
    rw [dropped]
    exact .ok _ (.shown following (same.trans going))
  | released released lookahead =>
    rw [Lexer.drop, if_pos released]
    exact .error _ (.released released lookahead)

theorem note (supplies : lexer.Supplies supply) (event : Event) :
    (lexer.note event).Supplies supply := by
  cases supplies with
  | unread unread going => exact .unread (unread.note event) going
  | shown showing going => exact .shown (showing.note event) going
  | released released lookahead => exact .released released lookahead

theorem toList_of_shown {tokens : Tokens} (supplies : lexer.Supplies (.shown tokens)) :
    lexer.toList.1 = tokens.toList.map .ok := by
  cases supplies with
  | shown showing going => exact toList_of_offers (.inr showing) going

/-- As long as a lexer can drop tokens, it lists the one dropped and then those that follow. -/
theorem toList_of_drop {middle next : Lexer σ} {token : Token} (supplies : lexer.Supplies supply)
    (shown : lexer.peek = .ok token middle) (running : token.kind ≠ .endOfInput)
    (dropped : middle.drop = .ok () next) :
    ∃ tokens, next.Supplies (.shown tokens) ∧
      lexer.toList.1 = (token :: tokens.toList).map .ok := by
  have peeked := supplies.peek
  rw [shown] at peeked
  obtain ⟨supply', shown', between⟩ := peeked.exists_ok
  have moved := between.drop
  rw [dropped] at moved
  obtain ⟨supply'', dropped', behind⟩ := moved.exists_ok
  obtain ⟨tokens, going, rfl, rfl⟩ := Supply.open_of_drop shown' dropped'
  refine ⟨tokens.rest, behind, ?_⟩
  rw [← Tokens.toList_of_ne_endOfInput running]
  obtain rfl | rfl := going
  · cases supplies with
    | unread unread going => exact toList_of_offers (.inl unread) going
  · exact supplies.toList_of_shown

theorem release (supplies : lexer.Supplies supply) : lexer.release.Supplies supply.release := by
  have released := lexer.released_release
  cases supplies with
  | unread unread _ => exact .released released unread.lookahead_eq
  | shown showing _ => exact .released released showing.lookahead_eq
  | released _ lookahead => exact .released released lookahead

/-- A lexer keeps in step with its supply, also behind a failure. -/
theorem tracks : TokenStream.Tracks (Supplies : Lexer σ → Supply → Prop) Supplies where
  offers_of_shows supplies := supplies
  peek supplies := supplies.peek
  drop supplies := supplies.drop
  note event supplies := supplies.note event

end Supplies

end Lexer

end GrammarCheck
