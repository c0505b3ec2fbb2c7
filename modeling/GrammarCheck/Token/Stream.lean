import GrammarCheck.Event
import GrammarCheck.Failure
import GrammarCheck.Outcome

/-! # Token streams

A token stream shows the token that is next and drops it. The token that ends the input stays: to
drop it changes nothing. A stream also keeps the events noted while its text is read, in one
sequence with those noted by its user, and it bounds the tokens before the end, so that every loop
over a stream ends.
-/

namespace GrammarCheck

/-- A source of tokens with one token of lookahead. -/
class TokenStream (τ : Type) where
  /-- Shows the lookahead token. -/
  peek : τ → Outcome Failure τ Token
  /-- Drops the lookahead token. -/
  drop : τ → Outcome Failure τ Unit
  /-- Lets go of the text. -/
  release : τ → τ
  /-- Notes an event. -/
  note : Event → τ → τ
  /-- A bound on the tokens that can still be dropped. -/
  tokensLeft : τ → Nat
  peek_le (tokens : τ) : tokensLeft (peek tokens).state ≤ tokensLeft tokens
  drop_le (tokens : τ) : tokensLeft (drop tokens).state ≤ tokensLeft tokens
  drop_lt {before tokens after : τ} {token : Token}
    (shown : peek before = .ok token tokens) (notEnd : token.kind ≠ .endOfInput)
    (success : drop tokens = .ok () after) : tokensLeft after < tokensLeft tokens
  note_eq (event : Event) (tokens : τ) : tokensLeft (note event tokens) = tokensLeft tokens

end GrammarCheck
