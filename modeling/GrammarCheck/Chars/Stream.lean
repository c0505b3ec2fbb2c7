import GrammarCheck.Outcome
import GrammarCheck.Failure

/-! # Character streams

A character stream hands out characters one at a time and shows the next one without taking it.
Either may fail and leaves a state to go on from. Each stream bounds the characters that it can
still hand out, so that every loop over a stream ends.
-/

namespace GrammarCheck

/-- A source of characters with one character of lookahead; `none` is the end of the text. -/
class CharStream (σ : Type) where
  /-- Takes the next character. -/
  next : σ → Outcome IoFailure σ (Option Char)
  /-- Shows the next character. -/
  peek : σ → Outcome IoFailure σ (Option Char)
  /-- A bound on the characters still to come. -/
  charsLeft : σ → Nat
  next_le (source : σ) : charsLeft (next source).state ≤ charsLeft source
  peek_le (source : σ) : charsLeft (peek source).state ≤ charsLeft source
  next_lt {source rest : σ} {c : Char} (success : next source = .ok (some c) rest) :
    charsLeft rest < charsLeft source

namespace CharStream

variable {σ : Type} [CharStream σ]

/-- Takes characters until the text ends or a read fails, adding them to `text`. -/
def drain (source : σ) (text : String) : String × Option IoFailure :=
  match _success : next source with
  | .ok (some c) rest => drain rest (text.push c)
  | .ok none _ => (text, none)
  | .error failure _ => (text, some failure)
termination_by charsLeft source
decreasing_by exact next_lt _success

end CharStream

end GrammarCheck
