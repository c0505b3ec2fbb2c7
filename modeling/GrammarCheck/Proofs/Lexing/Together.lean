import GrammarCheck.Proofs.Lexing.Keeping
import GrammarCheck.Proofs.Tokens

/-! # Cursors that are read together

Two cursors that stand on the same character and move together are read together: a token is read
from the one as it is from the other. The first may halt where it cannot move, while the second goes
on.
-/

namespace GrammarCheck

open Outcome (Mirrors)

/-- The tokens are the same but for their places. -/
def Token.SameWord (token token' : Token) : Prop :=
  token.word = token'.word

namespace Cursor

private theorem spot_of_char? {σ : Type} {cursor : Cursor σ} {c : Char}
    (here : cursor.char? = some c) :
    cursor.spot = .char c := by
  rw [char?] at here
  split at here
  · next spot =>
    obtain rfl := Option.some.inj here
    exact spot
  · contradiction
  · contradiction

variable {σ τ : Type} [CharStream σ] [CharStream τ]

/-- Cursors in this relation stand on the same character and move together. Where the first has
halted, something is known of the second that it keeps as it moves on. -/
structure Together (related : Cursor σ → Cursor τ → Prop)
    (halted : Failure → Cursor σ → Cursor τ → Prop) : Prop where
  spot_eq {left : Cursor σ} {right : Cursor τ} : related left right → left.spot = right.spot
  lineEnded_eq {left : Cursor σ} {right : Cursor τ} :
    related left right → left.lineEnded = right.lineEnded
  move {left : Cursor σ} {right : Cursor τ} {c : Char} (same : related left right)
    (here : left.spot = .char c) : Mirrors halted Eq related Eq left.move right.move
  kept (failure : Failure) (left : Cursor σ) : Keeps (halted failure left)

namespace Together

variable {related : Cursor σ → Cursor τ → Prop} {halted : Failure → Cursor σ → Cursor τ → Prop}
  {left : Cursor σ} {right : Cursor τ}

section Reading

variable (together : Together related halted) (same : related left right)

include together same

private theorem spot_char {c : Char} (here : left.spot = .char c) : right.spot = .char c :=
  (together.spot_eq same).symm.trans here

private theorem spot_ne (off : ∀ c, left.spot ≠ .char c) (c : Char) : right.spot ≠ .char c := by
  rw [← together.spot_eq same]
  exact off c

theorem scanWhile (keep : Char → Bool → Bool) (text : String) :
    Mirrors halted Eq related Eq (left.scanWhile keep text) (right.scanWhile keep text) := by
  induction bound : left.charsLeft using Nat.strongRecOn generalizing left right text with
  | ind length ih =>
  subst bound
  by_cases on : ∃ c, left.spot = .char c
  · obtain ⟨c, here⟩ := on
    rw [scanWhile_char here, scanWhile_char (together.spot_char same here),
      ← together.lineEnded_eq same]
    split
    · refine (together.move same here).andThen_of id (fun moved _ same => ?_)
        fun _ => (together.kept _ _).reading.scanWhile keep _
      exact ih _ (charsLeft_move_lt here moved) same _ rfl
    · exact .ok rfl same
  · have off : ∀ c, left.spot ≠ .char c := not_exists.mp on
    rw [scanWhile_of_ne off, scanWhile_of_ne (together.spot_ne same off)]
    exact .ok rfl same

theorem skipGap : Mirrors halted Eq related Eq left.skipGap right.skipGap := by
  induction bound : left.charsLeft using Nat.strongRecOn generalizing left right with
  | ind length ih =>
  subst bound
  by_cases on : ∃ c, left.spot = .char c
  · obtain ⟨c, here⟩ := on
    rw [skipGap_char here, skipGap_char (together.spot_char same here),
      ← together.lineEnded_eq same]
    split
    · refine (together.move same here).andThen_of id (fun moved _ same => ?_)
        fun _ => (together.kept _ _).reading.skipGap
      exact ih _ (charsLeft_move_lt here moved) same rfl
    next solid =>
    split
    · refine (together.scanWhile same withinLine "").andThen_of id (fun scanned _ same => ?_)
        fun _ => (together.kept _ _).reading.skipGap
      exact ih _ (charsLeft_scanWhile_lt here (withinLine_of_solid solid) scanned) same rfl
    · exact .ok rfl same
  · have off : ∀ c, left.spot ≠ .char c := not_exists.mp on
    rw [skipGap_of_ne off, skipGap_of_ne (together.spot_ne same off)]
    exact .ok rfl same

theorem readLiteral {quote : Char} (here : left.spot = .char quote) :
    Mirrors halted Eq related Token.SameWord (left.readLiteral quote)
      (right.readLiteral quote) := by
  have ended {text text' : String} {stop : Cursor σ} {stop' : Cursor τ} (texts : text = text')
      (same : related stop stop') : Mirrors halted Eq related Token.SameWord
        (left.endLiteral quote text stop) (right.endLiteral quote text' stop') := by
    subst texts
    have chars : stop.char? = stop'.char? := by rw [char?, char?, together.spot_eq same]
    rw [Cursor.endLiteral, Cursor.endLiteral, ← chars]
    split
    · next closed =>
      exact (together.move same (spot_of_char? closed)).map fun _ => rfl
    · exact .ok rfl same
  rw [readLiteral_eq, readLiteral_eq]
  refine (together.move same here).andThen id (fun _ same => ?_) fun value stopped => ?_
  · refine (together.scanWhile same _ _).andThen id ended fun text stopped => ?_
    exact (together.kept _ _).reading.endLiteral quote right text stopped
  · refine Outcome.holds_andThen ((together.kept _ _).reading.scanWhile _ _ stopped) fun text next => ?_
    exact (together.kept _ _).reading.endLiteral quote right text

theorem readToken : Mirrors halted Eq related Token.SameWord left.readToken right.readToken := by
  rw [Cursor.readToken, Cursor.readToken, ← together.spot_eq same]
  split
  · next c here =>
    split
    · exact (together.scanWhile same _ _).map fun texts => congrArg (Token.Kind.identifier, ·) texts
    split
    · exact together.readLiteral same here
    · exact (together.move same here).map fun _ => rfl
  · exact .ok rfl same
  · exact .ok rfl same

/-- The next token is read from both cursors alike, or the first cursor halts. -/
theorem nextToken : Mirrors halted Eq related Token.SameWord left.nextToken right.nextToken := by
  rw [nextToken_eq, nextToken_eq]
  exact (together.skipGap same).andThen id (fun _ same => together.readToken same)
    fun _ => (together.kept _ _).reading.readToken

end Reading

end Together

end Cursor

end GrammarCheck
