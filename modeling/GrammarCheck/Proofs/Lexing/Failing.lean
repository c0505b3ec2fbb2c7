import GrammarCheck.Proofs.Lexing.Keeping

/-! # What reading fails with

A cursor fails where its stream does, or because it has let the stream go. Whatever reads a text
reads it through a cursor, so it fails with nothing else.
-/

namespace GrammarCheck

namespace Outcome

variable {ε ε' σ τ α β : Type} {P : ε → Prop} {outcome : Outcome ε σ α}

/-- If the operation fails then with such a failure. -/
def FailsOnly (P : ε → Prop) : Outcome ε σ α → Prop
  | ok .. => True
  | error failure _ => P failure

theorem FailsOnly.map {f : α → β} (fails : outcome.FailsOnly P) : (outcome.map f).FailsOnly P := by
  cases outcome with
  | ok value state => trivial
  | error failure state => exact fails

theorem FailsOnly.lift {Q : ε' → Prop} {name : ε → ε'} {put : σ → τ} (fails : outcome.FailsOnly P)
    (named : ∀ failure, P failure → Q (name failure)) : (outcome.lift name put).FailsOnly Q := by
  cases outcome with
  | ok value state => trivial
  | error failure state => exact named failure fails

theorem FailsOnly.andThen {further : α → σ → Outcome ε σ β} (fails : outcome.FailsOnly P)
    (each : ∀ value state, (further value state).FailsOnly P) :
    (outcome.andThen further).FailsOnly P := by
  cases outcome with
  | ok value state => exact each value state
  | error failure state => exact fails

theorem failsOnly_true (outcome : Outcome ε σ α) : outcome.FailsOnly fun _ => True := by
  cases outcome <;> trivial

end Outcome

/-- The failures that come from outside: of a stream or of a receiver, or because the text was let
go. -/
inductive Failure.FromOutside : Failure → Prop
  | io (cause : IoFailure) : FromOutside (.io cause)
  | closed : FromOutside .closed

open Outcome (failsOnly_true)
open Failure (FromOutside)

variable {σ : Type} [CharStream σ]

namespace Cursor

variable (cursor : Cursor σ)

theorem failsOnly_move : cursor.move.FailsOnly FromOutside := by
  rw [move_eq]
  split
  · exact .closed
  split
  · trivial
  · apply (Outcome.FailsOnly.lift (failsOnly_true _) fun cause _ => .io cause).andThen
    intro c? next
    cases c? with
    | none => trivial
    | some c =>
      apply (Outcome.FailsOnly.lift (failsOnly_true _) fun cause _ => .io cause).andThen
      intro _ _
      trivial

theorem failsOnly_scanWhile (keep : Char → Bool → Bool) (text : String) :
    (cursor.scanWhile keep text).FailsOnly FromOutside := by
  fun_induction scanWhile keep text cursor with
  | case1 text cursor c here kept failure next moved =>
    have fails := cursor.failsOnly_move
    rwa [moved] at fails
  | case2 text cursor c here kept c? next moved ih => exact ih
  | case3 | case4 | case5 => trivial

theorem failsOnly_skipGap : cursor.skipGap.FailsOnly FromOutside := by
  fun_induction skipGap cursor with
  | case1 cursor c here skipped failure next moved =>
    have fails := cursor.failsOnly_move
    rwa [moved] at fails
  | case3 cursor c here solid comment failure next scanned =>
    have fails := cursor.failsOnly_scanWhile withinLine ""
    rwa [scanned] at fails
  | case2 _ _ _ _ _ _ _ ih | case4 _ _ _ _ _ _ _ _ ih => exact ih
  | case5 | case6 | case7 => trivial

theorem failsOnly_readLiteral (quote : Char) :
    (cursor.readLiteral quote).FailsOnly FromOutside := by
  rw [readLiteral_eq]
  apply cursor.failsOnly_move.andThen
  intro _ inside
  apply (inside.failsOnly_scanWhile _ _).andThen
  intro text stop
  rw [endLiteral]
  split
  · exact stop.failsOnly_move.map
  · trivial

theorem failsOnly_readToken : cursor.readToken.FailsOnly FromOutside := by
  rw [readToken]
  split
  · split
    · exact (cursor.failsOnly_scanWhile _ _).map
    split
    · exact cursor.failsOnly_readLiteral _
    · exact cursor.failsOnly_move.map
  · trivial
  · trivial

theorem failsOnly_nextToken : cursor.nextToken.FailsOnly FromOutside := by
  rw [nextToken_eq]
  exact cursor.failsOnly_skipGap.andThen fun _ next => next.failsOnly_readToken

end Cursor

namespace Lexer

variable (lexer : Lexer σ)

theorem failsOnly_loadToken : lexer.loadToken.FailsOnly FromOutside := by
  rw [loadToken_eq]
  apply (lexer.cursor.failsOnly_nextToken.lift fun _ fails => fails).andThen
  intro _ _
  trivial

theorem failsOnly_drop : lexer.drop.FailsOnly FromOutside := by
  rw [drop_eq]
  split
  · exact .closed
  split
  · apply (lexer.cursor.failsOnly_move.lift fun _ fails => fails).andThen
    intro _ next
    exact next.failsOnly_loadToken
  · split
    · trivial
    · exact lexer.failsOnly_loadToken

theorem failsOnly_peek : lexer.peek.FailsOnly FromOutside := by
  rw [peek_eq]
  split
  · trivial
  · apply lexer.failsOnly_drop.andThen
    intro _ next
    split
    · trivial
    · exact .closed

end Lexer

end GrammarCheck
