import GrammarCheck.Proofs.Lexing.Lexed
import Mathlib.Data.Prod.Lex

/-! # The order of the tokens

Positions go up from token to token, line by line and within a line by column. So no two tokens of a
text are equal.
-/

namespace GrammarCheck

namespace Position

/-- Places are ordered by line, and within a line by column. -/
def place (position : Position) : ℕ ×ₗ ℕ :=
  toLex (position.line, position.column)

private theorem place_lt_past (position : Position) (c : Char) :
    position.place < (position.past c).place := by
  rw [past]
  split
  · exact Prod.Lex.toLex_lt_toLex.mpr (.inl (Nat.lt_succ_self _))
  · exact Prod.Lex.toLex_lt_toLex.mpr (.inr ⟨rfl, Nat.lt_succ_self _⟩)

private theorem place_le_foldl_past (position : Position) (text : List Char) :
    position.place ≤ (text.foldl past position).place := by
  induction text generalizing position with
  | nil => exact le_refl _
  | cons c text ih => exact (position.place_lt_past c).le.trans (ih _)

private theorem place_le_after (position : Position) (gap : List Char) :
    position.place ≤ (position.after gap).place :=
  position.place_le_foldl_past _

private theorem place_lt_right (position : Position) {columns : Nat} (some : 0 < columns) :
    position.place < (position.right columns).place :=
  Prod.Lex.toLex_lt_toLex.mpr (.inr ⟨rfl, Nat.lt_add_of_pos_right some⟩)

end Position

namespace Lexed

variable {position : Position} {text : List Char} {tokens : Tokens}

/-- The tokens stand one behind the other, and none in front of where the text starts. -/
theorem sorted (lexed : Lexed position text tokens) :
    (∀ token ∈ tokens.toList, position.place ≤ token.position.place) ∧
      tokens.toList.Pairwise (·.position.place < ·.position.place) := by
  induction lexed with
  | @finish position gap _ =>
    exact ⟨List.forall_mem_singleton.mpr (position.place_le_after gap),
      List.pairwise_singleton ..⟩
  | @token position finish gap text behind kind front _ spells _ ih =>
    obtain ⟨later, ordered⟩ := ih
    obtain ⟨_, _, rfl, -⟩ := firstLexeme_of_spells spells
    have first := position.place_le_after gap
    have others : ∀ token ∈ Tokens.toList ⟨front, finish⟩,
        (position.after gap).place < token.position.place := by
      intro token member
      exact (Position.place_lt_right _ (Nat.succ_pos _)).trans_le (later token member)
    rw [Tokens.toList_cons]
    refine ⟨List.forall_mem_cons.mpr ⟨first, ?_⟩, List.pairwise_cons.mpr ⟨others, ordered⟩⟩
    intro token member
    exact first.trans (others token member).le

/-- All tokens of a text name it. -/
theorem source_eq (lexed : Lexed position text tokens) :
    ∀ token ∈ tokens.toList, token.position.source = position.source := by
  induction lexed with
  | finish _ => exact List.forall_mem_singleton.mpr (Position.source_after ..)
  | token _ _ _ ih =>
    refine List.forall_mem_cons.mpr ⟨Position.source_after .., fun token member => ?_⟩
    exact (ih token member).trans (Position.source_after ..)

theorem nodup (lexed : Lexed position text tokens) : tokens.toList.Nodup := by
  apply lexed.sorted.2.imp
  rintro first second before rfl
  exact lt_irrefl _ before

end Lexed

end GrammarCheck
