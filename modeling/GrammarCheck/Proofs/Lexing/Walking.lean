import GrammarCheck.Proofs.Lexing.Turns
import Mathlib.Data.List.DropRight

/-! # Walking over a text

A cursor that moves again and again comes to the logical characters of its text one after the other
and then to the end, where it stays. Where it stands after some moves is told by the characters that
it has passed: the line ends among them give the line, and what follows the last line end gives the
column.
-/

namespace GrammarCheck

open Chars SteadyStream

namespace Position

/-- A position counts the characters behind the last line end. -/
private theorem column_foldl_past (source : String) (line : Nat) (text : List Char) :
    (text.foldl past ⟨source, line, 1⟩).column =
      1 + (text.rtakeWhile fun c => !isLineEnd c).length := by
  induction text using List.reverseRecOn with
  | nil => rfl
  | append_singleton text c ih =>
    rw [List.foldl_concat, past]
    cases ends : isLineEnd c with
    | true =>
      rw [List.rtakeWhile_concat_neg _ _ _ (by simp [ends])]
      rfl
    | false =>
      rw [List.rtakeWhile_concat_pos _ _ _ (by simp [ends]), List.length_append, ← Nat.add_assoc,
        ← ih]
      rfl

/-- At the start of a line, the position behind a text is told by its line ends. -/
theorem foldl_past_eq (source : String) (line : Nat) (text : List Char) :
    text.foldl past ⟨source, line, 1⟩ = ⟨source, line + text.countP isLineEnd,
      1 + (text.rtakeWhile fun c => !isLineEnd c).length⟩ := by
  have source_eq := source_foldl_past ⟨source, line, 1⟩ text
  have line_eq := line_foldl_past ⟨source, line, 1⟩ text
  have column_eq := column_foldl_past source line text
  generalize text.foldl past ⟨source, line, 1⟩ = position at *
  obtain ⟨source', line', column'⟩ := position
  dsimp only at source_eq line_eq column_eq
  rw [source_eq, line_eq, column_eq]

end Position

/-- The characters that end a line. -/
private theorem isLineEnd_iff_mem {c : Char} : isLineEnd c = true ↔
    c ∈ ['\n', '\x0b', '\x0c', '\r', '\u0085', '\u2028', '\u2029'] := by
  simp [isLineEnd, or_assoc]

namespace Cursor

def afterMoves {σ : Type} [CharStream σ] (cursor : Cursor σ) : Nat → Cursor σ
  | 0 => cursor
  | moves + 1 => (cursor.afterMoves moves).move.state

variable {σ : Type} [CharStream σ] [SteadyStream σ]

/-- The move behind a number of others comes to the logical character of that number. -/
theorem exists_standsAt_afterMoves {source : σ} {text : List Char} (serves : Serves source text)
    (name : String) (line column moves : Nat) :
    ∃ next ahead, ((start source name line column).afterMoves moves).move =
        .ok (logical text)[moves]? next ∧
      next.StandsAt (((logical text).take moves).foldl Position.past ⟨name, line + 1, 1⟩) ahead ∧
      logical ahead = (logical text).drop moves := by
  induction moves with
  | zero =>
    have unfinished : (start source name line column).spot ≠ .finish := nofun
    obtain ⟨next, moved, stands⟩ := move_of_serves rfl unfinished serves
    rw [position_count_of_lineEnded rfl] at stands
    refine ⟨next, text, ?_, stands, rfl⟩
    rw [← List.head?_eq_getElem?, head?_logical]
    exact moved
  | succ moves ih =>
    obtain ⟨middle, ahead, moved, stands, left⟩ := ih
    rw [afterMoves, moved, Outcome.state_ok]
    cases ahead with
    | nil =>
      have passed : (logical text).length ≤ moves := List.drop_eq_nil_iff.mp left.symm
      rw [List.take_of_length_le passed] at stands
      rw [List.take_of_length_le (Nat.le_succ_of_le passed),
        List.getElem?_eq_none (Nat.le_succ_of_le passed)]
      refine ⟨middle, [], stands.move_at_end, stands, ?_⟩
      exact (List.drop_of_length_le (Nat.le_succ_of_le passed)).symm
    | cons c ahead =>
      obtain ⟨next, further, there⟩ := stands.move
      rw [logical_eq_cons] at left
      have here : (logical text)[moves]? = some c := by
        rw [← List.head?_drop, ← left, List.head?_cons]
      have behind : logical (afterFirst (c :: ahead)) = (logical text).drop (moves + 1) := by
        rw [← List.tail_drop, ← left, List.tail_cons]
      refine ⟨next, afterFirst (c :: ahead), ?_, ?_, behind⟩
      · rw [further, ← head?_logical, behind, List.head?_drop]
      · rw [List.take_add_one, here, Option.toList_some, List.foldl_concat]
        exact there

/-- Each move comes to the next logical character of the text, and a move behind the last comes to
the end and no further. The line counts the line ends in front of the character, the column what
stands between the last of them and the character. -/
theorem moves_read_the_logical_characters (text name : String) (line column moves : Nat) :
    let chars := logical text.toList
    let cursor := (start (Text.ofString text) name line column).afterMoves moves
    ∃ next, cursor.move = .ok chars[moves]? next ∧
      next.char? = chars[moves]? ∧
      (next.lineEnded = true ↔ ∃ c, chars[moves]? = some c ∧
        c ∈ ['\n', '\x0b', '\x0c', '\r', '\u0085', '\u2028', '\u2029']) ∧
      next.position = ⟨name, line + 1 + (chars.take moves).countP isLineEnd,
        1 + ((chars.take moves).rtakeWhile fun c => !isLineEnd c).length⟩ ∧
      (chars.length < moves → next = cursor) := by
  intro chars cursor
  obtain ⟨next, ahead, moved, stands, left⟩ :=
    exists_standsAt_afterMoves (Text.serves_ofString text) name line column moves
  have head : ahead.head? = chars[moves]? := by
    rw [← head?_logical, left, List.head?_drop]
  refine ⟨next, moved, ?_, ?_, ?_, fun passed => ?_⟩
  · rw [stands.char?_eq, head]
  · rw [stands.lineEnded_eq, head, Option.any_eq_true]
    simp only [isLineEnd_iff_mem]
  · rw [stands.position_eq, Position.foldl_past_eq]
  · -- The move before this one came to the end already.
    obtain ⟨before, rfl⟩ : ∃ before, moves = before + 1 := ⟨moves - 1, by omega⟩
    obtain ⟨last, ahead', moved', stands', left'⟩ :=
      exists_standsAt_afterMoves (Text.serves_ofString text) name line column before
    have ended : ahead' = [] := by
      rw [List.drop_of_length_le (Nat.le_of_lt_succ passed)] at left'
      rw [← List.head?_eq_none_iff, ← head?_logical, left', List.head?_nil]
    subst ended
    have here : cursor = last := by
      change (afterMoves _ before).move.state = last
      rw [moved', Outcome.state_ok]
    have stays : cursor.move = .ok none cursor := by
      rw [here]
      exact stands'.move_at_end
    exact (Outcome.ok.inj (moved.symm.trans stays)).2

end Cursor

end GrammarCheck
