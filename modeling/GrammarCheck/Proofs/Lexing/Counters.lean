import GrammarCheck.Proofs.Lexing.Walking
import Mathlib.Algebra.Group.Nat.Defs

/-! # How far the counters go

A cursor counts lines from its origin on, and the columns of each line anew. Each line end opens a
line, and each line has a column behind its last character, that of its end or of the end of the
text. So the counters of a cursor stay within a bound just if the lines of its text do.
-/

namespace GrammarCheck

open Chars SteadyStream

namespace Position

variable (limit : Nat)

/-- The lines that are come to are within a bound if the last one is. -/
theorem lines_le_iff (position : Position) (text : List Char) :
    (∀ passed, ((text.take passed).foldl past position).line ≤ limit) ↔
      position.line + text.countP isLineEnd ≤ limit := by
  constructor
  · intro within
    have last := within text.length
    rwa [List.take_length, line_foldl_past] at last
  · intro bound passed
    have fewer : (text.take passed).countP isLineEnd ≤ text.countP isLineEnd :=
      (List.take_sublist passed text).countP_le
    rw [line_foldl_past]
    omega

/-- The columns that are come to are within a bound if the last one of each line is. -/
theorem columns_le_iff (position : Position) (text : List Char) :
    ∃ first others, text.splitOnP isLineEnd = first :: others ∧
      ((∀ passed, ((text.take passed).foldl past position).column ≤ limit) ↔
        position.column + first.length ≤ limit ∧ ∀ line ∈ others, 1 + line.length ≤ limit) := by
  induction text generalizing position with
  | nil => exact ⟨[], [], rfl, by simp⟩
  | cons c text ih =>
    obtain ⟨first, others, split, within⟩ := ih (position.past c)
    have turns : (∀ passed, (((c :: text).take passed).foldl past position).column ≤ limit) ↔
        position.column ≤ limit ∧
          ∀ passed, ((text.take passed).foldl past (position.past c)).column ≤ limit := by
      constructor
      · exact fun all => ⟨all 0, fun passed => all (passed + 1)⟩
      · rintro ⟨here, behind⟩ (_ | passed)
        · exact here
        · exact behind passed
    rw [turns, within, List.splitOnP_cons_eq_if_modifyHead, split, past]
    cases ends : isLineEnd c with
    | true =>
      refine ⟨[], first :: others, rfl, ?_⟩
      rw [List.forall_mem_cons]
      rfl
    | false =>
      refine ⟨c :: first, others, rfl, ?_⟩
      rw [List.length_cons]
      simp only [Bool.false_eq_true, ↓reduceIte]
      constructor
      · rintro ⟨-, last, later⟩
        exact ⟨by omega, later⟩
      · rintro ⟨last, later⟩
        exact ⟨by omega, by omega, later⟩

end Position

namespace Cursor

variable {σ : Type} [CharStream σ] [SteadyStream σ] {source : σ} {text : List Char}

/-- Behind its first move a cursor stands on the characters of its text one after the other. -/
theorem position_afterMoves (serves : Serves source text) (name : String)
    (line column moves : Nat) : ((start source name line column).afterMoves (moves + 1)).position =
      ((logical text).take moves).foldl Position.past ⟨name, line + 1, 1⟩ := by
  obtain ⟨next, _, moved, stands, -⟩ :=
    exists_standsAt_afterMoves serves name line column moves
  rw [afterMoves, moved]
  exact stands.position_eq

/-- The counters stay within a bound just if the origin does, the last line and the column behind
the last character of each line. -/
theorem counters_le_iff (serves : Serves source text) (name : String) (line column limit : Nat) :
    (∀ moves, ((start source name line column).afterMoves moves).line ≤ limit ∧
        ((start source name line column).afterMoves moves).column ≤ limit) ↔
      column ≤ limit ∧ line + 1 + (logical text).countP isLineEnd ≤ limit ∧
        ∀ chars ∈ logicalLines text, 1 + chars.length ≤ limit := by
  have lines := Position.lines_le_iff limit ⟨name, line + 1, 1⟩ (logical text)
  obtain ⟨first, others, split, columns⟩ :=
    Position.columns_le_iff limit ⟨name, line + 1, 1⟩ (logical text)
  have there (moves : Nat) := position_afterMoves serves name line column moves
  rw [logicalLines, split, List.forall_mem_cons, ← lines, ← columns]
  simp only [← there]
  constructor
  · intro within
    exact ⟨(within 0).2, fun moves => (within _).1, fun moves => (within _).2⟩
  · rintro ⟨origin, lines, columns⟩ (_ | moves)
    · have second := lines 0
      rw [there] at second
      exact ⟨Nat.le_of_succ_le second, origin⟩
    · exact ⟨lines moves, columns moves⟩

/-- However often a cursor moves over a text, words of 32 bits go on to hold its counters if no line
has more than `2 ^ 32 - 2` characters and the line behind the last line end has a number of its own.
Else they do not. The column of the origin makes no difference. -/
theorem counters_fit_words_iff (serves : Serves source text) (name : String)
    (line column : UInt32) :
    (∀ moves, let cursor := (start source name line.toNat column.toNat).afterMoves moves
        cursor.line ≤ 2 ^ 32 - 1 ∧ cursor.column ≤ 2 ^ 32 - 1) ↔
      (∀ chars ∈ logicalLines text, chars.length ≤ 2 ^ 32 - 2) ∧
        line.toNat + 1 + (logical text).countP isLineEnd ≤ 2 ^ 32 - 1 := by
  have origin : column.toNat ≤ 2 ^ 32 - 1 := Nat.le_pred_of_lt column.toNat_lt
  have short (chars : List Char) : 1 + chars.length ≤ 2 ^ 32 - 1 ↔ chars.length ≤ 2 ^ 32 - 2 := by
    omega
  have within := counters_le_iff serves name line.toNat column.toNat (2 ^ 32 - 1)
  simp only [short] at within
  rw [and_comm, within, and_iff_right origin]

/-- Two line ends are one too many if only two numbers are left for lines. -/
theorem counters_of_three_lines :
    let source := Text.ofString "a\r\nbc\n"
    Serves source "a\r\nbc\n".toList ∧
      (∀ moves, let cursor := (start source "g" 4294967292 4294967295).afterMoves moves
        cursor.line ≤ 2 ^ 32 - 1 ∧ cursor.column ≤ 2 ^ 32 - 1) ∧
      ¬ ∀ moves, let cursor := (start source "g" 4294967293 4294967295).afterMoves moves
        cursor.line ≤ 2 ^ 32 - 1 ∧ cursor.column ≤ 2 ^ 32 - 1 := by
  intro source
  have serves : Serves source "a\r\nbc\n".toList := Text.serves_ofString _
  have fits := (counters_fit_words_iff serves "g" 4294967292 4294967295).mpr (by decide)
  refine ⟨serves, fits, fun within => ?_⟩
  have beyond := (counters_fit_words_iff serves "g" 4294967293 4294967295).mp within
  exact absurd beyond.2 (by decide)

end Cursor

end GrammarCheck
