import GrammarCheck.Chars.Utf8Lines
import GrammarCheck.Proofs.Lexing.Keeping
import GrammarCheck.Proofs.Lexing.Walking

/-! # Moves that are tried again

A move counts its character before it reads it, so a move that fails has counted a character as
well. To try it again counts another one: the character that is read at last stands as many columns
too far as moves have failed. And a move that has read a carriage return but cannot look at what
follows stays on the carriage return, so that a line feed behind it ends a line of its own.
-/

namespace GrammarCheck.Cursor

open Chars

variable {σ : Type}

private theorem position_count_ne (cursor : Cursor σ) :
    cursor.count.position ≠ cursor.position := by
  intro same
  rw [count] at same
  split at same
  · exact Nat.succ_ne_self _ (congrArg Position.line same)
  · exact Nat.succ_ne_self _ (congrArg Position.column same)

private theorem count_of_solid {cursor : Cursor σ} (solid : cursor.lineEnded = false) :
    cursor.count = { cursor with column := cursor.column + 1 } := by
  rw [count, if_neg (by simp [solid])]

private theorem count_with_source (cursor : Cursor σ) (source : σ) :
    { cursor with source }.count = { cursor.count with source } := by
  unfold count
  split <;> rfl

/-- One cursor is a number of columns behind the other. Their records of events may differ. -/
structure Behind (columns : Nat) (cursor ahead : Cursor σ) : Prop where
  source_eq : ahead.source = cursor.source
  released_eq : ahead.released = cursor.released
  spot_eq : ahead.spot = cursor.spot
  lineEnded_eq : ahead.lineEnded = cursor.lineEnded
  position_eq : ahead.position = { cursor.position with column := cursor.column + columns }

variable [CharStream σ] {cursor next : Cursor σ} {c? : Option Char} {failure : IoFailure}

private theorem eq_return_of_pairLineFeed {c : Char} {source rest : σ}
    (failed : pairLineFeed c source = .error failure rest) : c = '\r' := by
  by_contra other
  rw [pairLineFeed, if_neg other] at failed
  contradiction

/-- A move that could not read has counted a character, and may have come to a carriage return. -/
theorem move_eq_error_io (failed : cursor.move = .error (.io failure) next) :
    cursor.released = false ∧ cursor.spot ≠ .finish ∧
      (next = { cursor.count with source := next.source } ∨
        next = { cursor.count with
          source := next.source, spot := .char '\r', lineEnded := true }) := by
  rw [move_eq] at failed
  split at failed
  · cases failed
  split at failed
  · contradiction
  next held unfinished =>
  refine ⟨by simpa using held, unfinished, ?_⟩
  cases read : CharStream.next cursor.source with
  | error failure source =>
    rw [read] at failed
    obtain ⟨-, rfl⟩ := Outcome.error.inj failed
    exact .inl rfl
  | ok c? source =>
    rw [read, Outcome.lift, Outcome.andThen_ok] at failed
    cases c? with
    | none => contradiction
    | some c =>
      rw [enter] at failed
      cases paired : pairLineFeed c source with
      | ok done rest =>
        rw [paired] at failed
        contradiction
      | error failure rest =>
        obtain rfl := eq_return_of_pairLineFeed paired
        rw [paired] at failed
        obtain ⟨-, rfl⟩ := Outcome.error.inj failed
        exact .inr rfl

/-- A failed move has counted a character. The cursor stays on the character that it was on, or has
come to a carriage return. -/
theorem state_of_failed_move (failed : cursor.move.result = .error (.io failure)) :
    cursor.move.state.position = cursor.count.position ∧
      (cursor.move.state.spot = cursor.spot ∧ cursor.move.state.lineEnded = false ∨
        cursor.move.state.spot = .char '\r' ∧ cursor.move.state.lineEnded = true) := by
  obtain ⟨-, -, same | ended⟩ := move_eq_error_io (Outcome.eq_error_of_result_eq failed)
  · rw [same]
    exact ⟨rfl, .inl ⟨spot_count cursor, lineEnded_count cursor⟩⟩
  · rw [ended]
    exact ⟨rfl, .inr ⟨rfl, rfl⟩⟩

/-- A move that reads has counted its character. -/
theorem position_of_move (unfinished : cursor.spot ≠ .finish)
    (moved : cursor.move = .ok c? next) :
    next.position = cursor.count.position ∧ next.lineEnded = c?.any isLineEnd := by
  rw [move_eq] at moved
  split at moved
  · contradiction
  obtain ⟨taken, entering, read, entered⟩ := Outcome.andThen_eq_ok_iff.mp moved
  obtain ⟨source, -, rfl⟩ := Outcome.lift_eq_ok_iff.mp read
  cases taken with
  | none =>
    obtain ⟨rfl, rfl⟩ := Outcome.ok.inj entered
    exact ⟨rfl, lineEnded_count cursor⟩
  | some c =>
    obtain ⟨done, there, paired, noted⟩ := Outcome.andThen_eq_ok_iff.mp entered
    obtain ⟨rest, -, rfl⟩ := Outcome.lift_eq_ok_iff.mp paired
    obtain ⟨rfl, rfl⟩ := Outcome.ok.inj noted
    split <;> exact ⟨rfl, rfl⟩

namespace Behind

variable {columns : Nat} {ahead : Cursor σ}

omit [CharStream σ] in
private theorem count (behind : Behind columns cursor ahead) (solid : ahead.lineEnded = false) :
    Behind (columns + 1) cursor ahead.count := by
  rw [count_of_solid solid]
  obtain ⟨source, released, spot, ended, position⟩ := behind
  refine ⟨source, released, spot, ended, ?_⟩
  exact congrArg (fun place : Position => { place with column := place.column + 1 }) position

private theorem enter (behind : Behind columns cursor ahead) (c? : Option Char) :
    Outcome.Alike (Behind columns) (cursor.enter c?) (ahead.enter c?) := by
  obtain ⟨source, released, spot, ended, position⟩ := behind
  cases c? with
  | none => exact .ok none ⟨source, released, rfl, ended, position⟩
  | some c =>
    rw [Cursor.enter, Cursor.enter, source]
    cases pairLineFeed c cursor.source with
    | error failure rest => exact .error _ ⟨rfl, released, rfl, rfl, position⟩
    | ok done rest =>
      refine .ok _ ?_
      dsimp only
      split <;> exact ⟨rfl, released, rfl, rfl, position⟩

/-- Cursors that stand apart when they have counted a character move alike. -/
theorem move (behind : Behind columns cursor.count ahead.count)
    (held : cursor.released = false) (unfinished : cursor.spot ≠ .finish) :
    Outcome.Alike (Behind columns) cursor.move ahead.move := by
  obtain ⟨source, released, spot, ended, position⟩ := behind
  have source' : ahead.source = cursor.source := by simpa using source
  have held' : ahead.released = false := by simpa [held] using released
  have unfinished' : ahead.spot ≠ .finish := by
    rwa [← spot_count, spot, spot_count]
  rw [move_eq, move_eq, held, held', source']
  simp only [Bool.false_eq_true, unfinished, unfinished', ↓reduceIte]
  refine Outcome.Alike.andThen ?_ id fun c? _ _ behind => behind.enter c?
  cases CharStream.next cursor.source with
  | error failure rest => exact .error _ ⟨rfl, released, spot, ended, position⟩
  | ok c? rest => exact .ok _ ⟨rfl, released, spot, ended, position⟩

end Behind

/-- Moves that failed and came to no carriage return have each counted a column. -/
theorem behind_afterMoves {times : Nat}
    (failing : ∀ i ≤ times, ∃ failure, (cursor.afterMoves i).move.result = .error (.io failure))
    (solid : ∀ i ≤ times, (cursor.afterMoves (i + 1)).lineEnded = false) :
    Behind times { cursor.count with source := (cursor.afterMoves (times + 1)).source }
      (cursor.afterMoves (times + 1)) := by
  have step (i : Nat) (within : i ≤ times) : cursor.afterMoves (i + 1) =
      { (cursor.afterMoves i).count with source := (cursor.afterMoves (i + 1)).source } := by
    obtain ⟨failure, failed⟩ := failing i within
    obtain ⟨-, -, same | ended⟩ := move_eq_error_io (Outcome.eq_error_of_result_eq failed)
    · exact same
    · -- A carriage return would have set the flag.
      have flagged := (solid i within).symm.trans (congrArg lineEnded ended)
      contradiction
  induction times with
  | zero =>
    rw [step 0 le_rfl]
    exact ⟨rfl, rfl, rfl, rfl, rfl⟩
  | succ times ih =>
    have before := ih (fun i within => failing i (Nat.le_succ_of_le within))
      (fun i within => solid i (Nat.le_succ_of_le within))
      fun i within => step i (Nat.le_succ_of_le within)
    have counted := before.count (solid times (Nat.le_succ times))
    rw [step (times + 1) le_rfl]
    exact ⟨rfl, counted.released_eq, counted.spot_eq, counted.lineEnded_eq, counted.position_eq⟩

/-- A failed move counts a character: the position is never the one before, though the character
under the cursor stays unless it is a carriage return that was read now. Where none was, the move
that succeeds at last comes to the character, the line end and the line that it would have come to
at once, but as many columns too far as moves have failed. Behind a carriage return it comes to a
new line, and a line feed there ends that line as well. -/
theorem failed_moves_count_characters (cursor : Cursor σ) (times : Nat)
    (failing : ∀ i ≤ times,
      ∃ failure, (cursor.afterMoves i).move.result = .error (.io failure)) :
    let after := cursor.afterMoves (times + 1)
    (∀ i ≤ times,
      let before := cursor.afterMoves i
      let behind := cursor.afterMoves (i + 1)
      behind.position = before.count.position ∧ behind.position ≠ before.position ∧
      (behind.spot = before.spot ∧ behind.lineEnded = false ∨
        behind.spot = .char '\r' ∧ behind.lineEnded = true)) ∧
    ((∀ i ≤ times, (cursor.afterMoves (i + 1)).lineEnded = false) →
      ∀ c? next, { cursor with source := after.source }.move = .ok c? next →
        ∃ next', after.move = .ok c? next' ∧ next'.spot = next.spot ∧
          next'.lineEnded = next.lineEnded ∧
          next'.position = { next.position with column := next.column + (times + 1) }) ∧
    (after.lineEnded = true → ∀ c? next, after.move = .ok c? next →
      next.position = ⟨after.name, after.line + 1, 1⟩ ∧
      (c? = some '\n' → next.lineEnded = true)) := by
  intro after
  have counted (i : Nat) (within : i ≤ times) :=
    state_of_failed_move (failing i within).choose_spec
  refine ⟨fun i within => ?_, fun solid c? next moved => ?_, fun flagged c? next moved => ?_⟩
  · intro before behind
    obtain ⟨position, spot⟩ := counted i within
    refine ⟨position, ?_, spot⟩
    change before.move.state.position ≠ _
    rw [position]
    exact position_count_ne before
  · obtain ⟨failure, failed⟩ := failing 0 (Nat.zero_le times)
    obtain ⟨held, unfinished, -⟩ := move_eq_error_io (Outcome.eq_error_of_result_eq failed)
    have behind := (behind_afterMoves failing solid).count (solid times le_rfl)
    rw [← count_with_source] at behind
    have alike := behind.move held unfinished
    rw [moved] at alike
    obtain ⟨next', moved', -, -, spot, ended, position⟩ := alike.exists_ok
    exact ⟨next', moved', spot, ended, position⟩
  · -- The flag is set, so the last of the failed moves came to a carriage return.
    have unfinished : after.spot ≠ .finish := by
      obtain ⟨-, ⟨-, solid⟩ | ⟨spot, -⟩⟩ := counted times le_rfl
      · have flags := solid.symm.trans flagged
        contradiction
      · change (cursor.afterMoves times).move.state.spot ≠ _
        rw [spot]
        nofun
    obtain ⟨position, ended⟩ := position_of_move unfinished moved
    rw [position_count_of_lineEnded flagged] at position
    refine ⟨position, ?_⟩
    rintro rfl
    exact ended

/-- A carriage return is split from its line feed. It was read when the look behind it failed, and
the line feed ends the second line. -/
theorem failed_look_splits_a_pair :
    let failure : IoFailure := ⟨.other, "injected failure"⟩
    let source := Utf8Lines.ofFeed 8192 (Feed.failingAt "a\r\nb".toUTF8.data.toList 2 2 failure)
    let cursor := (start source "g" 0 0).afterMoves 2
    (∀ i ≤ 0, ∃ failure, (cursor.afterMoves i).move.result = .error (.io failure)) ∧
      (cursor.char?, cursor.position) = (some 'a', ⟨"g", 1, 2⟩) ∧
      ((cursor.afterMoves 1).char?, (cursor.afterMoves 1).position) = (some '\r', ⟨"g", 1, 3⟩) ∧
      (cursor.afterMoves 2).position = ⟨"g", 2, 1⟩ ∧ (cursor.afterMoves 2).lineEnded = true ∧
      ((cursor.afterMoves 3).char?, (cursor.afterMoves 3).position) = (some 'b', ⟨"g", 3, 1⟩) := by
  intro failure source cursor
  have failing : ∀ i ≤ 0, ∃ failure, (cursor.afterMoves i).move.result = .error (.io failure) := by
    intro i start
    obtain rfl := Nat.le_zero.mp start
    exact ⟨failure, by decide +kernel⟩
  have flagged : (cursor.afterMoves 1).lineEnded = true := by decide +kernel
  have name_eq : (cursor.afterMoves 1).name = "g" := by decide +kernel
  have line_eq : (cursor.afterMoves 1).line = 1 := by decide +kernel
  have read : (cursor.afterMoves 1).move = .ok (some '\n') (cursor.afterMoves 2) :=
    Outcome.eq_ok_of_result_eq (by decide +kernel)
  obtain ⟨-, -, split⟩ := failed_moves_count_characters cursor 0 failing
  obtain ⟨position, ended⟩ := split flagged _ _ read
  rw [name_eq, line_eq] at position
  refine ⟨failing, by decide +kernel, by decide +kernel, position, ended rfl, by decide +kernel⟩

/-- The first read of a text fails. The move has counted a character and spent the line end, and
the one that succeeds comes to the first character in the second column. -/
theorem first_character_behind_a_failure_is_shifted :
    let failure : IoFailure := ⟨.other, "injected failure"⟩
    let source := Utf8Lines.ofFeed 8192 (Feed.failingAt "ab".toUTF8.data.toList 0 1 failure)
    let cursor := start source "g" 0 0
    cursor.move.result = .error (.io failure) ∧
      (cursor.position, cursor.lineEnded) = (⟨"g", 0, 0⟩, true) ∧
      ((cursor.afterMoves 1).position, (cursor.afterMoves 1).lineEnded) = (⟨"g", 1, 1⟩, false) ∧
      ((cursor.afterMoves 2).char?, (cursor.afterMoves 2).position) = (some 'a', ⟨"g", 1, 2⟩) := by
  intro failure source cursor
  decide +kernel

end GrammarCheck.Cursor
