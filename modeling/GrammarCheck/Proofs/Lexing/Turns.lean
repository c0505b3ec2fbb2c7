import GrammarCheck.Proofs.Lexing.Keeping
import GrammarCheck.Proofs.Lexing.Lexed

/-! # The turns of the reading loops

To pass a gap and to scan are loops. A turn of one of them either ends it or passes part of the text
in front of the cursor, so no loop goes on for longer than the text.
-/

namespace GrammarCheck.Cursor

open Chars SteadyStream

variable {σ : Type} [CharStream σ] {cursor : Cursor σ}

/-- One turn of passing a gap. There is none where the gap ends. -/
def gapTurn? (cursor : Cursor σ) : Option (Outcome Failure (Cursor σ) Unit) :=
  match cursor.spot with
  | .char c =>
    if cursor.lineEnded || isBlank c then some (cursor.move.map fun _ => ())
    else if isCommentStart c then some ((cursor.scanWhile withinLine "").map fun _ => ())
    else none
  | .start | .finish => none

/-- One turn of a scan, with the character that it keeps. There is none where the scan ends. -/
def scanTurn? (keep : Char → Bool → Bool) (cursor : Cursor σ) :
    Option (Outcome Failure (Cursor σ) Char) :=
  match cursor.spot with
  | .char c => if keep c cursor.lineEnded then some (cursor.move.map fun _ => c) else none
  | .start | .finish => none

/-- A gap is passed turn by turn. -/
theorem skipGap_eq_turns (cursor : Cursor σ) :
    cursor.skipGap = cursor.gapTurn?.elim (.ok () cursor) fun turn =>
      turn.andThen fun () next => next.skipGap := by
  rw [gapTurn?]
  split
  · next c here =>
    rw [skipGap_char here]
    split
    · rw [Option.elim_some]
      cases cursor.move <;> rfl
    split
    · rw [Option.elim_some]
      cases cursor.scanWhile withinLine "" <;> rfl
    · rfl
  · next here => exact skipGap_of_ne (by simp [here])
  · next here => exact skipGap_of_ne (by simp [here])

/-- A scan goes on turn by turn. -/
theorem scanWhile_eq_turns (keep : Char → Bool → Bool) (text : String) (cursor : Cursor σ) :
    cursor.scanWhile keep text = (cursor.scanTurn? keep).elim (.ok text cursor) fun turn =>
      turn.andThen fun c next => next.scanWhile keep (text.push c) := by
  rw [scanTurn?]
  split
  · next c here =>
    rw [scanWhile_char here]
    split
    · rw [Option.elim_some]
      cases cursor.move <;> rfl
    · rfl
  · next here => exact scanWhile_of_ne (by simp [here]) keep text
  · next here => exact scanWhile_of_ne (by simp [here]) keep text

variable [SteadyStream σ] {α : Type}

/-- The turn succeeds, and the cursor passes part of the text that it stands in front of. -/
def Passes (cursor : Cursor σ) (turn : Outcome Failure (Cursor σ) α) : Prop :=
  ∃ position place taken rest value next, cursor.StandsAt position (taken ++ rest) ∧
    taken ≠ [] ∧ turn = .ok value next ∧ next.StandsAt place rest

namespace StandsAt

variable {position : Position} {ahead : List Char}

/-- The character under the cursor is the first in front of it. -/
theorem exists_cons {c : Char} (stands : cursor.StandsAt position ahead)
    (here : cursor.spot = .char c) : ∃ rest, ahead = c :: rest := by
  rw [stands.spot_eq] at here
  cases ahead with
  | nil => contradiction
  | cons d rest => exact ⟨rest, congrArg (· :: rest) (Spot.char.inj here)⟩

/-- To move off a character passes it. -/
theorem passes_move {c : Char} (stands : cursor.StandsAt position ahead)
    (here : cursor.spot = .char c) (f : Option Char → α) : cursor.Passes (cursor.move.map f) := by
  obtain ⟨rest, rfl⟩ := stands.exists_cons here
  obtain ⟨next, moved, there⟩ := stands.move
  obtain ⟨taken, nonempty, split⟩ := exists_append_afterFirst c rest
  rw [split] at stands
  exact ⟨_, _, taken, _, _, next, stands, nonempty, congrArg (Outcome.map f) moved, there⟩

/-- Each turn of a scan passes a character. -/
theorem passes_scanTurn {keep : Char → Bool → Bool} {turn : Outcome Failure (Cursor σ) Char}
    (stands : cursor.StandsAt position ahead) (turned : turn ∈ cursor.scanTurn? keep) :
    cursor.Passes turn := by
  rw [scanTurn?] at turned
  split at turned
  · next c here =>
    split at turned
    · cases turned
      exact stands.passes_move here _
    · contradiction
  · contradiction
  · contradiction

/-- Each turn of passing a gap passes a blank, a line end, or a comment with at least its sign. -/
theorem passes_gapTurn {turn : Outcome Failure (Cursor σ) Unit}
    (stands : cursor.StandsAt position ahead) (turned : turn ∈ cursor.gapTurn?) :
    cursor.Passes turn := by
  rw [gapTurn?] at turned
  split at turned
  · next c here =>
    split at turned
    · cases turned
      exact stands.passes_move here _
    split at turned
    · next comment =>
      cases turned
      obtain ⟨rest, rfl⟩ := stands.exists_cons here
      obtain rfl : c = '#' := by simpa [isCommentStart] using comment
      obtain ⟨body, tail, text, next, rfl, -, -, scanned, there⟩ := stands.passComment
      refine ⟨_, _, '#' :: body, tail, (), next, stands, List.cons_ne_nil _ _, ?_, there⟩
      rw [scanned, Outcome.map]
    · contradiction
  · contradiction
  · contradiction

end StandsAt

/-- The loops that start at the cursor go turn by turn, and each turn passes part of the text. -/
structure LoopsAdvance (cursor : Cursor σ) : Prop where
  gap_eq : cursor.skipGap = cursor.gapTurn?.elim (.ok () cursor) fun turn =>
    turn.andThen fun () next => next.skipGap
  gap_passes : ∀ turn ∈ cursor.gapTurn?, cursor.Passes turn
  scan_eq (keep : Char → Bool → Bool) (text : String) :
    cursor.scanWhile keep text = (cursor.scanTurn? keep).elim (.ok text cursor) fun turn =>
      turn.andThen fun c next => next.scanWhile keep (text.push c)
  scan_passes (keep : Char → Bool → Bool) : ∀ turn ∈ cursor.scanTurn? keep, cursor.Passes turn

/-- The other cursor is come to from this one by moving on, with events noted in between. -/
inductive LeadsTo (start : Cursor σ) : Cursor σ → Prop
  | here : LeadsTo start start
  | moved {c? : Option Char} {middle next : Cursor σ} (leads : LeadsTo start middle)
    (moved : middle.move = .ok c? next) : LeadsTo start next
  | noted {middle : Cursor σ} (leads : LeadsTo start middle) (event : Event) :
    LeadsTo start (middle.note event)

/-- The cursor is in a text that its stream serves, or still before it. -/
inductive Served (cursor : Cursor σ) : Prop
  | fresh {text : List Char} (held : cursor.released = false) (spot_eq : cursor.spot = .start)
    (serves : Serves cursor.source text)
  | standing {position : Position} {ahead : List Char} (stands : cursor.StandsAt position ahead)

/-- The cursor is in such a text unless its stream was let go. -/
def ServedIfHeld (cursor : Cursor σ) : Prop :=
  cursor.released = true ∨ cursor.Served

/-- Behind the end of the text a cursor stays where it is. -/
theorem StandsAt.move_at_end {position : Position} (stands : cursor.StandsAt position []) :
    cursor.move = .ok none cursor := by
  rw [Cursor.move, if_neg (by simp [stands.held]), if_pos stands.spot_finish]

namespace Served

/-- A cursor in a text moves on in the text. -/
theorem move (served : cursor.Served) : ∃ c? next, cursor.move = .ok c? next ∧ next.Served := by
  cases served with
  | fresh held spot_eq serves =>
    obtain ⟨next, moved, stands⟩ := move_of_serves held (by simp [spot_eq]) serves
    exact ⟨_, next, moved, .standing stands⟩
  | @standing position ahead stands =>
    cases ahead with
    | nil => exact ⟨none, cursor, stands.move_at_end, .standing stands⟩
    | cons c ahead =>
      obtain ⟨next, moved, there⟩ := stands.move
      exact ⟨_, next, moved, .standing there⟩

theorem note (served : cursor.Served) (event : Event) : (cursor.note event).Served := by
  cases served with
  | fresh held spot_eq serves => exact .fresh held spot_eq serves
  | standing stands => exact .standing (stands.note event)

/-- Until its stream is let go, a cursor stays in the text. -/
theorem keeps : Keeps (ServedIfHeld : Cursor σ → Prop) where
  move := by
    rintro cursor (released | served)
    · rw [Cursor.move, if_pos released]
      exact .inl released
    · obtain ⟨c?, next, moved, served⟩ := served.move
      rw [moved]
      exact .inr served
  note event := by
    rintro (released | served)
    · exact .inl released
    · exact .inr (served.note event)

theorem of_leadsTo {start : Cursor σ} (served : start.Served) (leads : start.LeadsTo cursor) :
    cursor.Served := by
  induction leads with
  | here => exact served
  | moved _ moved ih =>
    obtain ⟨c?, next, moved', after⟩ := ih.move
    obtain ⟨-, rfl⟩ := Outcome.ok.inj (moved.symm.trans moved')
    exact after
  | noted _ event ih => exact ih.note event

theorem loopsAdvance (served : cursor.Served) : cursor.LoopsAdvance where
  gap_eq := cursor.skipGap_eq_turns
  scan_eq keep text := scanWhile_eq_turns keep text cursor
  gap_passes turn turned := by
    cases served with
    | fresh _ spot_eq _ => simp [gapTurn?, spot_eq] at turned
    | standing stands => exact stands.passes_gapTurn turned
  scan_passes keep turn turned := by
    cases served with
    | fresh _ spot_eq _ => simp [scanTurn?, spot_eq] at turned
    | standing stands => exact stands.passes_scanTurn turned

end Served

end GrammarCheck.Cursor
