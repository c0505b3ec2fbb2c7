import GrammarCheck.Check
import GrammarCheck.Proofs.Chars.LogicalLine
import GrammarCheck.Proofs.Chars.Steady
import GrammarCheck.Proofs.Lexing.FirstLexeme

/-! # Cursors over steady streams

A cursor stands at a position in front of a text when its stream serves what follows the first
logical character of that text. From there every operation on the cursor succeeds, and what it
does is read off the text.
-/

namespace GrammarCheck

open Chars SteadyStream

variable {σ : Type}

/-- The spot of a cursor in front of a text, from the first character of the text. -/
def Spot.ofHead : Option Char → Spot
  | none => .finish
  | some c => .char c

namespace Cursor

@[simp] theorem released_count (cursor : Cursor σ) :
    cursor.count.released = cursor.released := by
  unfold count
  split <;> rfl

@[simp] theorem lineEnded_count (cursor : Cursor σ) : cursor.count.lineEnded = false := by
  unfold count
  split
  · rfl
  · next solid => simpa using solid

theorem position_count_of_lineEnded {cursor : Cursor σ} (ended : cursor.lineEnded = true) :
    cursor.count.position = ⟨cursor.name, cursor.line + 1, 1⟩ := by
  simp [count, position, ended]

/-- A character counts as the one before it says. -/
theorem position_count {cursor : Cursor σ} {c : Char} (ended : cursor.lineEnded = isLineEnd c) :
    cursor.count.position = cursor.position.past c := by
  unfold count Position.past
  rw [ended]
  split <;> rfl

variable [CharStream σ]

theorem scanWhile_char {cursor : Cursor σ} {c : Char} (here : cursor.spot = .char c)
    (keep : Char → Bool → Bool) (text : String) :
    cursor.scanWhile keep text =
      if keep c cursor.lineEnded then
        cursor.move.andThen fun _ next => next.scanWhile keep (text.push c)
      else .ok text cursor := by
  rw [scanWhile]
  split
  · next d there =>
    obtain rfl : c = d := by simpa [here] using there
    split
    · split <;> next moved => rw [moved]; rfl
    · rfl
  · next there => simp [here] at there
  · next there => simp [here] at there

theorem scanWhile_of_ne {cursor : Cursor σ} (off : ∀ c, cursor.spot ≠ .char c)
    (keep : Char → Bool → Bool) (text : String) : cursor.scanWhile keep text = .ok text cursor := by
  rw [scanWhile]
  split
  · next d there => exact absurd there (off d)
  · rfl
  · rfl

theorem skipGap_char {cursor : Cursor σ} {c : Char} (here : cursor.spot = .char c) :
    cursor.skipGap =
      if cursor.lineEnded || isBlank c then cursor.move.andThen fun _ next => next.skipGap
      else if isCommentStart c then
        (cursor.scanWhile withinLine "").andThen fun _ next => next.skipGap
      else .ok () cursor := by
  rw [skipGap]
  split
  · next d there =>
    obtain rfl : c = d := by simpa [here] using there
    split
    · split <;> next moved => rw [moved]; rfl
    split
    · split <;> next moved => rw [moved]; rfl
    · rfl
  · next there => simp [here] at there
  · next there => simp [here] at there

theorem skipGap_of_ne {cursor : Cursor σ} (off : ∀ c, cursor.spot ≠ .char c) :
    cursor.skipGap = .ok () cursor := by
  rw [skipGap]
  split
  · next d there => exact absurd there (off d)
  · rfl
  · rfl

variable [SteadyStream σ]

/-- Behind a carriage return its line feed is taken. -/
private theorem pairLineFeed_of_serves {source : σ} {text : List Char} (serves : Serves source text)
    (c : Char) :
    ∃ rest, pairLineFeed c source = .ok () rest ∧ Serves rest (afterFirst (c :: text)) := by
  unfold pairLineFeed
  by_cases carriage : c = '\r'
  · subst carriage
    obtain ⟨rest, shown, serves⟩ := peek_head serves
    simp only [↓reduceIte, shown]
    by_cases feed : text.head? = some '\n'
    · obtain ⟨text, rfl⟩ := List.head?_eq_some_iff.mp feed
      obtain ⟨rest, taken, serves⟩ := next_cons serves
      exact ⟨rest, by simp [taken, Outcome.map], serves⟩
    · exact ⟨rest, by simp [feed], by rwa [afterFirst_cons fun _ => feed]⟩
  · exact ⟨source, by simp [carriage], by rwa [afterFirst_cons fun same => absurd same carriage]⟩

/-- The cursor stands at the position in front of the text. -/
structure StandsAt (cursor : Cursor σ) (position : Position) (text : List Char) : Prop where
  held : cursor.released = false
  position_eq : cursor.position = position
  spot_eq : cursor.spot = Spot.ofHead text.head?
  lineEnded_eq : cursor.lineEnded = text.head?.any isLineEnd
  serves : Serves cursor.source (afterFirst text)

/-- A cursor that has not come to the end moves on to what its stream serves. -/
theorem move_of_serves {cursor : Cursor σ} {text : List Char} (held : cursor.released = false)
    (unfinished : cursor.spot ≠ .finish) (serves : Serves cursor.source text) :
    ∃ next, cursor.move = .ok text.head? next ∧ next.StandsAt cursor.count.position text := by
  unfold move
  simp only [held, Bool.false_eq_true, ↓reduceIte, unfinished, source_count]
  cases text with
  | nil =>
    obtain ⟨rest, taken, serves⟩ := next_nil serves
    refine ⟨_, by rw [taken]; rfl, ?_⟩
    exact ⟨by simpa [note] using held, rfl, rfl, cursor.lineEnded_count, serves⟩
  | cons c text =>
    obtain ⟨rest, taken, serves⟩ := next_cons serves
    obtain ⟨behind, paired, serves⟩ := pairLineFeed_of_serves serves c
    refine ⟨_, by rw [taken]; dsimp only; rw [paired]; rfl, ?_⟩
    split
    · exact ⟨by simpa [note] using held, rfl, rfl, rfl, serves⟩
    · exact ⟨by simpa using held, rfl, rfl, rfl, serves⟩

namespace StandsAt

variable {cursor : Cursor σ} {position : Position}

theorem spot_char {c : Char} {text : List Char} (stands : cursor.StandsAt position (c :: text)) :
    cursor.spot = .char c :=
  stands.spot_eq

theorem spot_finish (stands : cursor.StandsAt position []) : cursor.spot = .finish :=
  stands.spot_eq

theorem spot_ne (stands : cursor.StandsAt position []) (c : Char) : cursor.spot ≠ .char c := by
  simp [stands.spot_finish]

theorem lineEnded_char {c : Char} {text : List Char}
    (stands : cursor.StandsAt position (c :: text)) : cursor.lineEnded = isLineEnd c :=
  stands.lineEnded_eq

/-- A cursor moves over one logical character. -/
theorem move {c : Char} {text : List Char} (stands : cursor.StandsAt position (c :: text)) :
    ∃ next, cursor.move = .ok (afterFirst (c :: text)).head? next ∧
      next.StandsAt (position.past c) (afterFirst (c :: text)) := by
  have unfinished : cursor.spot ≠ .finish := by simp [stands.spot_char]
  obtain ⟨next, moved, there⟩ := move_of_serves stands.held unfinished stands.serves
  rw [position_count stands.lineEnded_char, stands.position_eq] at there
  exact ⟨next, moved, there⟩

/-- Within a line a cursor moves over one character. -/
theorem move_of_solid {c : Char} {text : List Char} (solid : isLineEnd c = false)
    (stands : cursor.StandsAt position (c :: text)) :
    ∃ next, cursor.move = .ok text.head? next ∧ next.StandsAt (position.right 1) text := by
  have notReturn : c ≠ '\r' := by
    rintro rfl
    exact absurd solid (by decide)
  obtain ⟨next, moved, there⟩ := stands.move
  rw [afterFirst_cons fun same => absurd same notReturn] at moved there
  rw [Position.past_of_solid position solid] at there
  exact ⟨next, moved, there⟩

end StandsAt

end Cursor

end GrammarCheck
