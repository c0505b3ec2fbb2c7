import GrammarCheck.Chars.Class
import GrammarCheck.Chars.Stream
import GrammarCheck.Event

/-! # Cursors

A cursor walks over the logical characters of a stream and knows the line and the column of the
one it stands on. A carriage return with a line feed behind it is one character. The character
after a line end opens the next line, at column one.
-/

namespace GrammarCheck

/-- Where a cursor stands: before the text, on a character, or behind the last one. -/
inductive Spot where
  | start
  | char (c : Char)
  | finish
  deriving DecidableEq, Repr

/-- A place in a stream that is being read. -/
structure Cursor (σ : Type) where
  /-- The stream. A released cursor no longer reads it. -/
  source : σ
  released : Bool := false
  /-- The name of the text in positions. -/
  name : String
  line : Nat := 0
  column : Nat := 0
  spot : Spot := .start
  /-- The next character opens a line. -/
  lineEnded : Bool := true
  /-- What has been noted so far, latest first. -/
  history : List Event := []

namespace Cursor

variable {σ : Type}

def char? (cursor : Cursor σ) : Option Char :=
  match cursor.spot with
  | .char c => some c
  | .start | .finish => none

def position (cursor : Cursor σ) : Position :=
  ⟨cursor.name, cursor.line, cursor.column⟩

def note (event : Event) (cursor : Cursor σ) : Cursor σ :=
  { cursor with history := event :: cursor.history }

/-- What has been noted so far, in order. -/
def events (cursor : Cursor σ) : List Event :=
  cursor.history.reverse

/-- Lets go of the stream. Doing so again changes nothing. -/
def release (cursor : Cursor σ) : Cursor σ :=
  if cursor.released then cursor
  else { cursor.note (.closed cursor.name) with released := true }

/-- Counts the character about to be read: it opens a line after a line end, and else it is one
column on. -/
def count (cursor : Cursor σ) : Cursor σ :=
  if cursor.lineEnded then
    { cursor with line := cursor.line + 1, column := 1, lineEnded := false }
  else { cursor with column := cursor.column + 1 }

@[simp] theorem source_note (event : Event) (cursor : Cursor σ) :
    (cursor.note event).source = cursor.source := rfl

@[simp] theorem spot_note (event : Event) (cursor : Cursor σ) :
    (cursor.note event).spot = cursor.spot := rfl

@[simp] theorem source_count (cursor : Cursor σ) : cursor.count.source = cursor.source := by
  unfold count
  split <;> rfl

@[simp] theorem spot_count (cursor : Cursor σ) : cursor.count.spot = cursor.spot := by
  unfold count
  split <;> rfl

variable [CharStream σ]

def charsLeft (cursor : Cursor σ) : Nat :=
  CharStream.charsLeft cursor.source +
    match cursor.spot with
    | .char _ => 1
    | .start | .finish => 0

@[simp] theorem charsLeft_note (event : Event) (cursor : Cursor σ) :
    (cursor.note event).charsLeft = cursor.charsLeft := rfl

/-- Takes a line feed that follows a carriage return. -/
def pairLineFeed (c : Char) (source : σ) : Outcome IoFailure σ Unit :=
  if c = '\r' then
    match CharStream.peek source with
    | .error failure rest => .error failure rest
    | .ok next? rest =>
      if next? = some '\n' then (CharStream.next rest).map fun _ => ()
      else .ok () rest
  else .ok () source

/-- Moves to the next logical character and returns it; `none` is the end of the text. A failed
read has counted the character all the same. -/
def move (cursor : Cursor σ) : Outcome Failure (Cursor σ) (Option Char) :=
  if cursor.released then .error .closed cursor
  else if cursor.spot = .finish then .ok none cursor
  else
    let cursor := cursor.count
    match CharStream.next cursor.source with
    | .error failure source => .error (.io failure) { cursor with source }
    | .ok none source =>
      .ok none ({ cursor with source, spot := .finish }.note
        (.endOfInput cursor.line cursor.column))
    | .ok (some c) source =>
      let cursor := { cursor with spot := .char c, lineEnded := Chars.isLineEnd c }
      match pairLineFeed c source with
      | .error failure source => .error (.io failure) { cursor with source }
      | .ok () source =>
        let cursor := { cursor with source }
        .ok (some c) (if cursor.lineEnded then cursor.note (.lineBreak cursor.line) else cursor)

theorem charsLeft_pairLineFeed_le (c : Char) (source : σ) :
    CharStream.charsLeft (pairLineFeed c source).state ≤ CharStream.charsLeft source := by
  have peeked := CharStream.peek_le source
  unfold pairLineFeed
  split
  · split
    · simp_all
    · next next? rest shown =>
      simp only [shown, Outcome.state_ok] at peeked
      split
      · exact Nat.le_trans (by simpa using CharStream.next_le rest) peeked
      · exact peeked
  · exact Nat.le_refl _

theorem charsLeft_move_le (cursor : Cursor σ) :
    cursor.move.state.charsLeft ≤ cursor.charsLeft := by
  unfold move
  split
  · exact Nat.le_refl _
  split
  · exact Nat.le_refl _
  have taken := CharStream.next_le cursor.source
  dsimp only
  rw [source_count]
  cases read : CharStream.next cursor.source with
  | error failure source =>
    simp only [read, Outcome.state_error] at taken ⊢
    simp only [charsLeft, spot_count]
    omega
  | ok c? source =>
    cases c? with
    | none =>
      simp only [read, Outcome.state_ok] at taken ⊢
      simp only [charsLeft, source_note, spot_note]
      omega
    | some c =>
      have smaller := CharStream.next_lt read
      have paired := charsLeft_pairLineFeed_le c source
      dsimp only
      split <;> next paired_eq =>
        simp only [paired_eq, Outcome.state_error, Outcome.state_ok] at paired ⊢
        first
          | (simp only [charsLeft]; omega)
          | (split <;> simp only [charsLeft, source_note, spot_note] <;> omega)

/-- From a character, every successful move comes closer to the end. -/
theorem charsLeft_move_lt {cursor next : Cursor σ} {c : Char} {c? : Option Char}
    (here : cursor.spot = .char c) (success : cursor.move = .ok c? next) :
    next.charsLeft < cursor.charsLeft := by
  unfold move at success
  split at success
  · cases success
  simp only [here, reduceCtorEq, ↓reduceIte, source_count] at success
  have taken := CharStream.next_le cursor.source
  cases read : CharStream.next cursor.source with
  | error failure source => simp [read] at success
  | ok d? source =>
    cases d? with
    | none =>
      simp only [read, Outcome.ok.injEq] at success
      simp only [read, Outcome.state_ok] at taken
      rcases success with ⟨_, rfl⟩
      simp only [charsLeft, source_note, spot_note, here]
      omega
    | some d =>
      have smaller := CharStream.next_lt read
      have paired := charsLeft_pairLineFeed_le d source
      simp only [read] at success
      cases pairing : pairLineFeed d source with
      | error failure rest => simp [pairing] at success
      | ok _ rest =>
        simp only [pairing, Outcome.ok.injEq] at success
        simp only [pairing, Outcome.state_ok] at paired
        rcases success with ⟨_, rfl⟩
        split <;> simp only [charsLeft, source_note, spot_note, here] <;> omega

end Cursor

end GrammarCheck
