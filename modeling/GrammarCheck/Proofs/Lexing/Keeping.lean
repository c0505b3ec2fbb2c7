import GrammarCheck.Proofs.Lexing.Standing
import GrammarCheck.Proofs.Mirroring

/-! # What cursors and lexers keep

Whatever is read, a cursor does nothing but move, and a lexer nothing but have its cursor read and
note events. So what holds wherever a cursor moves to holds throughout the reading of a text.
-/

namespace GrammarCheck

variable {σ : Type}

section Equations

variable [CharStream σ] (cursor : Cursor σ)

namespace Cursor

theorem pairLineFeed_eq (c : Char) (source : σ) : pairLineFeed c source =
    if c = '\r' then (CharStream.peek source).andThen fun next? rest =>
      if next? = some '\n' then (CharStream.next rest).map fun _ => () else .ok () rest
    else .ok () source := by
  rw [pairLineFeed]
  split
  · cases CharStream.peek source <;> rfl
  · rfl

def enter (cursor : Cursor σ) : Option Char → Outcome Failure (Cursor σ) (Option Char)
  | none => .ok none ({ cursor with spot := .finish }.note (.endOfInput cursor.line cursor.column))
  | some c =>
    ((pairLineFeed c cursor.source).lift .io fun source =>
      { cursor with source, spot := .char c, lineEnded := Chars.isLineEnd c }).andThen
        fun () cursor =>
          .ok (some c) (if cursor.lineEnded then cursor.note (.lineBreak cursor.line) else cursor)

theorem move_eq : cursor.move =
    if cursor.released then .error .closed cursor
    else if cursor.spot = .finish then .ok none cursor
    else ((CharStream.next cursor.source).lift .io fun source =>
      { cursor.count with source }).andThen fun c? next => next.enter c? := by
  rw [move]
  split
  · rfl
  split
  · rfl
  dsimp only
  rw [source_count]
  cases CharStream.next cursor.source with
  | error failure source => rfl
  | ok c? source =>
    cases c? with
    | none => rfl
    | some c =>
      dsimp only
      rw [Outcome.lift, Outcome.andThen_ok, enter]
      cases pairLineFeed c source <;> rfl

/-- The literal that starts at the cursor, where its text stops. -/
def endLiteral (quote : Char) (cursor : Cursor σ) (text : String) (stop : Cursor σ) :
    Outcome Failure (Cursor σ) Token :=
  if stop.char? = some quote then
    stop.move.map fun _ => cursor.tokenHere .literal (text.push quote)
  else .ok (cursor.tokenHere .unterminatedLiteral text) stop

theorem readLiteral_eq (quote : Char) : cursor.readLiteral quote =
    cursor.move.andThen fun _ inside =>
      (inside.scanWhile (withinLiteral quote) (String.singleton quote)).andThen
        (cursor.endLiteral quote) := by
  rw [readLiteral]
  cases cursor.move with
  | error failure next => rfl
  | ok c? inside =>
    dsimp only
    rw [Outcome.andThen_ok]
    cases inside.scanWhile (withinLiteral quote) (String.singleton quote) <;> rfl

theorem nextToken_eq : cursor.nextToken = cursor.skipGap.andThen fun () next => next.readToken := by
  rw [nextToken]
  cases cursor.skipGap <;> rfl

end Cursor

namespace Lexer

variable (lexer : Lexer σ)

theorem loadToken_eq : lexer.loadToken =
    (lexer.cursor.nextToken.lift id fun cursor => { lexer with cursor }).andThen
      fun token next => .ok () { next.note (.token token) with lookahead := some token } := by
  rw [loadToken]
  cases lexer.cursor.nextToken <;> rfl

theorem drop_eq : lexer.drop =
    if lexer.cursor.released then .error .closed lexer
    else match lexer.lookahead with
      | none => (lexer.cursor.move.lift id fun cursor => { lexer with cursor }).andThen
          fun _ next => next.loadToken
      | some token => if token.kind = .endOfInput then .ok () lexer else lexer.loadToken := by
  rw [drop]
  split
  · rfl
  · cases lexer.lookahead with
    | some token => rfl
    | none => cases lexer.cursor.move <;> rfl

theorem peek_eq : lexer.peek = match lexer.lookahead with
    | some token => .ok token lexer
    | none => lexer.drop.andThen fun () next => match next.lookahead with
      | some token => .ok token next
      | none => .error .closed next := by
  rw [peek]
  cases lexer.lookahead with
  | some token => rfl
  | none => cases lexer.drop <;> rfl

end Lexer

end Equations

section Keeping

variable [CharStream σ] {I : Cursor σ → Prop} {cursor : Cursor σ} {lexer : Lexer σ}

/-- The cursor keeps the property wherever it moves. -/
structure Cursor.KeepsMoving (I : Cursor σ → Prop) : Prop where
  move {cursor : Cursor σ} (holds : I cursor) : I cursor.move.state

/-- The cursor keeps the property wherever a lexer has it move, and whatever tokens are noted. -/
structure Cursor.KeepsReading (I : Cursor σ → Prop) : Prop extends Cursor.KeepsMoving I where
  token {cursor : Cursor σ} (found : Token) (holds : I cursor) : I (cursor.note (.token found))

/-- The cursor keeps the property wherever it moves, and whatever is noted. -/
structure Cursor.Keeps (I : Cursor σ → Prop) : Prop where
  move {cursor : Cursor σ} (holds : I cursor) : I cursor.move.state
  note {cursor : Cursor σ} (event : Event) (holds : I cursor) : I (cursor.note event)

theorem Cursor.Keeps.reading (keeps : Cursor.Keeps I) : Cursor.KeepsReading I where
  move holds := keeps.move holds
  token found holds := keeps.note (.token found) holds

def Lexer.On (I : Cursor σ → Prop) (lexer : Lexer σ) : Prop :=
  I lexer.cursor

namespace Cursor.KeepsMoving

variable (keeps : Cursor.KeepsMoving I)

include keeps

theorem scanWhile (keep : Char → Bool → Bool) (text : String) (holds : I cursor) :
    I (cursor.scanWhile keep text).state := by
  fun_induction Cursor.scanWhile keep text cursor with
  | case1 text cursor c here kept failure next moved =>
    have after := keeps.move holds
    rwa [moved] at after
  | case2 text cursor c here kept c? next moved ih =>
    have after := keeps.move holds
    rw [moved] at after
    exact ih after
  | case3 | case4 | case5 => exact holds

theorem skipGap (holds : I cursor) : I cursor.skipGap.state := by
  fun_induction Cursor.skipGap cursor with
  | case1 cursor c here skipped failure next moved =>
    have after := keeps.move holds
    rwa [moved] at after
  | case2 cursor c here skipped c? next moved ih =>
    have after := keeps.move holds
    rw [moved] at after
    exact ih after
  | case3 cursor c here solid comment failure next scanned =>
    have after := keeps.scanWhile withinLine "" holds
    rwa [scanned] at after
  | case4 cursor c here solid comment text next scanned ih =>
    have after := keeps.scanWhile withinLine "" holds
    rw [scanned] at after
    exact ih after
  | case5 | case6 | case7 => exact holds

theorem endLiteral (quote : Char) (start : Cursor σ) (text : String) (holds : I cursor) :
    I (start.endLiteral quote text cursor).state := by
  rw [Cursor.endLiteral]
  split
  · rw [Outcome.state_map]
    exact keeps.move holds
  · exact holds

theorem readLiteral (quote : Char) (holds : I cursor) : I (cursor.readLiteral quote).state := by
  rw [readLiteral_eq]
  refine Outcome.holds_andThen (keeps.move holds) fun _ inside holds => ?_
  exact Outcome.holds_andThen (keeps.scanWhile _ _ holds) fun text stop =>
    keeps.endLiteral quote cursor text

theorem readToken (holds : I cursor) : I cursor.readToken.state := by
  rw [Cursor.readToken]
  split
  · split
    · rw [readWord, Outcome.state_map]
      exact keeps.scanWhile _ _ holds
    split
    · exact keeps.readLiteral _ holds
    · rw [readSymbol, Outcome.state_map]
      exact keeps.move holds
  · exact holds
  · exact holds

theorem nextToken (holds : I cursor) : I cursor.nextToken.state := by
  rw [nextToken_eq]
  exact Outcome.holds_andThen (keeps.skipGap holds) fun () next => keeps.readToken

end Cursor.KeepsMoving

namespace Cursor.KeepsReading

variable (keeps : Cursor.KeepsReading I)

include keeps

theorem loadToken (holds : lexer.On I) : lexer.loadToken.state.On I := by
  rw [Lexer.loadToken_eq]
  refine Outcome.holds_andThen ?_ fun token next holds => ?_
  · rw [Outcome.state_lift]
    exact keeps.nextToken holds
  · exact keeps.token token holds

theorem drop (holds : lexer.On I) : lexer.drop.state.On I := by
  rw [Lexer.drop_eq]
  split
  · exact holds
  split
  · refine Outcome.holds_andThen ?_ fun c? next => keeps.loadToken
    rw [Outcome.state_lift]
    exact keeps.move holds
  · split
    · exact holds
    · exact keeps.loadToken holds

theorem peek (holds : lexer.On I) : lexer.peek.state.On I := by
  rw [Lexer.peek_eq]
  split
  · exact holds
  · refine Outcome.holds_andThen (keeps.drop holds) fun () next holds => ?_
    split <;> exact holds

end Cursor.KeepsReading

end Keeping

end GrammarCheck
