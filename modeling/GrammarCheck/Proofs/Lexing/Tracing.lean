import GrammarCheck.Proofs.Lexing.Joining
import GrammarCheck.Proofs.Lexing.Turns

/-! # What is noted while a text is read

The events of a cursor and of the lexer over it are one sequence. What is selected from it is a
history of its own: the line ends that the cursor read and its end, and the tokens that the lexer
showed.
-/

namespace GrammarCheck

open Chars SteadyStream

namespace Event

/-- The line of a line end that was read. -/
def lineBreak? : Event → Option Nat
  | lineBreak line => some line
  | _ => none

/-- The place where the input was found to end. -/
def endOfInput? : Event → Option (Nat × Nat)
  | endOfInput line column => some (line, column)
  | _ => none

def token? : Event → Option Token
  | token found => some found
  | _ => none

def reported? : Event → Option Diagnostic
  | reported diagnostic => some diagnostic
  | _ => none

def display? (event : Event) : Option String :=
  event.reported?.map fun _ => event.message

/-- The event itself if it frames a check. -/
def framing? : Event → Option Event
  | checking source => some (checking source)
  | closed source => some (closed source)
  | checked source diagnostics => some (checked source diagnostics)
  | _ => none

/-- What a cursor notes when it comes to a place: the end, or the end of a line. -/
def ofArrival (place : Position) : Option Char → List Event
  | none => [.endOfInput place.line place.column]
  | some c => if isLineEnd c then [.lineBreak place.line] else []

end Event

/-- A diagnostic is displayed as it is rendered. -/
private theorem Event.display?_eq (event : Event) :
    event.display? = event.reported?.map Diagnostic.render := by
  cases event <;> rfl

/-- A text ends behind its last token. -/
theorem Lexed.finish_eq {position : Position} {text : List Char} {tokens : Tokens}
    (lexed : Lexed position text tokens) : tokens.finish = position.after text := by
  induction lexed with
  | finish _ => rfl
  | @token position finish gap lexeme behind kind front _ spells _ ih =>
    have apart : (lexeme ++ behind).head? ≠ some '\n' := by
      intro feed
      exact absurd (solid_of_spells spells _ feed) (by decide)
    rw [ih, Position.after_gap_lexeme _ apart (not_isLineEnd_of_spells spells)]

/-- What selects neither ends nor line ends selects nothing of an arrival. -/
theorem Event.filterMap_ofArrival {α : Type} {select : Event → Option α}
    (noEnd : ∀ line column, select (.endOfInput line column) = none)
    (noBreak : ∀ line, select (.lineBreak line) = none) (place : Position) (c? : Option Char) :
    (ofArrival place c?).filterMap select = [] := by
  cases c? with
  | none => simp [ofArrival, noEnd]
  | some c => cases ends : isLineEnd c <;> simp [ofArrival, ends, noBreak]

/-- No token is noted of an arrival. -/
theorem Event.token?_ofArrival (place : Position) (c? : Option Char) :
    (ofArrival place c?).filterMap token? = [] :=
  filterMap_ofArrival (fun _ _ => rfl) (fun _ => rfl) place c?

namespace Cursor

variable {σ α : Type} {cursor next : Cursor σ} {select : Event → Option α} {selected : List α}

/-- What is selected of the events noted so far, in order. -/
def noted (select : Event → Option α) (cursor : Cursor σ) : List α :=
  cursor.events.filterMap select

def Logs (P : List Event → Prop) (cursor : Cursor σ) : Prop :=
  P cursor.events

/-- This is what is selected of the events noted so far. -/
def Recalls (select : Event → Option α) (selected : List α) : Cursor σ → Prop :=
  Logs fun events => events.filterMap select = selected

theorem events_note (event : Event) (cursor : Cursor σ) :
    (cursor.note event).events = cursor.events ++ [event] :=
  List.reverse_cons

theorem logs_note {P : List Event → Prop} {event : Event} :
    (cursor.note event).Logs P ↔ P (cursor.events ++ [event]) := by
  rw [Logs, events_note]

theorem noted_note (select : Event → Option α) (event : Event) (cursor : Cursor σ) :
    (cursor.note event).noted select = cursor.noted select ++ (select event).toList := by
  rw [noted, events_note, List.filterMap_append, noted]
  cases chosen : select event <;> simp [chosen]

theorem noted_display (cursor : Cursor σ) :
    cursor.noted Event.display? = (cursor.noted Event.reported?).map Diagnostic.render := by
  rw [noted, noted, List.map_filterMap]
  exact congrArg (cursor.events.filterMap ·) (funext Event.display?_eq)

theorem Recalls.note {event : Event} (recalls : cursor.Recalls select selected)
    (unselected : select event = none) : (cursor.note event).Recalls select selected := by
  have added := noted_note select event cursor
  rw [unselected, Option.toList_none, List.append_nil] at added
  exact added.trans recalls

theorem noted_of_events {arrived : List Event}
    (events : next.events = cursor.events ++ arrived) :
    next.noted select = cursor.noted select ++ arrived.filterMap select := by
  rw [noted, events, List.filterMap_append]
  rfl

@[simp] theorem events_count (cursor : Cursor σ) : cursor.count.events = cursor.events := by
  unfold count
  split <;> rfl

variable [CharStream σ]

/-- A move notes where it comes to. -/
theorem events_of_move {c? : Option Char} (unfinished : cursor.spot ≠ .finish)
    (moved : cursor.move = .ok c? next) :
    next.events = cursor.events ++ Event.ofArrival cursor.count.position c? := by
  rw [move_eq, if_neg unfinished] at moved
  split at moved
  · contradiction
  obtain ⟨taken, middle, read, entered⟩ := Outcome.andThen_eq_ok_iff.mp moved
  obtain ⟨source, -, rfl⟩ := Outcome.lift_eq_ok_iff.mp read
  have before : (cursor.count).events = cursor.events := cursor.events_count
  cases taken with
  | none =>
    obtain ⟨rfl, rfl⟩ := Outcome.ok.inj entered
    rw [← before]
    exact events_note _ _
  | some c =>
    obtain ⟨_, after, paired, arrived⟩ := Outcome.andThen_eq_ok_iff.mp entered
    obtain ⟨rest, -, rfl⟩ := Outcome.lift_eq_ok_iff.mp paired
    obtain ⟨rfl, rfl⟩ := Outcome.ok.inj arrived
    rw [← before, Event.ofArrival]
    dsimp only
    split
    · exact events_note _ _
    · exact (List.append_nil _).symm

/-- A move that fails notes nothing. -/
private theorem events_of_failed_move {failure : Failure}
    (failed : cursor.move = .error failure next) :
    next.events = cursor.events := by
  have counted : (cursor.count).events = cursor.events := cursor.events_count
  rw [move_eq] at failed
  split at failed
  · obtain ⟨-, rfl⟩ := Outcome.error.inj failed
    rfl
  split at failed
  · contradiction
  cases read : CharStream.next cursor.source with
  | error cause source =>
    rw [read] at failed
    obtain ⟨-, rfl⟩ := Outcome.error.inj failed
    exact counted
  | ok c? source =>
    rw [read] at failed
    cases c? with
    | none => contradiction
    | some c =>
      change Outcome.andThen (Outcome.lift Failure.io _ (pairLineFeed c source)) _ = _ at failed
      cases paired : pairLineFeed c source with
      | error cause rest =>
        rw [paired] at failed
        obtain ⟨-, rfl⟩ := Outcome.error.inj failed
        exact counted
      | ok _ rest =>
        rw [paired] at failed
        contradiction

/-- What stays true of events when the arrival at a place is added stays true wherever a cursor
moves. -/
theorem Logs.keepsMoving {P : List Event → Prop}
    (arrives : ∀ {events : List Event} (place : Position) (c? : Option Char),
      P events → P (events ++ Event.ofArrival place c?)) :
    KeepsMoving (Logs P : Cursor σ → Prop) where
  move {cursor} holds := by
    cases moved : cursor.move with
    | error failure next =>
      rw [Outcome.state_error, Logs, events_of_failed_move moved]
      exact holds
    | ok c? next =>
      rw [Outcome.state_ok]
      by_cases finished : cursor.spot = .finish
      · rw [move_eq, if_pos finished] at moved
        split at moved
        · contradiction
        · obtain ⟨-, rfl⟩ := Outcome.ok.inj moved
          exact holds
      · rw [Logs, events_of_move finished moved]
        exact arrives _ c? holds

/-- What is not selected of places is recalled wherever a cursor moves. -/
theorem Recalls.keepsMoving (silent : ∀ place c?, (Event.ofArrival place c?).filterMap select = [])
    (selected : List α) : KeepsMoving (Recalls select selected : Cursor σ → Prop) := by
  apply Logs.keepsMoving
  intro events place c? recalls
  rw [List.filterMap_append, silent, List.append_nil, recalls]

variable [SteadyStream σ]

/-- The events of a cursor in the text tell how far it has read: a line break for each line end that
it has come to, in their order, and the end once it is there. -/
inductive Tells (name : String) (text : List Char) (cursor : Cursor σ) : Prop
  | standing {passed ahead : List Char} (split : logical text = passed ++ logical ahead)
    (stands : cursor.StandsAt (passed.foldl Position.past ⟨name, 1, 1⟩) ahead)
    (breaks : cursor.noted Event.lineBreak? =
      List.range' 1 ((passed ++ ahead.head?.toList).countP isLineEnd))
    (ends : cursor.noted Event.endOfInput? =
      if ahead.head? = none then [(cursor.line, cursor.column)] else [])

namespace Tells

variable {name : String} {text : List Char}

theorem held (tells : cursor.Tells name text) : cursor.released = false := by
  cases tells with
  | standing _ stands => exact stands.held

theorem name_eq (tells : cursor.Tells name text) : cursor.name = name := by
  cases tells with
  | standing _ stands =>
    have source_eq := congrArg Position.source stands.position_eq
    rwa [Position.source_foldl_past] at source_eq

/-- To come to a place behind some of the text is noted as the place asks. -/
theorem enter {passed ahead : List Char} (held : cursor.released = false)
    (unfinished : cursor.spot ≠ .finish) (serves : Serves cursor.source ahead)
    (place : cursor.count.position = passed.foldl Position.past ⟨name, 1, 1⟩)
    (split : logical text = passed ++ logical ahead)
    (breaks : cursor.noted Event.lineBreak? = List.range' 1 (passed.countP isLineEnd))
    (ends : cursor.noted Event.endOfInput? = []) : cursor.move.state.Tells name text := by
  obtain ⟨next, moved, stands⟩ := move_of_serves held unfinished serves
  have events := events_of_move unfinished moved
  have line : cursor.count.position.line = 1 + passed.countP isLineEnd := by
    rw [place, Position.line_foldl_past]
  rw [moved, Outcome.state_ok]
  refine .standing split (place ▸ stands) ?_ ?_
  · rw [noted_of_events events, breaks]
    cases ahead with
    | nil => simp [Event.ofArrival, Event.lineBreak?]
    | cons c ahead =>
      cases ends : isLineEnd c with
      | true =>
        simp [Event.ofArrival, Event.lineBreak?, ends, line, List.range'_concat]
      | false => simp [Event.ofArrival, Event.lineBreak?, ends]
  · rw [noted_of_events events, ends]
    cases ahead with
    | nil =>
      have line_eq : next.line = cursor.count.position.line :=
        congrArg Position.line stands.position_eq
      have column_eq : next.column = cursor.count.position.column :=
        congrArg Position.column stands.position_eq
      simp [Event.ofArrival, Event.endOfInput?, line_eq, column_eq]
    | cons c ahead =>
      cases ends : isLineEnd c <;> simp [Event.ofArrival, Event.endOfInput?, ends]

theorem move (tells : cursor.Tells name text) : cursor.move.state.Tells name text := by
  cases tells with
  | @standing passed ahead split stands breaks ends =>
    cases ahead with
    | nil =>
      rw [stands.move_at_end, Outcome.state_ok]
      exact .standing split stands breaks ends
    | cons c ahead =>
      have unfinished : cursor.spot ≠ .finish := by simp [stands.spot_char]
      refine enter stands.held unfinished stands.serves ?_ ?_ breaks ends
      · rw [position_count stands.lineEnded_char, stands.position_eq, List.head?_cons,
          Option.toList_some, List.foldl_concat]
      · rw [split, logical_eq_cons, List.append_cons]
        rfl

theorem note {event : Event} (tells : cursor.Tells name text)
    (noBreak : event.lineBreak? = none) (noEnd : event.endOfInput? = none) :
    (cursor.note event).Tells name text := by
  cases tells with
  | standing split stands breaks ends =>
    refine .standing split (stands.note event) ?_ ?_
    · exact Recalls.note breaks noBreak
    · exact Recalls.note ends noEnd

/-- The events go on to tell it while a lexer reads. -/
theorem keepsReading : KeepsReading (Tells name text : Cursor σ → Prop) where
  move tells := tells.move
  token _ tells := tells.note rfl rfl

/-- Where a cursor that was read from is in the text, and what it has noted of that. -/
theorem exists_read (tells : cursor.Tells name text) : ∃ seen rest,
    logical text = seen ++ logical rest ∧ Serves cursor.source rest ∧
      (cursor.spot = .finish → rest = []) ∧
      cursor.noted Event.lineBreak? = List.range' 1 (seen.countP isLineEnd) ∧
      cursor.noted Event.endOfInput? = (if cursor.spot = .finish then
        [((Position.after ⟨name, 1, 1⟩ text).line, (Position.after ⟨name, 1, 1⟩ text).column)]
        else []) := by
  cases tells with
  | @standing passed ahead split stands breaks ends =>
    rw [stands.spot_eq]
    refine ⟨passed ++ ahead.head?.toList, afterFirst ahead, ?_, stands.serves, ?_, breaks, ?_⟩
    · rw [split]
      cases ahead with
      | nil => rw [List.head?_nil, Option.toList_none, List.append_nil]; rfl
      | cons c ahead =>
        rw [logical_eq_cons, List.append_cons]
        rfl
    · cases ahead with
      | nil => exact fun _ => rfl
      | cons c ahead => exact nofun
    · rw [ends]
      cases ahead with
      | nil =>
        have whole : Position.after ⟨name, 1, 1⟩ text = cursor.position := by
          rw [stands.position_eq, Position.after, split]
          exact congrArg (List.foldl _ _) (List.append_nil passed)
        rw [whole]
        rfl
      | cons c ahead => rfl

end Tells

end Cursor

namespace Lexer

variable {σ α : Type} [CharStream σ] {lexer next : Lexer σ}

/-- To load a token is noted as that token. -/
theorem noted_of_loadToken (loaded : lexer.loadToken = .ok () next) : ∃ token,
    next.lookahead = some token ∧
      next.cursor.noted Event.token? = lexer.cursor.noted Event.token? ++ [token] := by
  rw [loadToken_eq] at loaded
  obtain ⟨token, middle, read, shown⟩ := Outcome.andThen_eq_ok_iff.mp loaded
  obtain ⟨cursor, lexed, rfl⟩ := Outcome.lift_eq_ok_iff.mp read
  obtain ⟨-, rfl⟩ := Outcome.ok.inj shown
  have recalls : cursor.Recalls Event.token? (lexer.cursor.noted Event.token?) := by
    have moves : Cursor.KeepsMoving (Cursor.Recalls Event.token? _ : Cursor σ → Prop) :=
      Cursor.Recalls.keepsMoving Event.token?_ofArrival (lexer.cursor.noted Event.token?)
    have before : lexer.cursor.Recalls Event.token? (lexer.cursor.noted Event.token?) := rfl
    have after := moves.nextToken before
    rwa [lexed] at after
  refine ⟨token, rfl, ?_⟩
  change (cursor.note (.token token)).noted Event.token? = _
  rw [Cursor.noted_note]
  exact congrArg (· ++ [token]) recalls

/-- To drop the end changes nothing. To drop anything else is noted as the token shown next. -/
theorem noted_of_drop (dropped : lexer.drop = .ok () next) :
    (∃ token, lexer.lookahead = some token ∧ token.kind = .endOfInput ∧ next = lexer) ∨
      (∀ token, lexer.lookahead = some token → token.kind ≠ .endOfInput) ∧ ∃ token,
        next.lookahead = some token ∧
          next.cursor.noted Event.token? = lexer.cursor.noted Event.token? ++ [token] := by
  rw [drop_eq] at dropped
  split at dropped
  · contradiction
  split at dropped
  · next empty =>
    obtain ⟨_, middle, read, loaded⟩ := Outcome.andThen_eq_ok_iff.mp dropped
    obtain ⟨cursor, moved, rfl⟩ := Outcome.lift_eq_ok_iff.mp read
    have silent : Cursor.Recalls Event.token? (lexer.cursor.noted Event.token?)
        lexer.cursor.move.state :=
      (Cursor.Recalls.keepsMoving Event.token?_ofArrival _).move rfl
    rw [moved] at silent
    obtain ⟨token, shown, added⟩ := noted_of_loadToken loaded
    refine .inr ⟨by simp [empty], token, shown, ?_⟩
    rw [added]
    exact congrArg (· ++ [token]) silent
  · next token held =>
    split at dropped
    · next ended =>
      obtain ⟨-, rfl⟩ := Outcome.ok.inj dropped
      exact .inl ⟨token, held, ended, rfl⟩
    · next running =>
      refine .inr ⟨fun other shown => ?_, noted_of_loadToken dropped⟩
      obtain rfl := Option.some.inj (held.symm.trans shown)
      exact running

variable [SteadyStream σ] {name : String} {text : List Char} {tokens : Tokens}
  {whole : List Token}

/-- The events tell how far the text was read, and which of its tokens were shown: those in front of
the lookahead, and the lookahead. -/
structure Traces (name : String) (text : List Char) (whole : List Token) (lexer : Lexer σ) :
    Prop where
  tells : lexer.cursor.Tells name text
  shown : ∃ tokens passed, lexer.Shows tokens ∧ whole = passed ++ tokens.toList ∧
    lexer.cursor.noted Event.token? = passed ++ [tokens.first]

namespace Traces

theorem note {event : Event} (traces : lexer.Traces name text whole)
    (noBreak : event.lineBreak? = none) (noEnd : event.endOfInput? = none)
    (noToken : event.token? = none) : (lexer.note event).Traces name text whole where
  tells := traces.tells.note noBreak noEnd
  shown := by
    obtain ⟨tokens, passed, shows, split, noted⟩ := traces.shown
    exact ⟨tokens, passed, shows.note event, split, Cursor.Recalls.note noted noToken⟩

theorem peek (traces : lexer.Traces name text whole) :
    lexer.peek.state.Traces name text whole := by
  obtain ⟨tokens, -, shows, -⟩ := traces.shown
  rw [peek_eq, shows.lookahead_eq]
  exact traces

theorem drop (traces : lexer.Traces name text whole) :
    lexer.drop.state.Traces name text whole where
  tells := Cursor.Tells.keepsReading.drop traces.tells
  shown := by
    obtain ⟨tokens, passed, shows, split, noted⟩ := traces.shown
    obtain ⟨next, dropped, showing, -⟩ := shows.drop
    rw [dropped, Outcome.state_ok]
    obtain ⟨_, -, -, rfl⟩ | ⟨running, loaded, lookahead, added⟩ := noted_of_drop dropped
    · exact ⟨_, passed, shows, split, noted⟩
    · obtain rfl := Option.some.inj (lookahead.symm.trans showing.lookahead_eq)
      have ahead := Tokens.toList_of_ne_endOfInput (running _ shows.lookahead_eq)
      refine ⟨_, passed ++ [tokens.first], showing, ?_, ?_⟩
      · rw [split, ahead, List.append_cons]
      · rw [added, noted]

/-- The events tell all that a lexer reads from its first look at a text on. -/
theorem of_first_peek {source : σ} (serves : Serves source text)
    (lexed : Lexed ⟨name, 1, 1⟩ text tokens) :
    ((Lexer.start source name 0 0).note (.checking name)).peek.state.Traces name text
      tokens.toList := by
  generalize begun : (Lexer.start source name 0 0).note (.checking name) = lexer
  have unread : lexer.Unread tokens := by
    subst begun
    exact ⟨rfl, rfl, rfl, rfl, text, serves, lexed⟩
  obtain ⟨next, dropped, showing, -⟩ := unread.drop
  have peeked : lexer.peek = .ok tokens.first next := by
    rw [peek_eq, unread.lookahead_eq, dropped, Outcome.andThen_ok]
    dsimp only
    rw [showing.lookahead_eq]
  rw [peeked, Outcome.state_ok]
  have entered : lexer.cursor.move.state.Tells name text := by
    subst begun
    exact .enter rfl nofun serves (Cursor.position_count_of_lineEnded rfl)
      (List.nil_append _).symm rfl rfl
  have noted : next.cursor.noted Event.token? = [] ++ [tokens.first] := by
    obtain ⟨_, shown, -⟩ | ⟨-, token, lookahead, added⟩ := noted_of_drop dropped
    · rw [unread.lookahead_eq] at shown
      contradiction
    · obtain rfl := Option.some.inj (lookahead.symm.trans showing.lookahead_eq)
      subst begun
      exact added
  rw [drop_eq, if_neg (by simp [unread.held]), unread.lookahead_eq] at dropped
  obtain ⟨_, middle, moved, loaded⟩ := Outcome.andThen_eq_ok_iff.mp dropped
  obtain ⟨cursor, read, rfl⟩ := Outcome.lift_eq_ok_iff.mp moved
  rw [read] at entered
  refine ⟨?_, tokens, [], showing, rfl, noted⟩
  have there : Lexer.On (Cursor.Tells name text) (⟨cursor, none, lexer.finished⟩ : Lexer σ) :=
    entered
  have told := Cursor.Tells.keepsReading.loadToken there
  rw [loaded] at told
  exact told

end Traces

end Lexer

end GrammarCheck
