import GrammarCheck.Proofs.Checking.Refusal
import GrammarCheck.Proofs.Lexing.Tracing

/-! # The trace of a check

Cursor, lexer and checker note their events one between another. Still the trace of a check tells
the truth about each of them: which tokens were shown, which diagnostics were handed over, which
lines were read, and whether the check came through.
-/

namespace GrammarCheck

open Chars SteadyStream

/-- An event that tells neither of the text nor of a diagnostic that was handed over. -/
inductive Event.Aside : Event → Prop
  | stuck (position : Position) : Aside (.stuck position)
  | suppressed (position : Position) : Aside (.suppressed position)

/-- These are the events of a check that has begun and not ended, and that has handed over these
diagnostics. -/
structure Underway (name : String) (reported : List Diagnostic) (events : List Event) : Prop where
  begins : events.head? = some (.checking name)
  reports : events.filterMap Event.reported? = reported
  frames : events.filterMap Event.framing? = [.checking name]

namespace Underway

variable {name : String} {reported : List Diagnostic} {events added : List Event}

theorem append (underway : Underway name reported events)
    (unreported : added.filterMap Event.reported? = [])
    (unframed : added.filterMap Event.framing? = []) :
    Underway name reported (events ++ added) where
  begins := List.mem_head?_append_of_mem_head? underway.begins
  reports := by rw [List.filterMap_append, unreported, List.append_nil, underway.reports]
  frames := by rw [List.filterMap_append, unframed, List.append_nil, underway.frames]

theorem report (underway : Underway name reported events) (diagnostic : Diagnostic) :
    Underway name (reported ++ [diagnostic]) (events ++ [.reported diagnostic]) where
  begins := List.mem_head?_append_of_mem_head? underway.begins
  reports := by
    rw [List.filterMap_append, underway.reports]
    rfl
  frames := by
    rw [List.filterMap_append, underway.frames]
    rfl

/-- A check at work may read on. -/
theorem keepsReading {σ : Type} [CharStream σ] :
    Cursor.KeepsReading (Cursor.Logs (Underway name reported) : Cursor σ → Prop) where
  toKeepsMoving := by
    apply Cursor.Logs.keepsMoving
    intro events place c? underway
    apply underway.append
    · exact Event.filterMap_ofArrival (fun _ _ => rfl) (fun _ => rfl) place c?
    · exact Event.filterMap_ofArrival (fun _ _ => rfl) (fun _ => rfl) place c?
  token found underway := Cursor.logs_note.mpr (underway.append rfl rfl)

end Underway

variable {σ ρ : Type} [CharStream σ] [SteadyStream σ] {name : String} {text : List Char}

/-- A checker that collects has noted all that it did with a text with these tokens. -/
structure Checker.Noting (name : String) (text : List Char) (whole : List Token)
    (checker : Checker (Lexer σ) Collector) : Prop where
  traces : checker.tokens.Traces name text whole
  underway : checker.tokens.On (Cursor.Logs (Underway name checker.receiver.diagnostics))
  unlimited : checker.receiver.limit? = none

namespace Checker.Noting

variable {whole : List Token} {checker next : Checker (Lexer σ) Collector}

theorem note {event : Event} (noting : checker.Noting name text whole) (aside : event.Aside) :
    (checker.note event).Noting name text whole where
  traces := by cases aside <;> exact noting.traces.note rfl rfl rfl
  underway := by
    apply Cursor.logs_note.mpr
    cases aside <;> exact noting.underway.append rfl rfl
  unlimited := noting.unlimited

theorem peek (noting : checker.Noting name text whole) :
    checker.peek.state.Noting name text whole := by
  rw [Checker.peek, Outcome.state_lift]
  exact ⟨noting.traces.peek, Underway.keepsReading.peek noting.underway, noting.unlimited⟩

theorem drop (noting : checker.Noting name text whole) :
    checker.drop.state.Noting name text whole := by
  rw [Checker.drop, Outcome.state_lift]
  exact ⟨noting.traces.drop, Underway.keepsReading.drop noting.underway, noting.unlimited⟩

/-- A diagnostic is noted and handed over, or it is neither. -/
theorem reject (noting : checker.Noting name text whole) (found : Token)
    (expected : List Token.Kind) :
    (checker.reject found expected).state.Noting name text whole := by
  rw [Checker.reject]
  split
  · exact noting.note (.suppressed found.position)
  · rw [Outcome.state_lift]
    dsimp only [Checker.note]
    rw [Collector.receive_of_unlimited noting.unlimited, Outcome.state_ok]
    refine ⟨noting.traces.note rfl rfl rfl, ?_, noting.unlimited⟩
    exact Cursor.logs_note.mpr (noting.underway.report ⟨found, expected⟩)

end Checker.Noting

open Checker (Noting)

theorem Checker.upholds_noting {whole : List Token} : Checker.Upholds
    (Noting name text whole : Checker (Lexer σ) Collector → Prop)
    fun (_ : Token) (checker : Checker (Lexer σ) Collector) => checker.Noting name text whole where
  of_showing noting := noting
  peek_ok {checker next token} noting shown := by
    have after := noting.peek
    rwa [shown] at after
  peek_error {checker next failure} noting failed := by
    have after := noting.peek
    rwa [failed] at after
  drop noting := noting.drop
  stuck position noting := noting.note (.stuck position)
  reject expected noting := noting.reject _ expected
  withDepth depth noting := ⟨noting.traces, noting.underway, noting.unlimited⟩

/-- With a collector the run of a check notes all that it does, from its first look on. -/
theorem noting_checkRun {source : σ} {tokens : Tokens} (serves : Serves source text)
    (lexed : Lexed ⟨name, 1, 1⟩ text tokens) :
    (checkRun source name ({} : Collector)).state.Noting name text tokens.toList := by
  have begun : Underway name [] [.checking name] := ⟨rfl, rfl, rfl⟩
  have looked : ((Checker.start source name 0 0 ({} : Collector)).note
      (.checking name)).peek.state.Noting name text tokens.toList := by
    rw [Checker.peek, Outcome.state_lift]
    refine ⟨.of_first_peek serves lexed, ?_, rfl⟩
    exact Underway.keepsReading.peek begun
  apply Checker.upholds_noting.runCons
  apply Outcome.holds_andThen looked
  intro token checker noting
  exact Checker.upholds_noting.dropIf token noting

section Closing

omit [CharStream σ] [SteadyStream σ]

variable {lexer : Lexer σ} (held : lexer.cursor.released = false)

include held

private theorem Lexer.release_eq : lexer.release =
    let cursor := lexer.cursor.note (.closed lexer.cursor.name)
    { lexer with cursor := { cursor with released := true } } := by
  rw [Lexer.release, Cursor.release, if_neg (by simp [held])]

/-- To let go of a text and note the end of its check adds two events. -/
private theorem Lexer.events_of_closing (named : lexer.cursor.name = name) (count : Nat) :
    (lexer.release.note (.checked name count)).cursor.events =
      lexer.cursor.events ++ [.closed name, .checked name count] := by
  rw [Lexer.release_eq held, named]
  simp [Lexer.note, Cursor.events, Cursor.note]

end Closing

/-- The events that a lexer has noted are an account of the text that it read, and of the
diagnostics that were handed over meanwhile. -/
structure Lexer.Accounts (name : String) (text : List Char) (tokens : Tokens)
    (handed : List Diagnostic) (lexer : Lexer σ) : Prop where
  begins : lexer.cursor.events.head? = some (.checking name)
  /-- The tokens in front of the lookahead were shown, and the lookahead. -/
  shown : ∃ passed last after, tokens.toList = passed ++ last :: after ∧
    lexer.lookahead = some last ∧ lexer.cursor.noted Event.token? = passed ++ [last]
  reported : lexer.cursor.noted Event.reported? = handed
  displayed : lexer.cursor.noted Event.display? = handed.map Diagnostic.render
  /-- Each line end that was read ended the next line. -/
  broken : ∃ seen rest, logical text = seen ++ logical rest ∧ Serves lexer.cursor.source rest ∧
    (lexer.cursor.spot = .finish → rest = []) ∧
    lexer.cursor.noted Event.lineBreak? = List.range' 1 (seen.countP isLineEnd)
  /-- The end was noted where the last token is, if it was come to. -/
  ended : lexer.cursor.noted Event.endOfInput? =
    if lexer.cursor.spot = .finish then [(tokens.finish.line, tokens.finish.column)] else []

namespace Lexer.Accounts

variable {tokens : Tokens} {handed : List Diagnostic} {lexer : Lexer σ}

theorem of_traces (lexed : Lexed ⟨name, 1, 1⟩ text tokens)
    (traces : lexer.Traces name text tokens.toList)
    (underway : Underway name handed lexer.cursor.events) :
    lexer.Accounts name text tokens handed := by
  obtain ⟨⟨front, finish⟩, passed, shows, split, noted⟩ := traces.shown
  obtain ⟨seen, rest, whole, serves, finished, breaks, ends⟩ := traces.tells.exists_read
  obtain ⟨after, ahead⟩ := List.head?_eq_some_iff.mp (Tokens.head?_toList ⟨front, finish⟩)
  constructor
  · exact underway.begins
  · exact ⟨passed, _, after, by rw [split, ahead], shows.lookahead_eq, noted⟩
  · exact underway.reports
  · rw [Cursor.noted_display]
    exact congrArg (List.map _) underway.reports
  · exact ⟨seen, rest, whole, serves, finished, breaks⟩
  · rw [lexed.finish_eq]
    exact ends

/-- The account stands when the text is let go and the end of the check is noted. -/
theorem close (accounts : lexer.Accounts name text tokens handed)
    (held : lexer.cursor.released = false) (named : lexer.cursor.name = name) (count : Nat) :
    (lexer.release.note (.checked name count)).Accounts name text tokens handed := by
  have events := events_of_closing held named count
  have noted {α : Type} {select : Event → Option α} (unclosed : select (.closed name) = none)
      (unchecked : select (.checked name count) = none) :
      (lexer.release.note (.checked name count)).cursor.noted select =
        lexer.cursor.noted select := by
    rw [Cursor.noted_of_events events, List.filterMap_cons_none unclosed,
      List.filterMap_cons_none unchecked, List.filterMap_nil, List.append_nil]
  constructor
  · rw [events]
    exact List.mem_head?_append_of_mem_head? accounts.begins
  · rw [noted rfl rfl]
    exact accounts.shown
  · rw [noted rfl rfl]
    exact accounts.reported
  · rw [noted rfl rfl]
    exact accounts.displayed
  · rw [noted rfl rfl, release_eq held]
    exact accounts.broken
  · rw [noted rfl rfl, release_eq held]
    exact accounts.ended

end Lexer.Accounts

section Check

variable [Receiver ρ] {source : σ} {receiver : ρ} (name)

/-- The run of a check traces its text, whatever takes its diagnostics. -/
private theorem exists_traces_checkRun (serves : Serves source text)
    (unfailing : Receiver.Unfailing receiver) :
    let checker := (checkRun source name receiver).state
    let found := (check source name ({} : Collector)).state.receiver.diagnostics
    checker.receiver = Receiver.deliver found receiver ∧ ∃ tokens,
      Lexed ⟨name, 1, 1⟩ text tokens ∧
      (Lexer.start source name 0 0).toList.1 = tokens.toList.map .ok ∧
      checker.tokens.Traces name text tokens.toList ∧
      Underway name found checker.tokens.cursor.events := by
  intro checker found
  obtain ⟨tokens, lexed, unread⟩ := Lexer.exists_unread_start serves name 0 0
  have noting := noting_checkRun serves lexed
  have collected : found = (checkRun source name ({} : Collector)).state.receiver.diagnostics :=
    congrArg Collector.diagnostics (check_receiver source name _)
  obtain ⟨handed, alike⟩ := checkRun_of_unfailing source name unfailing
  rw [← collected] at handed
  refine ⟨handed, tokens, lexed, Lexer.toList_of_offers (.inl unread) rfl, ?_, ?_⟩
  · rw [alike.states.1]
    exact noting.traces
  · rw [alike.states.1, collected]
    exact noting.underway

/-- The trace of a check is an account of the whole check: of its text, of the diagnostics that it
handed over, and of its end. Only a check that came through is closed, and then by its last two
events. -/
theorem trace_tells_the_truth (serves : Serves source text)
    (unfailing : Receiver.Unfailing receiver) :
    let outcome := check source name receiver
    let lexer := outcome.state.tokens
    let found := (check source name ({} : Collector)).state.receiver.diagnostics
    outcome.state.receiver = Receiver.deliver found receiver ∧
      (∃ tokens : Tokens, (Lexer.start source name 0 0).toList.1 = tokens.toList.map .ok ∧
        lexer.Accounts name text tokens found) ∧
      (∀ count, outcome.result = .ok count →
        lexer.cursor.noted Event.framing? = [.checking name, .closed name, .checked name count] ∧
        ∃ front, lexer.cursor.events = front ++ [.closed name, .checked name count]) ∧
      ∀ failure, outcome.result = .error failure →
        lexer.cursor.noted Event.framing? = [.checking name] := by
  intro outcome lexer found
  obtain ⟨handed, tokens, lexed, listed, traces, underway⟩ :=
    exists_traces_checkRun name serves unfailing
  have accounts := Lexer.Accounts.of_traces lexed traces underway
  have held := traces.tells.held
  have named := traces.tells.name_eq
  have frames := underway.frames
  have outcome_eq : outcome = (checkRun source name receiver).andThen fun () checker =>
      .ok checker.reportCount (checker.release.note (.checked name checker.reportCount)) := rfl
  dsimp only [lexer]
  cases ended : checkRun source name receiver with
  | error failure checker =>
    rw [ended] at handed accounts frames
    rw [outcome_eq, ended, Outcome.andThen_error]
    exact ⟨handed, ⟨tokens, listed, accounts⟩, nofun, fun _ _ => frames⟩
  | ok _ checker =>
    rw [ended] at handed accounts held named frames
    rw [outcome_eq, ended, Outcome.andThen_ok]
    have events := Lexer.events_of_closing held named checker.reportCount
    refine ⟨handed, ⟨tokens, listed, accounts.close held named checker.reportCount⟩, ?_, nofun⟩
    rintro _ ⟨⟩
    refine ⟨(Cursor.noted_of_events events).trans ?_, _, events⟩
    exact congrArg (· ++ _) frames

end Check

/-- The end of the text can be noted without a token for it: the check stops at the literal. -/
theorem trace_of_a_cut_off_literal :
    let source := Text.ofString "a\n\""
    let outcome := check source "g" ({} : Collector)
    let lexer := outcome.state.tokens
    let cutOff : Token := ⟨⟨"g", 2, 1⟩, .unterminatedLiteral, "\""⟩
    (Serves source "a\n\"".toList ∧ Receiver.Unfailing ({} : Collector)) ∧
      (∃ tokens : Tokens, (Lexer.start source "g" 0 0).toList.1 = tokens.toList.map .ok ∧
        lexer.Accounts "g" "a\n\"".toList tokens [⟨cutOff, [.assign]⟩]) ∧
      (lexer.cursor.noted Event.framing? = [.checking "g", .closed "g", .checked "g" 1] ∧
        ∃ front, lexer.cursor.events = front ++ [.closed "g", .checked "g" 1]) ∧
      lexer.cursor.events = [
        .checking "g", .lineBreak 1, .token ⟨⟨"g", 1, 1⟩, .identifier, "a"⟩,
        .endOfInput 2 2, .token cutOff, .reported ⟨cutOff, [.assign]⟩,
        .suppressed ⟨"g", 2, 1⟩, .suppressed ⟨"g", 2, 1⟩, .suppressed ⟨"g", 2, 1⟩,
        .closed "g", .checked "g" 1] := by
  intro source outcome lexer cutOff
  have serves : Serves source "a\n\"".toList := Text.serves_ofString _
  have unfailing : Receiver.Unfailing ({} : Collector) := Collector.unfailing rfl
  obtain ⟨-, accounted, closed, -⟩ := trace_tells_the_truth "g" serves unfailing
  have found : outcome.state.receiver.diagnostics = [⟨cutOff, [.assign]⟩] := by decide +kernel
  refine ⟨⟨serves, unfailing⟩, found ▸ accounted, closed 1 ?_, ?_⟩
  · decide +kernel
  · decide +kernel

end GrammarCheck
