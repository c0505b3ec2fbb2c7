import GrammarCheck.Proofs.Checking.TextCheck
import GrammarCheck.Proofs.Receiving

/-! # Other names and other origins

A check looks at the positions of tokens only to tell whether two tokens are the same. Under another
name, and with the lines counted on from another origin, the tokens of a text differ in no more than
their positions, and as many of them are the same. So nothing else changes in what a check reports.
-/

namespace GrammarCheck

section Relabel

variable (name : String) (lines : Nat)

/-- The same place in a text of this name, with the lines counted on from `lines`. -/
def Position.relabel (position : Position) : Position :=
  ⟨name, lines + position.line, position.column⟩

def Token.relabel (token : Token) : Token :=
  { token with position := token.position.relabel name lines }

def Diagnostic.relabel (diagnostic : Diagnostic) : Diagnostic :=
  { diagnostic with found := diagnostic.found.relabel name lines }

def Failure.relabel : Failure → Failure
  | io cause => io cause
  | closed => closed
  | nestingTooDeep position limit => nestingTooDeep (position.relabel name lines) limit

def Tokens.relabel (tokens : Tokens) : Tokens :=
  ⟨tokens.front.map (Token.relabel name lines), tokens.finish.relabel name lines⟩

end Relabel

/-- Hands each diagnostic on to another receiver, under another name and with other lines. -/
structure Relabelling (ρ : Type) where
  name : String
  lines : Nat
  inner : ρ

instance {ρ : Type} [Receiver ρ] : Receiver (Relabelling ρ) where
  receive diagnostic outer :=
    (Receiver.receive (diagnostic.relabel outer.name outer.lines) outer.inner).lift id
      fun inner => { outer with inner }

variable {name : String} {lines : Nat}

namespace Position

private theorem relabel_past (position : Position) (c : Char) :
    (position.past c).relabel name lines = (position.relabel name lines).past c := by
  unfold past
  split <;> rfl

private theorem relabel_after (position : Position) (text : List Char) :
    (position.after text).relabel name lines = (position.relabel name lines).after text := by
  unfold after
  induction Chars.logical text generalizing position with
  | nil => rfl
  | cons c text ih => rw [List.foldl_cons, List.foldl_cons, ih, relabel_past]

end Position

namespace Tokens

variable (tokens : Tokens)

private theorem toList_relabel :
    (tokens.relabel name lines).toList = tokens.toList.map (Token.relabel name lines) := by
  rw [toList, toList, List.map_append]
  rfl

private theorem first_relabel :
    (tokens.relabel name lines).first = tokens.first.relabel name lines := by
  obtain ⟨_ | ⟨token, front⟩, finish⟩ := tokens <;> rfl

private theorem rest_relabel :
    (tokens.relabel name lines).rest = tokens.rest.relabel name lines := by
  obtain ⟨_ | ⟨token, front⟩, finish⟩ := tokens <;> rfl

private theorem toList_rest_subset : tokens.rest.toList ⊆ tokens.toList := by
  obtain ⟨_ | ⟨token, front⟩, finish⟩ := tokens
  · exact List.Subset.refl _
  · exact List.subset_cons_self ..

end Tokens

/-- The tokens of a text are the same at another place, but for their positions. -/
theorem Lexed.relabel {position : Position} {text : List Char} {tokens : Tokens}
    (lexed : Lexed position text tokens) :
    Lexed (position.relabel name lines) text (tokens.relabel name lines) := by
  induction lexed with
  | @finish position gap isGap =>
    rw [Tokens.relabel, Position.relabel_after]
    exact .finish isGap
  | @token position finish gap text behind kind front isGap spells _ ih =>
    change Lexed (((position.after gap).relabel name lines).right text.length) behind _ at ih
    rw [Position.relabel_after] at ih
    have first : Token.relabel name lines ⟨position.after gap, kind, String.ofList text⟩ =
        ⟨(position.relabel name lines).after gap, kind, String.ofList text⟩ := by
      rw [Token.relabel, Position.relabel_after]
    rw [Tokens.relabel, List.map_cons, first]
    exact .token isGap spells ih

/-- To relabel a token of one text loses nothing. -/
theorem Token.relabel_inj {first second : Token}
    (alike : first.position.source = second.position.source)
    (same : first.relabel name lines = second.relabel name lines) : first = second := by
  obtain ⟨⟨source, line, column⟩, kind, text⟩ := first
  obtain ⟨⟨source', line', column'⟩, kind', text'⟩ := second
  simp only [relabel, Position.relabel, Token.mk.injEq, Position.mk.injEq, true_and,
    Nat.add_left_cancel_iff] at same alike ⊢
  exact ⟨⟨alike, same.1⟩, same.2⟩

section Lockstep

variable {ρ ρ' : Type} [Receiver ρ] [Receiver ρ']

/-- The token of the text, and the one that it becomes. -/
def Token.Relabels (source name : String) (lines : Nat) (token token' : Token) : Prop :=
  token.position.source = source ∧ token' = token.relabel name lines

def Tokens.Relabels (source name : String) (lines : Nat) (tokens tokens' : Tokens) : Prop :=
  (∀ token ∈ tokens.toList, token.position.source = source) ∧ tokens' = tokens.relabel name lines

/-- The receivers do alike with every diagnostic and what it becomes. -/
structure Receiver.Relabels (name : String) (lines : Nat) (related : ρ → ρ' → Prop) : Prop where
  receive {receiver : ρ} {receiver' : ρ'} (diagnostic : Diagnostic) :
    related receiver receiver' → Outcome.Alike related (Receiver.receive diagnostic receiver)
      (Receiver.receive (diagnostic.relabel name lines) receiver')

variable {source : String} {related : ρ → ρ' → Prop}

def Receiver.Relabels.lockstep (source : String) (relabels : Receiver.Relabels name lines related) :
    Lockstep Tokens Tokens ρ ρ' where
  tokens := Token.Relabels source name lines
  offers := Tokens.Relabels source name lines
  shows := Tokens.Relabels source name lines
  receivers receiver count receiver' count' := related receiver receiver' ∧ count = count'
  halted _ _ _ _ _ := False
  corresponds := {
    kind_eq := by
      rintro left _ ⟨-, rfl⟩
      rfl
    eq_iff := by
      rintro first second _ _ ⟨named, rfl⟩ ⟨named', rfl⟩
      exact ⟨congrArg _, Token.relabel_inj (named.trans named'.symm)⟩ }
  offers_of_shows := id
  note _ := id
  peek := by
    rintro left _ _ _ _ _ ⟨named, rfl⟩ -
    have first := named _ (List.mem_of_mem_head? left.head?_toList)
    exact .ok ⟨first, left.first_relabel⟩ ⟨named, rfl⟩
  drop := by
    rintro left _ _ _ _ _ ⟨named, rfl⟩ -
    refine .ok rfl ⟨fun token member => named token (left.toList_rest_subset member), ?_⟩
    exact left.rest_relabel
  receive := by
    rintro _ _ _ _ ⟨found, expected⟩ ⟨_, _⟩ right ⟨taken, rfl⟩ ⟨⟨-, rfl⟩, rfl⟩
    have received := relabels.receive ⟨found, expected⟩ taken
    exact (received.mirrors (fun _ => rfl) (fun _ => rfl)).imp fun taken => ⟨taken, rfl⟩
  kept := .never

private theorem Failure.eq_relabel_of_alike {failure failure' : Failure}
    (alike : failure.Alike (Token.Relabels source name lines) failure') :
    failure' = failure.relabel name lines := by
  cases alike with
  | io _ | closed => rfl
  | nestingTooDeep same limit =>
    obtain ⟨-, rfl⟩ := same
    rfl

/-- Checks of a text under two names and from two origins give the same, but for the positions. -/
theorem Receiver.Relabels.check_start (relabels : Receiver.Relabels name lines related)
    (text source : String) (column : Nat) {receiver : ρ} {receiver' : ρ'}
    (start : related receiver receiver') :
    let outcome := (Checker.start (Text.ofString text) source 0 0 receiver).check .text
    let outcome' := (Checker.start (Text.ofString text) name lines column receiver').check .text
    outcome'.result = outcome.result.mapError (Failure.relabel name lines) ∧
      outcome'.state.reportCount = outcome.state.reportCount ∧
      related outcome.state.receiver outcome'.state.receiver := by
  intro outcome outcome'
  have serves := Text.serves_ofString text
  obtain ⟨tokens, lexed, -, alike⟩ := exists_start_alike serves source 0 0 receiver
  obtain ⟨tokens', lexed', -, alike'⟩ := exists_start_alike serves name lines column receiver'
  obtain rfl : tokens' = tokens.relabel name lines := lexed.relabel.unique lexed'
  have apart : (relabels.lockstep source).Relates (Tokens.Relabels source name lines)
      ⟨tokens, receiver, none, 0, 0⟩ ⟨tokens.relabel name lines, receiver', none, 0, 0⟩ :=
    ⟨⟨lexed.source_eq, rfl⟩, ⟨start, rfl⟩, by simp, rfl⟩
  have together := apart.check .text
  have whole : Outcome.Alike _ outcome _ := Checker.alike_run Lexer.tracks alike
  have whole' : Outcome.Alike _ outcome' _ := Checker.alike_run Lexer.tracks alike'
  rw [whole.result_eq, whole'.result_eq, whole.states.reportCount_eq,
    whole'.states.reportCount_eq, whole.states.receiver_eq, whole'.states.receiver_eq]
  change Lockstep.Agree _ _ _ (Checker.run ..) (Checker.run ..) at together
  generalize Checker.run _ (⟨tokens, receiver, none, 0, 0⟩ : Checker Tokens ρ) = left at together ⊢
  generalize Checker.run _ (_ : Checker Tokens ρ') = right at together ⊢
  cases together with
  | ok _ relates => exact ⟨rfl, relates.receivers.2.symm, relates.receivers.1⟩
  | error same relates =>
    rw [Outcome.result_error, Outcome.result_error, Failure.eq_relabel_of_alike same]
    exact ⟨rfl, relates.receivers.2.symm, relates.receivers.1⟩
  | halt stopped => exact stopped.elim

end Lockstep

section Column

variable {σ ρ : Type} [CharStream σ] [Receiver ρ] (source : σ) (name : String)
  (line column column' : Nat)

private theorem Cursor.move_start :
    (Cursor.start source name line column).move = (Cursor.start source name line column').move :=
  rfl

private theorem Lexer.toList_start : (Lexer.start source name line column).toList =
    (Lexer.start source name line column').toList := by
  have next : (Lexer.start source name line column).next =
      (Lexer.start source name line column').next := rfl
  have going : (Lexer.start source name line column).finished = false := rfl
  have going' : (Lexer.start source name line column').finished = false := rfl
  rw [toList_of_going going, toList_of_going going', next]

private theorem Checker.check_start (receiver : ρ) :
    (Checker.start source name line column receiver).check .text =
      (Checker.start source name line column' receiver).check .text := by
  have step : (Checker.start source name line column receiver).step .productions =
      (Checker.start source name line column' receiver).step .productions := rfl
  change Checker.run [.productions, .oneOf [.endOfInput]] _ =
    Checker.run [.productions, .oneOf [.endOfInput]] _
  cases stepped : (Checker.start source name line column receiver).step .productions with
  | ok pushed next => rw [run_of_step_ok stepped, run_of_step_ok (step ▸ stepped)]
  | error failure next => rw [run_of_step_error stepped, run_of_step_error (step ▸ stepped)]

end Column

/-- The first receiver hands everything on to the second. -/
def Relabelling.HandsTo {ρ : Type} (name : String) (lines : Nat) (outer : Relabelling ρ)
    (inner : ρ) : Prop :=
  outer = ⟨name, lines, inner⟩

/-- A receiver behind a relabelling does with a diagnostic what it does with the relabelled one. -/
theorem Relabelling.relabels {ρ : Type} [Receiver ρ] (name : String) (lines : Nat) :
    Receiver.Relabels name lines (@Relabelling.HandsTo ρ name lines) := by
  constructor
  rintro _ inner diagnostic rfl
  change Outcome.Alike _ ((Receiver.receive (diagnostic.relabel name lines) inner).lift ..) _
  cases Receiver.receive (diagnostic.relabel name lines) inner with
  | ok value inner => exact .ok value rfl
  | error failure inner => exact .error failure rfl

/-- A collector took what the other took, relabelled. -/
structure Collector.Relabelled (name : String) (lines : Nat) (collector collector' : Collector) :
    Prop where
  diagnostics_eq : collector'.diagnostics =
    collector.diagnostics.map (Diagnostic.relabel name lines)
  limit_eq : collector'.limit? = collector.limit?

/-- Collectors have room for as many diagnostics, whatever their positions. -/
theorem Collector.relabels (name : String) (lines : Nat) :
    Receiver.Relabels name lines (Collector.Relabelled name lines) := by
  constructor
  rintro ⟨taken, limit?⟩ ⟨taken', limit'?⟩ diagnostic ⟨relabelled, unchanged⟩
  obtain rfl : taken' = taken.map (Diagnostic.relabel name lines) := relabelled
  obtain rfl : limit'? = limit? := unchanged
  have room : Collector.hasRoom ⟨taken.map (Diagnostic.relabel name lines), limit'?⟩ =
      Collector.hasRoom ⟨taken, limit'?⟩ := by
    unfold hasRoom
    rw [List.length_map]
  change Outcome.Alike _ (if _ then _ else _) (if _ then _ else _)
  rw [room]
  split
  · exact .ok () ⟨by simp, rfl⟩
  · exact .error _ ⟨rfl, rfl⟩

/-- Under another name and from another origin a text has the same tokens and its check reports the
same and ends alike, but for the positions: they have that name, and the lines are counted on. The
column of the origin is lost with the first character read. -/
theorem origin_and_name_only_relabel (text source name : String) (line column : Nat) :
    let chars := Text.ofString text
    (Lexer.start chars name line column).toList.1 =
        (Lexer.start chars source 0 0).toList.1.map (Except.map (Token.relabel name line)) ∧
      (∀ limit? : Option Nat, let collector : Collector := { limit? }
        let outcome := (Checker.start chars source 0 0 collector).check .text
        let outcome' := (Checker.start chars name line column collector).check .text
        outcome'.result = outcome.result.mapError (Failure.relabel name line) ∧
          outcome'.state.reportCount = outcome.state.reportCount ∧
          outcome'.state.receiver.diagnostics =
            outcome.state.receiver.diagnostics.map (Diagnostic.relabel name line)) ∧
      (∀ {ρ : Type} [Receiver ρ] (receiver : ρ), let outer := Relabelling.mk name line receiver
        let outcome := (Checker.start chars source 0 0 outer).check .text
        let outcome' := (Checker.start chars name line column receiver).check .text
        outcome'.result = outcome.result.mapError (Failure.relabel name line) ∧
          outcome'.state.reportCount = outcome.state.reportCount ∧
          outcome'.state.receiver = outcome.state.receiver.inner) ∧
      ∀ column', (Cursor.start chars name line column').move =
          (Cursor.start chars name line column).move ∧
        (Lexer.start chars name line column').toList = (Lexer.start chars name line column).toList ∧
        ∀ {ρ : Type} [Receiver ρ] (receiver : ρ),
          (Checker.start chars name line column' receiver).check .text =
            (Checker.start chars name line column receiver).check .text := by
  intro chars
  have serves := Text.serves_ofString text
  refine ⟨?_, ?_, ?_, ?_⟩
  · obtain ⟨tokens, lexed, listed, -⟩ := exists_start_alike serves source 0 0 Discard.mk
    obtain ⟨tokens', lexed', listed', -⟩ := exists_start_alike serves name line column Discard.mk
    obtain rfl : tokens' = tokens.relabel name line := lexed.relabel.unique lexed'
    rw [listed, listed', Tokens.toList_relabel, List.map_map, List.map_map]
    rfl
  · intro limit?
    have start : Collector.Relabelled name line { limit? } { limit? } := ⟨rfl, rfl⟩
    obtain ⟨results, counts, taken⟩ :=
      (Collector.relabels name line).check_start text source column start
    exact ⟨results, counts, taken.diagnostics_eq⟩
  · intro ρ _ receiver
    have start : Relabelling.HandsTo name line ⟨name, line, receiver⟩ receiver := rfl
    obtain ⟨results, counts, taken⟩ :=
      (Relabelling.relabels name line).check_start text source column start
    exact ⟨results, counts, (congrArg Relabelling.inner taken).symm⟩
  · intro column'
    exact ⟨Cursor.move_start .., Lexer.toList_start .., fun receiver => Checker.check_start ..⟩

end GrammarCheck
