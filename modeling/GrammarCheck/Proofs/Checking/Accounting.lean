import GrammarCheck.Proofs.Checking.Lifetime
import GrammarCheck.Proofs.Checking.Lockstep
import GrammarCheck.Proofs.Checking.Recording
import GrammarCheck.Proofs.Checking.TextCheck

/-! # Accounts of what was handed over

A checker counts a diagnostic when it hands it over, and remembers its token from then on. It takes
no notice of whether the receiver took it. A ledger next to the receiver does, and the account of
the checker is checked against it.
-/

namespace GrammarCheck

/-- A receiver with a ledger of the diagnostics that it was handed and whether it took them. -/
structure Ledger (ρ : Type) where
  receiver : ρ
  entries : List (Diagnostic × Bool) := []
  deriving DecidableEq, Repr

namespace Ledger

variable {ρ : Type}

def handed (ledger : Ledger ρ) : List Diagnostic :=
  ledger.entries.map Prod.fst

def taken (ledger : Ledger ρ) : List Diagnostic :=
  (ledger.entries.filter fun entry => entry.2).map Prod.fst

def refused (ledger : Ledger ρ) : List Diagnostic :=
  (ledger.entries.filter fun entry => !entry.2).map Prod.fst

private theorem length_handed (ledger : Ledger ρ) :
    ledger.handed.length = ledger.taken.length + ledger.refused.length := by
  rw [handed, taken, refused, List.length_map, List.length_map, List.length_map,
    List.length_eq_length_filter_add fun entry : Diagnostic × Bool => entry.2]

variable [Receiver ρ]

/-- The receiver does what it would do by itself, and that is entered. -/
instance : Receiver (Ledger ρ) where
  receive diagnostic ledger :=
    match Receiver.receive diagnostic ledger.receiver with
    | .ok () receiver => .ok () ⟨receiver, ledger.entries ++ [(diagnostic, true)]⟩
    | .error failure receiver => .error failure ⟨receiver, ledger.entries ++ [(diagnostic, false)]⟩

/-- Each delivery is entered, and the receiver does not notice. -/
theorem receive_alike (diagnostic : Diagnostic) (ledger : Ledger ρ) :
    Outcome.Alike (fun after (later : Ledger ρ) =>
        later.receiver = after ∧ later.handed = ledger.handed ++ [diagnostic])
      (Receiver.receive diagnostic ledger.receiver) (Receiver.receive diagnostic ledger) := by
  have entered (receiver : ρ) (took : Bool) :
      Ledger.handed ⟨receiver, ledger.entries ++ [(diagnostic, took)]⟩ =
        ledger.handed ++ [diagnostic] := List.map_append
  change Outcome.Alike _ _ (match Receiver.receive diagnostic ledger.receiver with
    | .ok () receiver => _
    | .error failure receiver => _)
  cases Receiver.receive diagnostic ledger.receiver with
  | ok _ receiver => exact .ok () ⟨rfl, entered receiver true⟩
  | error failure receiver => exact .error failure ⟨rfl, entered receiver false⟩

private theorem handed_receive (diagnostic : Diagnostic) (ledger : Ledger ρ) :
    (Receiver.receive diagnostic ledger).state.handed = ledger.handed ++ [diagnostic] :=
  (receive_alike diagnostic ledger).states.2

end Ledger

section Watching

variable {ρ : Type} [Receiver ρ]

/-- The ledger is one of the receiver. -/
def Ledger.Of (receiver : ρ) (ledger : Ledger ρ) : Prop :=
  ledger.receiver = receiver

private theorem Ledger.Of.receive (diagnostic : Diagnostic) {receiver : ρ} {ledger : Ledger ρ}
    (same : ledger.Of receiver) : Outcome.Alike Ledger.Of (Receiver.receive diagnostic receiver)
      (Receiver.receive diagnostic ledger) := by
  obtain rfl := same
  exact (Ledger.receive_alike diagnostic ledger).mono And.left

/-- A checker of a text keeps in step with one of the tokens whose receiver has a ledger. -/
def Lockstep.watching (σ ρ : Type) [CharStream σ] [SteadyStream σ] [Receiver ρ] :
    Lockstep (Lexer σ) Supply ρ (Ledger ρ) :=
  Lexer.Supplies.tracks.lockstepWith Ledger.Of.receive

/-- A checker of a text goes through the same as one of its tokens whose receiver has a ledger. -/
theorem Checker.performEach_watching {σ : Type} [CharStream σ] [SteadyStream σ]
    {left : Checker (Lexer σ) ρ} {right : Checker Supply (Ledger ρ)}
    (relates : (Lockstep.watching σ ρ).Relates Lexer.Supplies left right)
    (operations : List Operation) :
    (Lockstep.watching σ ρ).Relates Lexer.Supplies (left.performEach operations)
      (right.performEach operations) := by
  induction operations generalizing left right with
  | nil => exact relates
  | cons operation further ih =>
    apply ih
    cases operation with
    | release => exact { relates with tokens := relates.tokens.release }
    | check nonterminal =>
      have together := relates.check nonterminal
      change Lockstep.Relates _ _ (left.check nonterminal).state (right.check nonterminal).state
      generalize left.check nonterminal = first at together
      generalize right.check nonterminal = second at together
      cases together with
      | ok _ related => exact related
      | error _ related => exact related
      | halt stopped => exact stopped.elim

end Watching

namespace Supply

variable {supply : Supply}

/-- The lookahead stays or some of those behind it are next, and no token comes back. -/
def MovesTo (supply later : Supply) : Prop :=
  later.ahead.head? = supply.ahead.head? ∧ later.ahead.Sublist supply.ahead ∨
    later.ahead.Sublist supply.ahead.tail

private theorem movesTo_peek (supply : Supply) : supply.MovesTo supply.peek.state := by
  refine .inl ⟨?_, supply.ahead_peek⟩
  rcases supply with tokens | tokens | _ | token <;> rfl

private theorem movesTo_drop (supply : Supply) : supply.MovesTo supply.drop.state := by
  have fewer := supply.ahead_drop
  rcases supply with tokens | tokens | lookahead?
  · exact .inl ⟨rfl, fewer⟩
  · obtain ⟨_ | ⟨token, front⟩, finish⟩ := tokens
    · exact .inl ⟨rfl, fewer⟩
    · exact .inr (List.Sublist.refl _)
  · exact .inl ⟨rfl, fewer⟩

private theorem movesTo_release (supply : Supply) : supply.MovesTo supply.release := by
  have fewer := supply.ahead_release
  rcases supply with tokens | tokens | lookahead?
  · exact .inr (List.nil_sublist _)
  · exact .inl ⟨tokens.head?_toList.symm, fewer⟩
  · exact .inl ⟨rfl, fewer⟩

end Supply

/-- The checker has on its account what is in the ledger, about tokens up to the lookahead. -/
structure Accounted {ρ : Type} (checker : Checker Supply (Ledger ρ)) : Prop where
  place : ∃ passed, (passed ++ checker.tokens.ahead).Nodup ∧
    (checker.receiver.handed.map Diagnostic.found).Sublist
      (passed ++ checker.tokens.ahead.head?.toList)
  lastReported_eq :
    checker.lastReported = (checker.receiver.handed.map Diagnostic.found).getLast?
  reportCount_eq : checker.reportCount = checker.receiver.handed.length

namespace Accounted

variable {ρ : Type} {checker : Checker Supply (Ledger ρ)} {supply : Supply} {token : Token}

theorem withTokens (accounted : Accounted checker) (moves : checker.tokens.MovesTo supply) :
    Accounted { checker with tokens := supply } where
  __ := accounted
  place := by
    obtain ⟨passed, apart, within⟩ := accounted.place
    obtain ⟨same, fewer⟩ | behind := moves
    · refine ⟨passed, apart.sublist (fewer.append_left passed), ?_⟩
      dsimp only
      rwa [same]
    · refine ⟨passed ++ checker.tokens.ahead.head?.toList, ?_, ?_⟩
      · refine apart.sublist ?_
        rw [List.append_assoc]
        refine List.Sublist.append_left ?_ passed
        have whole : checker.tokens.ahead.head?.toList ++ checker.tokens.ahead.tail =
            checker.tokens.ahead := by cases checker.tokens.ahead <;> rfl
        have longer := behind.append_left checker.tokens.ahead.head?.toList
        rwa [whole] at longer
      · exact within.trans (List.sublist_append_left ..)

private theorem nodup (accounted : Accounted checker) :
    (checker.receiver.handed.map Diagnostic.found).Nodup := by
  obtain ⟨passed, apart, within⟩ := accounted.place
  refine apart.sublist (within.trans (List.Sublist.append_left ?_ passed))
  cases checker.tokens.ahead with
  | nil => exact List.Sublist.refl _
  | cons token behind => exact List.singleton_sublist.mpr (List.mem_cons_self ..)

private theorem peek (accounted : Accounted checker) : Accounted checker.peek.state := by
  rw [Checker.peek, Outcome.state_lift]
  exact accounted.withTokens checker.tokens.movesTo_peek

variable [Receiver ρ]

/-- A token is handed over only if it was not before. -/
private theorem reject (accounted : Accounted checker)
    (ahead : checker.tokens.ahead.head? = some token) (expected : List Token.Kind) :
    Accounted (checker.reject token expected).state := by
  obtain ⟨passed, apart, within⟩ := accounted.place
  rw [Checker.reject]
  split
  · exact { accounted with }
  next fresh =>
  rw [ahead] at within
  obtain ⟨behind, split⟩ := List.head?_eq_some_iff.mp ahead
  have unknown : token ∉ checker.receiver.handed.map Diagnostic.found := by
    intro known
    apply fresh
    rw [accounted.lastReported_eq]
    refine getLast?_of_sublist_concat within (fun earlier => ?_) known
    exact (List.nodup_append.mp apart).2.2 _ earlier _ (List.mem_of_mem_head? ahead) rfl
  have entered := Ledger.handed_receive ⟨token, expected⟩ checker.receiver
  rw [Outcome.state_lift]
  refine ⟨⟨passed, apart, ?_⟩, ?_, ?_⟩
  · change ((Receiver.receive _ checker.receiver).state.handed.map _).Sublist
      (passed ++ checker.tokens.ahead.head?.toList)
    rw [entered, ahead, List.map_append]
    exact (sublist_of_sublist_concat within unknown).append (List.Sublist.refl _)
  · change some token = ((Receiver.receive _ checker.receiver).state.handed.map _).getLast?
    rw [entered, List.map_append]
    exact (List.getLast?_concat ..).symm
  · change checker.reportCount + 1 = (Receiver.receive _ checker.receiver).state.handed.length
    rw [entered, accounted.reportCount_eq, List.length_append, List.length_singleton]

theorem preserves : Checker.Preserves (Accounted (ρ := ρ)) fun token checker =>
    checker.tokens.ahead.head? = some token ∧ Accounted checker where
  of_showing showing := showing.2
  peek_ok {checker next token} accounted shown := by
    have after := accounted.peek
    rw [shown] at after
    obtain ⟨supply, read, rfl⟩ := Outcome.lift_eq_ok_iff.mp shown
    exact ⟨Supply.head?_ahead_of_peek read, after⟩
  peek_error {checker next failure} accounted failed := by
    have after := accounted.peek
    rwa [failed] at after
  drop {checker token} showing := by
    rw [Checker.drop, Outcome.state_lift]
    exact showing.2.withTokens checker.tokens.movesTo_drop
  note event showing := showing
  reject expected showing := showing.2.reject showing.1 expected
  withDepth depth accounted := { accounted with }

theorem performEach (accounted : Accounted checker) (operations : List Operation) :
    Accounted (checker.performEach operations) :=
  preserves.performEach
    (fun {checker} accounted => accounted.withTokens checker.tokens.movesTo_release) accounted
    operations

end Accounted

section Lexing

variable {σ ρ : Type} [CharStream σ] [SteadyStream σ] [Receiver ρ]

/-- In every state that a checker can come to, its count is that of the diagnostics handed over,
those that the receiver refused included, and no token is handed over twice. So a diagnostic that
was refused counts, and what is wrong with its token is not reported any more. -/
theorem refused_diagnostics_are_on_account {source : σ} {text : List Char}
    (serves : SteadyStream.Serves source text) (name : String) (line column : Nat) (receiver : ρ)
    (operations : List Operation) :
    let checker := (Checker.start source name line column receiver).performEach operations
    let watched := (Checker.start source name line column (Ledger.mk receiver [])).performEach
      operations
    let ledger := watched.receiver
    (checker.receiver = ledger.receiver ∧ checker.reportCount = watched.reportCount ∧
        checker.lastReported = watched.lastReported) ∧
      checker.reportCount = ledger.handed.length ∧
      checker.reportCount = ledger.taken.length + ledger.refused.length ∧
      checker.lastReported = (ledger.handed.map Diagnostic.found).getLast? ∧
      (ledger.handed.map Diagnostic.found).Nodup := by
  intro checker watched ledger
  obtain ⟨tokens, lexed, unread⟩ := Lexer.exists_unread_start serves name line column
  -- Both checkers are compared with one of the tokens whose receiver has a ledger.
  let supplied := (Checker.supplied tokens (Ledger.mk receiver [])).performEach operations
  have plain : (Lockstep.watching σ ρ).Relates Lexer.Supplies checker supplied := by
    have same : Ledger.Of receiver (Ledger.mk receiver []) := rfl
    refine Checker.performEach_watching ⟨.unread unread rfl, ⟨same, rfl⟩, ?_, rfl⟩ operations
    rintro first _ rfl
    exact Iff.rfl
  have alike : watched.Alike Lexer.Supplies supplied :=
    Checker.Alike.performEach ⟨.unread unread rfl, rfl, rfl, rfl, rfl⟩ operations
  have start : Accounted (Checker.supplied tokens (Ledger.mk receiver [])) :=
    ⟨⟨[], lexed.nodup, List.nil_sublist _⟩, rfl, rfl⟩
  have accounted : Accounted supplied := start.performEach operations
  have reports : checker.reportCount = supplied.reportCount := plain.receivers.2
  have known : checker.lastReported = supplied.lastReported :=
    Option.ext fun token => plain.reported rfl
  have counted : checker.reportCount = ledger.handed.length := by
    rw [reports, accounted.reportCount_eq, ← alike.receiver_eq]
  refine ⟨⟨?_, reports.trans alike.reportCount_eq.symm, known.trans alike.lastReported_eq.symm⟩,
    counted, counted.trans ledger.length_handed, ?_, ?_⟩
  · exact plain.receivers.1.symm.trans (congrArg Ledger.receiver alike.receiver_eq.symm)
  · rw [known, accounted.lastReported_eq, ← alike.receiver_eq]
  · have apart := accounted.nodup
    rwa [← alike.receiver_eq] at apart

theorem refused_diagnostics_of_a_full_collector :
    let full : Collector := { limit? := some 1 }
    let operations : List Operation := [.check .text, .check .factor, .check .text]
    let start := Checker.start (Text.ofString "S = | x ;\nT") "g" 0 0 full
    let checker := start.performEach operations
    let watched := (Checker.start (Text.ofString "S = | x ;\nT") "g" 0 0
      (Ledger.mk full [])).performEach operations
    let ledger := watched.receiver
    SteadyStream.Serves (Text.ofString "S = | x ;\nT") "S = | x ;\nT".toList ∧
      (start.check .text).result = .error (.io .collectionFull) ∧
      (ledger.taken.length, ledger.refused.length) = (1, 1) ∧
      (checker.receiver = ledger.receiver ∧ checker.reportCount = watched.reportCount ∧
        checker.lastReported = watched.lastReported) ∧
      checker.reportCount = ledger.handed.length ∧
      checker.reportCount = ledger.taken.length + ledger.refused.length ∧
      checker.lastReported = (ledger.handed.map Diagnostic.found).getLast? ∧
      (ledger.handed.map Diagnostic.found).Nodup := by
  intro full operations start checker watched ledger
  have serves := Text.serves_ofString "S = | x ;\nT"
  refine ⟨serves, by decide +kernel, by decide +kernel, ?_⟩
  exact refused_diagnostics_are_on_account serves "g" 0 0 full operations

/-- A collector that has no room is handed the same token only once. -/
theorem refused_token_is_not_handed_over_again :
    let full : Collector := { limit? := some 0 }
    let checker := Checker.start (Text.ofString ".") "g" 0 0 full
    let once := checker.performEach [.check .factor]
    let twice := checker.performEach [.check .factor, .check .factor]
    (checker.check .factor).result = .error (.io .collectionFull) ∧
      (once.check .factor).result = .ok () ∧
      (once.reportCount, once.receiver.diagnostics) = (1, []) ∧
      (twice.reportCount, twice.receiver.diagnostics) = (1, []) := by
  decide +kernel

end Lexing

end GrammarCheck
