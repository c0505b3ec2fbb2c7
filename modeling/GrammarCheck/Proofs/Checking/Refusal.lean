import GrammarCheck.Proofs.Checking.TextCheck
import GrammarCheck.Proofs.HandingOver
import GrammarCheck.Proofs.Receiving
import Mathlib.Data.List.Induction

/-! # Checks with receivers that refuse

A receiver only hears of diagnostics. So whatever it does with them, a check hands over the same in
the same order, and a receiver that refuses one cuts the check short there.
-/

namespace GrammarCheck

open Receiver (handOver)

variable {σ ρ : Type} [CharStream σ] [Receiver ρ]

/-- A checker with any receiver keeps in step with one that collects everything. What the receiver
has become is told by what the collector has, once both started from `receiver`. -/
def Lockstep.handingOver {τ : Type} [TokenStream τ] (receiver : ρ) : Lockstep τ τ ρ Collector where
  tokens := Eq
  offers := Eq
  shows := Eq
  receivers after count collector count' := collector.limit? = none ∧
    handOver collector.diagnostics receiver = .ok () after ∧
    count = collector.diagnostics.length ∧ count' = count
  halted failure after _ collector _ := collector.limit? = none ∧
    ∃ cause, failure = .io cause ∧ handOver collector.diagnostics receiver = .error cause after
  corresponds := .eq
  offers_of_shows := id
  note alike same := by rw [alike.eq, same]
  peek same _ := by
    subst same
    exact .refl _ .refl (fun _ => rfl) fun _ => rfl
  drop same _ := by
    subst same
    exact .refl _ .refl (fun _ => rfl) fun _ => rfl
  receive {after count collector count' diagnostic diagnostic'} _ same alike := by
    obtain ⟨unlimited, taken, rfl, rfl⟩ := same
    obtain rfl := alike.eq
    rw [Collector.receive_of_unlimited unlimited]
    have handed := Receiver.handOver_concat collector.diagnostics diagnostic receiver
    rw [taken, Outcome.andThen_ok] at handed
    cases received : Receiver.receive diagnostic after with
    | ok _ later => exact .ok rfl ⟨unlimited, handed.trans received, by simp, by simp⟩
    | error cause later => exact .halt ⟨unlimited, cause, rfl, handed.trans received⟩
  kept failure after := by
    refine ⟨id, id, fun _ => id, ?_⟩
    rintro _ collector _ diagnostic ⟨unlimited, cause, rfl, refused⟩
    rw [Collector.receive_of_unlimited unlimited]
    refine ⟨unlimited, cause, rfl, ?_⟩
    rw [Outcome.state_ok, Receiver.handOver_concat, refused, Outcome.andThen_error]

/-- A receiver that never fails takes all that it is handed. -/
private theorem Receiver.Unfailing.handOver_eq {receiver : ρ} (unfailing : Unfailing receiver)
    (diagnostics : List Diagnostic) :
    handOver diagnostics receiver = .ok () (deliver diagnostics receiver) := by
  induction diagnostics using List.reverseRecOn with
  | nil => rfl
  | append_singleton diagnostics diagnostic ih =>
    rw [handOver_concat, ih, Outcome.andThen_ok]
    exact unfailing.receive_eq diagnostics diagnostic

section Check

variable (source : σ) (name : String) (receiver : ρ)

/-- The runs of a check with any receiver and of one with a collector go together. -/
theorem checkRun_hands_over : (Lockstep.handingOver receiver).Agree Eq Eq
    (checkRun source name receiver) (checkRun source name ({} : Collector)) := by
  let lock : Lockstep (Lexer σ) (Lexer σ) ρ Collector := .handingOver receiver
  have start : lock.Relates Eq ((Checker.start source name 0 0 receiver).note (.checking name))
      ((Checker.start source name 0 0 ({} : Collector)).note (.checking name)) :=
    ⟨rfl, ⟨rfl, rfl, rfl, rfl⟩, by simp [Checker.start, Checker.note], rfl⟩
  exact start.check .text

/-- A check hands over what a collector without a limit would collect, and ends like the check with
that collector unless the receiver refuses some of it. -/
theorem check_hands_over :
    let whole := check source name ({} : Collector)
    let found := whole.state.receiver.diagnostics
    let outcome := check source name receiver
    (handOver found receiver = .ok () outcome.state.receiver ∧ outcome.result = whole.result ∧
        ∀ count, outcome.result = .ok count → count = found.length) ∨
      ∃ cause, handOver found receiver = .error cause outcome.state.receiver ∧
        outcome.result = .error (.io cause) := by
  intro whole found outcome
  have together := checkRun_hands_over source name receiver
  dsimp only [outcome, found, whole]
  rw [check_result, check_result, check_receiver, check_receiver]
  generalize checkRun source name receiver = left at together
  generalize checkRun source name ({} : Collector) = right at together
  cases together with
  | ok _ related =>
    obtain ⟨-, taken, counted, same⟩ := related.receivers
    refine .inl ⟨taken, congrArg Except.ok same.symm, ?_⟩
    rintro _ ⟨⟩
    exact counted
  | error alike related =>
    obtain ⟨-, taken, -, -⟩ := related.receivers
    exact .inl ⟨taken, congrArg Except.error alike.eq, nofun⟩
  | halt stopped =>
    obtain ⟨-, cause, rfl, refused⟩ := stopped
    exact .inr ⟨cause, refused, rfl⟩

variable {receiver}

/-- With a receiver that never fails a run reads, reports and ends as it does with a collector. -/
theorem checkRun_of_unfailing (unfailing : Receiver.Unfailing receiver) :
    let whole := checkRun source name ({} : Collector)
    let outcome := checkRun source name receiver
    outcome.state.receiver = Receiver.deliver whole.state.receiver.diagnostics receiver ∧
      Outcome.Alike (fun checker checker' => checker.tokens = checker'.tokens ∧
        checker.reportCount = checker'.reportCount) outcome whole := by
  intro whole outcome
  have together : (Lockstep.handingOver receiver).Agree Eq Eq outcome whole :=
    checkRun_hands_over source name receiver
  generalize outcome = left at together
  generalize whole = right at together
  cases together with
  | ok _ related =>
    obtain ⟨-, taken, counted, same⟩ := related.receivers
    rw [unfailing.handOver_eq] at taken
    exact ⟨(Outcome.ok.inj taken).2.symm, .ok () ⟨related.tokens, same.symm⟩⟩
  | error alike related =>
    obtain ⟨-, taken, counted, same⟩ := related.receivers
    rw [unfailing.handOver_eq] at taken
    obtain rfl := alike.eq
    exact ⟨(Outcome.ok.inj taken).2.symm, .error _ ⟨related.tokens, same.symm⟩⟩
  | halt stopped =>
    obtain ⟨-, cause, -, refused⟩ := stopped
    rw [unfailing.handOver_eq] at refused
    contradiction

variable {source name}

/-- A receiver that takes its part and then refuses only under a condition cuts the check short only
then. -/
private theorem check_of_handOver_eq {condition : Prop} [Decidable condition] {failure : IoFailure}
    {after : ρ} (handed : handOver (check source name ({} : Collector)).state.receiver.diagnostics
      receiver = .provided condition failure after) :
    (check source name receiver).result = (if condition then
        (check source name ({} : Collector)).result else .error (.io failure)) ∧
      (check source name receiver).state.receiver = after := by
  obtain ⟨taken, same, -⟩ | ⟨cause, refused, failed⟩ := check_hands_over source name receiver
  · by_cases holds : condition
    · rw [Outcome.provided_pos holds, taken] at handed
      rw [if_pos holds]
      exact ⟨same, (Outcome.ok.inj handed).2⟩
    · rw [Outcome.provided_neg holds, taken] at handed
      contradiction
  · by_cases holds : condition
    · rw [Outcome.provided_pos holds, refused] at handed
      contradiction
    · rw [Outcome.provided_neg holds, refused] at handed
      obtain ⟨rfl, left⟩ := Outcome.error.inj handed
      rw [if_neg holds]
      exact ⟨failed, left⟩

end Check

/-- Where the receiver refuses a diagnostic, the check ends with the receiver's failure. What it
took before is the beginning of what a receiver that takes everything is handed, and a check that
comes to its end returns the number of diagnostics taken. -/
theorem refusals_cut_checks_short (source : σ) (name : String) :
    let whole := check source name ({} : Collector)
    let found := whole.state.receiver.diagnostics
    let output := (LineWriter.lines found).toUTF8
    (∀ limit,
      let limited := check source name ({ limit? := some limit } : Collector)
      limited.result =
          (if found.length ≤ limit then whole.result else .error (.io .collectionFull)) ∧
        limited.state.receiver.diagnostics = found.take limit) ∧
    (∀ capacity,
      let writing := check source name ({ sink := { capacity? := some capacity } } : LineWriter)
      writing.result =
          (if output.size ≤ capacity then whole.result else .error (.io .sinkFull)) ∧
        writing.state.receiver.sink.written = output.extract 0 capacity) ∧
    ∀ {ρ : Type} [Receiver ρ] (receiver : ρ),
      let outcome := check source name receiver
      (∀ cause after, handOver found receiver = .error cause after →
        outcome.result = .error (.io cause) ∧ outcome.state.receiver = after) ∧
      ∀ count, outcome.result = .ok count →
        count = found.length ∧ handOver found receiver = .ok () outcome.state.receiver := by
  intro whole found output
  refine ⟨?_, ?_, ?_⟩
  · intro limit limited
    have room : ([] : List Diagnostic).length + limit = limit := Nat.zero_add limit
    obtain ⟨result, left⟩ := check_of_handOver_eq (Collector.handOver_eq room found)
    exact ⟨result, congrArg Collector.diagnostics left⟩
  · intro capacity writing
    have room : ByteArray.empty.size + capacity = capacity := Nat.zero_add capacity
    obtain ⟨result, left⟩ := check_of_handOver_eq (LineWriter.handOver_eq room found)
    refine ⟨result, (congrArg (fun writer => writer.sink.written) left).trans ?_⟩
    exact ByteArray.empty_append
  · intro ρ _ receiver outcome
    obtain ⟨taken, -, counted⟩ | ⟨cause, refused, failed⟩ := check_hands_over source name receiver
    · refine ⟨fun cause after refused => ?_, fun count succeeded => ?_⟩
      · exact absurd (refused.symm.trans taken) nofun
      · exact ⟨counted count succeeded, taken⟩
    · refine ⟨fun cause' after refused' => ?_, fun count succeeded => ?_⟩
      · obtain ⟨rfl, rfl⟩ := Outcome.error.inj (refused.symm.trans refused')
        exact ⟨failed, rfl⟩
      · exact absurd (failed.symm.trans succeeded) nofun

end GrammarCheck
