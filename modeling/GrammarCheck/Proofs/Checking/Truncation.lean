import GrammarCheck.Proofs.Checking.Agreement
import GrammarCheck.Proofs.Checking.FirstError
import GrammarCheck.Proofs.Lexing.Trailing

/-! # Checks of sources that fail

A read that fails ends a check with that failure. What was reported before is the beginning of what
the check of the whole text reports, and a check that never comes to the failing read does not
notice.
-/

namespace GrammarCheck

open Outcome (Mirrors)

variable {σ τ : Type} [CharStream σ] [CharStream τ] {sources : σ → τ → Prop}
  {past : IoFailure → τ → Prop}

def CharStream.Trails.lockstep (trails : CharStream.Trails sources past) :
    Lockstep (Lexer σ) (Lexer τ) Collector Collector where
  tokens := Eq
  offers := Lexer.Alike sources
  shows := Lexer.Alike sources
  receivers collector count collector' count' := collector = collector' ∧ count = count'
  halted failure collector later collector' _ :=
    later.Over (failure.Past past) ∧ collector.diagnostics <+: collector'.diagnostics
  corresponds := .eq
  offers_of_shows := id
  note alike together := by
    rw [alike.eq]
    exact together.note _
  peek together same := by
    obtain ⟨rfl, -⟩ := same
    refine (together.peek trails).mono (fun stopped => ⟨stopped, List.prefix_refl _⟩) ?_
    rintro failure _ rfl
    exact .refl failure
  drop together same := by
    obtain ⟨rfl, -⟩ := same
    refine (together.drop trails).mono (fun stopped => ⟨stopped, List.prefix_refl _⟩) ?_
    rintro failure _ rfl
    exact .refl failure
  receive _ same alike := by
    obtain ⟨rfl, rfl⟩ := same
    rw [alike.eq]
    exact .refl _ (fun _ => rfl) (fun _ => ⟨rfl, rfl⟩) fun _ => rfl
  kept failure collector := by
    refine ⟨?_, ?_, fun _ => id, ?_⟩
    · rintro later collector' _ ⟨stopped, part⟩
      exact ⟨(trails.keeps failure).reads.reading.peek stopped, part⟩
    · rintro later collector' _ ⟨stopped, part⟩
      exact ⟨(trails.keeps failure).reads.reading.drop stopped, part⟩
    · rintro later collector' _ diagnostic ⟨stopped, part⟩
      exact ⟨stopped, part.trans (collector'.prefix_receive diagnostic)⟩

/-- A check of a source that trails another goes along with the check of that one, up to the read
that fails. -/
theorem check_trails (trails : CharStream.Trails sources past) {source : σ} {source' : τ}
    (related : sources source source') (name : String) (collector : Collector) :
    let left := check source name collector
    let right := check source' name collector
    (left.result = right.result ∧ left.state.receiver = right.state.receiver ∧
        sources left.state.tokens.cursor.source right.state.tokens.cursor.source) ∨
      ∃ cause, left.result = .error (.io cause) ∧
        past cause right.state.tokens.cursor.source ∧
        left.state.receiver.diagnostics <+: right.state.receiver.diagnostics := by
  intro left right
  have start : trails.lockstep.Relates (Lexer.Alike sources)
      ((Checker.start source name 0 0 collector).note (.checking name))
      ((Checker.start source' name 0 0 collector).note (.checking name)) :=
    ⟨⟨.mk related .., rfl⟩, ⟨rfl, rfl⟩, by simp [Checker.start, Checker.note], rfl⟩
  have together : trails.lockstep.Agree (Lexer.Alike sources) Eq (checkRun source name collector)
      (checkRun source' name collector) := start.check .text
  dsimp only [left, right]
  rw [check_result, check_result, check_receiver, check_receiver, check_stream, check_stream]
  generalize checkRun source name collector = run at together
  generalize checkRun source' name collector = run' at together
  cases together with
  | ok _ relates =>
    obtain ⟨receiver_eq, count_eq⟩ := relates.receivers
    exact .inl ⟨congrArg Except.ok count_eq, receiver_eq, relates.tokens.cursor.source⟩
  | error alike relates =>
    exact .inl ⟨congrArg Except.error alike.eq, relates.receivers.1, relates.tokens.cursor.source⟩
  | halt stopped =>
    obtain ⟨⟨cause, rfl, passed⟩, part⟩ := stopped
    exact .inr ⟨cause, rfl, passed, part⟩

/-- The check of a text that cannot be read on behind some of its characters is the check of the
whole text where that never asks for more than these. Otherwise it ends with the failure of the
read, and its diagnostics are the first of those of the whole text. -/
theorem failing_reads_cut_checks_short (text name : String) (count : Nat) (failure : IoFailure) :
    let whole := check (Text.ofString text) name ({} : Collector)
    let split := check (SplitText.ofString text count) name ({} : Collector)
    let cut := check (CutText.ofString text count failure) name ({} : Collector)
    split.result = whole.result ∧ split.state.receiver = whole.state.receiver ∧
      if split.state.tokens.cursor.source.crossed then
        cut.result = .error (.io failure) ∧
          cut.state.receiver.diagnostics <+: whole.state.receiver.diagnostics
      else
        cut.result = whole.result ∧
          cut.state.receiver.diagnostics = whole.state.receiver.diagnostics := by
  intro whole split cut
  obtain ⟨result_eq, receiver_eq⟩ := (SameTokens.refl text.toList).check_eq
    (SplitText.serves_ofString text count) (Text.serves_ofString text) name ({} : Collector)
  refine ⟨result_eq, receiver_eq, ?_⟩
  have related : CutText.ofString text count failure =
      ⟨(SplitText.ofString text count).front, failure⟩ ∧
        (SplitText.ofString text count).crossed = false := ⟨rfl, rfl⟩
  obtain ⟨result_eq', receiver_eq', -, inside⟩ | ⟨cause, failed, ⟨rfl, crossed⟩, part⟩ :=
    check_trails (SplitText.trails failure) related name ({} : Collector)
  · rw [if_neg (by rw [inside]; decide)]
    exact ⟨result_eq'.trans result_eq, congrArg _ (receiver_eq'.trans receiver_eq)⟩
  · rw [if_pos crossed]
    rw [receiver_eq] at part
    exact ⟨failed, part⟩

end GrammarCheck
