import GrammarCheck.Proofs.Checking.Lifetime
import GrammarCheck.Proofs.Checking.TextCheck
import GrammarCheck.Proofs.Lexing.ReadAhead
import Mathlib.Logic.Function.Iterate

/-! # Texts that are lent

A text may be lent to a check and go on to be read by its owner. Whatever was done with it, the
owner finds the rest of the text behind one logical character past the lookahead.
-/

namespace GrammarCheck

section Lent

variable {σ ρ : Type} [CharStream σ] [SteadyStream σ] [Receiver ρ] {start : Position}
  {text : List Char}

/-- A check reads no further ahead than its lexer does. -/
theorem Checker.kept_readsAhead :
    Checker.Kept fun (lexer : Lexer σ) (_ : ρ) (_ : Nat) => lexer.ReadsAhead start text where
  peek reads := reads.peek
  drop reads := reads.drop
  note event reads := reads.note event
  receive _ reads := reads

private theorem readsAhead_of_performEach {source : σ} (serves : SteadyStream.Serves source text)
    (name : String) (line column : Nat) (receiver : ρ) (operations : List Operation) :
    ((Checker.start source name line column receiver).performEach operations).tokens.ReadsAhead
      ⟨name, line + 1, 1⟩ text := by
  have begun : (Checker.start source name line column receiver).Satisfies fun lexer _ _ =>
      lexer.ReadsAhead ⟨name, line + 1, 1⟩ text := Lexer.readsAhead_start serves name line column
  exact Checker.kept_readsAhead.preserves.performEach (fun reads => Lexer.ReadsAhead.release reads)
    begun operations

private theorem readsAhead_of_check {source : σ} (serves : SteadyStream.Serves source text)
    (name : String) (receiver : ρ) :
    (check source name receiver).state.tokens.ReadsAhead ⟨name, 1, 1⟩ text := by
  have begun : ((Checker.start source name 0 0 receiver).note (.checking name)).Satisfies
      fun lexer _ _ => lexer.ReadsAhead ⟨name, 1, 1⟩ text :=
    (Lexer.readsAhead_start serves name 0 0).note _
  have done : (checkRun source name receiver).state.tokens.ReadsAhead ⟨name, 1, 1⟩ text :=
    Checker.kept_readsAhead.ofRun begun
  change (Outcome.state ((checkRun source name receiver).andThen _)).tokens.ReadsAhead _ _
  cases checked : checkRun source name receiver with
  | error failure checker => rwa [checked] at done
  | ok _ checker =>
    rw [checked] at done
    exact done.release.note _

end Lent

/-- The text has handed out what the lookahead accounts for, and what is left of it is the rest. -/
def Lexer.LeavesRest (lexer : Lexer Text) (start : Position) (text : List Char) : Prop :=
  ∃ taken, text = taken ++ lexer.cursor.source.rest ∧ HandedOut start text lexer.lookahead taken

theorem Lexer.ReadsAhead.leavesRest {lexer : Lexer Text} {start : Position} {text : List Char}
    (reads : lexer.ReadsAhead start text) : lexer.LeavesRest start text := by
  obtain ⟨taken, rest, split, serves, handed⟩ := reads.exists_handedOut
  obtain rfl : lexer.cursor.source.rest = rest := serves
  exact ⟨taken, split, handed⟩

/-- However a lexer or a check uses a text, it takes one logical character more than the text up to
the end of the lookahead: nothing if it has not asked for a token, and all of it once the end is the
lookahead. To let go of the text takes nothing. -/
theorem lent_text_is_read_one_character_past_the_lookahead (text name : String)
    (line column : Nat) :
    (∀ uses : List Lexer.Use,
      let lexer := (Lexer.start (Text.ofString text) name line column).useEach uses
      lexer.LeavesRest ⟨name, line + 1, 1⟩ text.toList ∧
        (lexer.lookahead = none ↔ ∀ call, uses.head? ≠ some (.ask call))) ∧
      (∀ {ρ : Type} [Receiver ρ] (receiver : ρ) (operations : List Operation),
        ((Checker.start (Text.ofString text) name line column receiver).performEach
          operations).tokens.LeavesRest ⟨name, line + 1, 1⟩ text.toList) ∧
      (∀ {ρ : Type} [Receiver ρ] (receiver : ρ),
        (check (Text.ofString text) name receiver).state.tokens.LeavesRest ⟨name, 1, 1⟩
          text.toList) ∧
      ∀ (lexer : Lexer Text) (times : Nat),
        (Lexer.release^[times] lexer).cursor.source = lexer.cursor.source ∧
          (Lexer.release^[times] lexer).lookahead = lexer.lookahead := by
  have serves := Text.serves_ofString text
  refine ⟨fun uses => ⟨?_, ?_⟩, fun receiver operations => ?_, fun receiver => ?_,
    fun lexer times => ?_⟩
  · have start := Lexer.readsAhead_start serves name line column
    exact (Lexer.ReadsAhead.lasts.useEach start uses).leavesRest
  · exact Lexer.lookahead_useEach_start serves name line column uses
  · exact (readsAhead_of_performEach serves name line column receiver operations).leavesRest
  · exact (readsAhead_of_check serves name receiver).leavesRest
  · induction times generalizing lexer with
    | zero => exact ⟨rfl, rfl⟩
    | succ times ih =>
      rw [Function.iterate_succ_apply]
      obtain ⟨source, lookahead⟩ := ih lexer.release
      exact ⟨source.trans lexer.source_release, lookahead⟩

/-- Behind the first word both characters of the line end are taken. -/
example : ((Lexer.start (Text.ofString "ab\r\ncd") "g" 0 0).useEach
    [.ask .peek, .release, .release]).cursor.source.rest = ['c', 'd'] := by
  decide +kernel

end GrammarCheck
