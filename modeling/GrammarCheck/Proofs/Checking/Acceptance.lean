import GrammarCheck.Proofs.Checking.TextCheck

/-! # What a check accepts

A check passes without a diagnostic exactly the texts whose tokens are a sentence of the grammar of
grammars with no more groups open at once than the limit.
-/

namespace GrammarCheck

variable {ρ : Type} [Receiver ρ]

private theorem Tokens.FirstReports.ne_zero {tokens : Tokens} {receiver : ρ}
    {diagnostic : Diagnostic}
    (reports : tokens.FirstReports receiver diagnostic) :
    (tokens.check receiver).result ≠ .ok 0 := by
  have counted := reports.reportCount_pos
  intro silent
  unfold check at silent counted
  cases ran : Checker.check .text (Checker.mk tokens receiver none 0 0) with
  | error failure checker =>
    rw [ran] at silent
    contradiction
  | ok _ checker =>
    rw [ran] at silent counted
    exact absurd (Except.ok.inj silent) (Nat.ne_of_gt counted)

/-- The check of a text ends in no diagnostic exactly if its tokens are a sentence within the limit,
and then nothing was handed to the receiver. -/
theorem check_passes_the_sentences (text name : String) (receiver : ρ) : ∃ tokens : List Token,
    (Lexer.start (Text.ofString text) name 0 0).toList.1 = tokens.map .ok ∧
      ((check (Text.ofString text) name receiver).result = .ok 0 ↔
        Sentence nestingLimit .text (tokens.map Token.kind)) ∧
      (Sentence nestingLimit .text (tokens.map Token.kind) →
        (check (Text.ofString text) name receiver).state.receiver = receiver) := by
  obtain ⟨tokens, lexed, listed, alike⟩ :=
    exists_check_alike (Text.serves_ofString text) name receiver
  refine ⟨tokens.toList, listed, ?_⟩
  rw [alike.result_eq, alike.states]
  obtain ⟨sentence, checker, passed, untouched⟩ | ⟨apart, failure, checker, failed, -⟩ |
    ⟨before, found, after, expected, split, misplaced, reports⟩ := Tokens.check_cases lexed receiver
  · rw [passed]
    exact ⟨iff_of_true rfl sentence, fun _ => untouched⟩
  · rw [failed]
    exact ⟨iff_of_false nofun apart, fun sentence => absurd sentence apart⟩
  · have apart : ¬ Sentence nestingLimit .text (tokens.toList.map Token.kind) := by
      intro sentence
      rw [split, List.map_append, List.map_cons, List.append_cons] at sentence
      exact misplaced.not_viable ⟨_, _, sentence⟩
    exact ⟨iff_of_false reports.ne_zero apart, fun sentence => absurd sentence apart⟩

end GrammarCheck
