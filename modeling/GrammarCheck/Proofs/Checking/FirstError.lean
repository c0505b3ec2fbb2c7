import GrammarCheck.Proofs.Checking.TextCheck

/-! # Where the first diagnostic stands

The first diagnostic is about the first token behind which no text goes on, and every kind that it
expects in the place of the token continues some text.
-/

namespace GrammarCheck

/-- A collector keeps what it has. -/
theorem Collector.prefix_receive (collector : Collector) (diagnostic : Diagnostic) :
    collector.diagnostics <+: (Receiver.receive diagnostic collector).state.diagnostics := by
  change _ <+: Collector.diagnostics
    (if collector.hasRoom then _ else _ : Outcome IoFailure Collector Unit).state
  split
  · exact List.prefix_append ..
  · exact List.prefix_refl _

/-- The token of the first diagnostic is the first that makes the tokens up to it a prefix of no
text, and each of the kinds expected would have kept them a prefix of one. -/
theorem first_diagnostic_is_the_first_error {text name : String} {first : Diagnostic}
    {others : List Diagnostic}
    (reported : (check (Text.ofString text) name ({} : Collector)).state.receiver.diagnostics =
      first :: others) : ∃ before after : List Token,
    (Lexer.start (Text.ofString text) name 0 0).toList.1 =
        (before ++ first.found :: after).map .ok ∧
      Viable (before.map Token.kind) ∧
      ¬ Viable ((before ++ [first.found]).map Token.kind) ∧
      first.expected ≠ [] ∧ ∀ kind ∈ first.expected, Viable (before.map Token.kind ++ [kind]) := by
  obtain ⟨tokens, lexed, listed, alike⟩ :=
    exists_check_alike (Text.serves_ofString text) name ({} : Collector)
  rw [alike.states] at reported
  obtain ⟨-, checker, passed, untouched⟩ | ⟨-, failure, checker, failed, untouched⟩ |
    ⟨before, found, after, expected, split, misplaced, reports⟩ :=
      Tokens.check_cases lexed ({} : Collector)
  · rw [passed, Outcome.state_ok, untouched] at reported
    contradiction
  · rw [failed, Outcome.state_error, untouched] at reported
    contradiction
  · have leading : [Diagnostic.mk found expected] <+:
        (tokens.check ({} : Collector)).state.receiver.diagnostics :=
      reports (fun receiver _ => [Diagnostic.mk found expected] <+: receiver.diagnostics)
        (fun diagnostic receiver _ kept => kept.trans (receiver.prefix_receive diagnostic))
        (List.prefix_refl _)
    rw [reported, List.cons_prefix_cons] at leading
    obtain ⟨rfl, -⟩ := leading
    refine ⟨before, after, by rw [listed, split], misplaced.viable, ?_, misplaced.some_expected,
      misplaced.viable_expected⟩
    rw [List.map_append]
    exact misplaced.not_viable

theorem first_diagnostic_of_wrong_closing :
    let found : Token := ⟨⟨"s", 1, 11⟩, .closing .square, "]"⟩
    (check (Text.ofString "S = ( \"x\" ] .") "s" ({} : Collector)).state.receiver.diagnostics =
        [⟨found, [.closing .paren]⟩] ∧
      ∃ before after : List Token,
        (Lexer.start (Text.ofString "S = ( \"x\" ] .") "s" 0 0).toList.1 =
            (before ++ found :: after).map .ok ∧
          Viable (before.map Token.kind) ∧ ¬ Viable ((before ++ [found]).map Token.kind) ∧
          [Token.Kind.closing .paren] ≠ [] ∧
          ∀ kind ∈ [Token.Kind.closing .paren], Viable (before.map Token.kind ++ [kind]) := by
  intro found
  have reported : (check (Text.ofString "S = ( \"x\" ] .") "s"
      ({} : Collector)).state.receiver.diagnostics = [⟨found, [.closing .paren]⟩] := by
    decide +kernel
  exact ⟨reported, first_diagnostic_is_the_first_error reported⟩

end GrammarCheck
