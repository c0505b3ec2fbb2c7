import GrammarCheck.Proofs.Checking.Recording
import GrammarCheck.Proofs.Checking.TextCheck
import GrammarCheck.Proofs.Rendering

/-! # What checks report

Over its whole life, whatever it is asked to check, a checker reports each token that it refuses
once, when it refuses it first, and in the order of the text.
-/

namespace GrammarCheck

variable {ρ : Type} [Receiver ρ]

/-- A check of a text agrees with one of its tokens. Checks of these, one after the other, put on
record what the stages of the checks of the text refuse and report. -/
theorem exists_recorded {σ : Type} [CharStream σ] [SteadyStream σ] {source : σ} {text : List Char}
    (serves : SteadyStream.Serves source text) (name : String) (line column : Nat) {receiver : ρ}
    (unfailing : Receiver.Unfailing receiver) (nonterminals : List Nonterminal) :
    let checker := Checker.start source name line column receiver
    ∃ tokens, Lexed ⟨name, line + 1, 1⟩ text tokens ∧
      (Lexer.start source name line column).toList.1 = tokens.toList.map .ok ∧
      Checker.Alike Lexer.Offers checker ⟨tokens, receiver, none, 0, 0⟩ ∧
      Recorded tokens.toList receiver
        ((checker.stagesOfEach nonterminals).filterMap Stage.refused?)
        ((checker.stagesOfEach nonterminals).filterMap Stage.reported?)
        (Checker.checkEach nonterminals ⟨tokens, receiver, none, 0, 0⟩) := by
  intro checker
  obtain ⟨tokens, lexed, listed, alike⟩ := exists_start_alike serves name line column receiver
  have stages := Checker.alike_stagesOfEach Lexer.tracks nonterminals alike
  have recorded := (Recorded.start tokens receiver).checkEach nonterminals unfailing lexed.nodup
  rw [List.nil_append, List.nil_append,
    ← Stage.filterMap_eq_of_alike (Checker.refused?_eq_of_alike Lexer.tracks) stages,
    ← Stage.filterMap_eq_of_alike (Checker.reported?_eq_of_alike Lexer.tracks) stages] at recorded
  exact ⟨tokens, lexed, listed, alike, recorded⟩

/-- The tokens reported so far lie in front of the lookahead or are the lookahead itself. -/
theorem Recorded.sublist {whole : List Token} {receiver : ρ} {refused reported : List Diagnostic}
    {checker : Checker Tokens ρ} (recorded : Recorded whole receiver refused reported checker) :
    (reported.map Diagnostic.found).Sublist whole := by
  obtain ⟨passed, rfl, located⟩ := recorded.place
  refine located.trans (List.Sublist.append_left (List.singleton_sublist.mpr ?_) passed)
  exact List.mem_of_mem_head? checker.tokens.head?_toList

/-- The tokens of a text are of the forms that their kinds ask for. -/
theorem Lexed.wellFormed {position : Position} {text : List Char} {tokens : Tokens}
    (lexed : Lexed position text tokens) : ∀ token ∈ tokens.toList, token.WellFormed := by
  induction lexed with
  | finish _ => exact List.forall_mem_singleton.mpr rfl
  | token _ spells _ ih => exact List.forall_mem_cons.mpr ⟨.of_spells spells _, ih⟩

/-- Diagnostics in one text that go up from token to token read differently. -/
private theorem nodup_map_render {diagnostics : List Diagnostic} {source : String}
    (named : ∀ diagnostic ∈ diagnostics, diagnostic.position.source = source)
    (sorted : diagnostics.Pairwise fun first second =>
      first.position.place < second.position.place) :
    (diagnostics.map Diagnostic.render).Nodup := by
  apply List.pairwise_map.mpr
  refine sorted.imp_of_mem fun {first second} here there before same => ?_
  have position := Diagnostic.position_eq_of_render ((named _ here).trans (named _ there).symm) same
  rw [position] at before
  exact lt_irrefl _ before

/-- Checks one after the other hand over the first refusal of each token refused, and nothing else.
The tokens reported are some of those listed, in the same order, and no two diagnostics read the
same. -/
theorem each_refused_token_is_reported_once (text name : String) (line column : Nat) {receiver : ρ}
    (unfailing : Receiver.Unfailing receiver) (nonterminals : List Nonterminal) :
    let checker := Checker.start (Text.ofString text) name line column receiver
    let refused := (checker.stagesOfEach nonterminals).filterMap Stage.refused?
    let reported := (checker.stagesOfEach nonterminals).filterMap Stage.reported?
    ∃ tokens : List Token,
      (Lexer.start (Text.ofString text) name line column).toList.1 = tokens.map .ok ∧
      (checker.checkEach nonterminals).receiver = Receiver.deliver reported receiver ∧
      (reported.map Diagnostic.found).Sublist tokens ∧
      reported.Pairwise (fun first second => first.position.place < second.position.place) ∧
      FirstOfEach refused reported ∧
      (∀ diagnostic ∈ reported, diagnostic.found.kind ∉ diagnostic.expected) ∧
      (reported.map Diagnostic.render).Nodup := by
  intro checker refused reported
  obtain ⟨tokens, lexed, listed, alike, recorded⟩ :=
    exists_recorded (Text.serves_ofString text) name line column unfailing nonterminals
  have checked := Checker.alike_checkEach Lexer.tracks nonterminals alike
  have ordered := List.pairwise_map.mp (lexed.sorted.2.sublist recorded.sublist)
  have named : ∀ diagnostic ∈ reported, diagnostic.position.source = name := by
    intro diagnostic member
    exact lexed.source_eq _ (recorded.sublist.subset (List.mem_map_of_mem member))
  exact ⟨tokens.toList, listed, checked.receiver_eq.trans recorded.receiver_eq, recorded.sublist,
    ordered, recorded.firsts, recorded.misfits, nodup_map_render named ordered⟩

theorem reports_of_a_collector :
    let checker := Checker.start (Text.ofString "S = | x ;\nT") "g" 0 0 ({} : Collector)
    let stages := checker.stagesOfEach [.text, .factor, .production, .text]
    let reported := stages.filterMap Stage.reported?
    Receiver.Unfailing ({} : Collector) ∧
      reported =
        [⟨⟨⟨"g", 1, 5⟩, .bar, "|"⟩, Token.Kind.factorKinds⟩,
          ⟨⟨⟨"g", 1, 9⟩, .unknown, ";"⟩, [.period]⟩] ∧
      (stages.filterMap Stage.refused?).length = 9 ∧
      ∃ tokens : List Token,
        (Lexer.start (Text.ofString "S = | x ;\nT") "g" 0 0).toList.1 = tokens.map .ok ∧
        (checker.checkEach [.text, .factor, .production, .text]).receiver =
          Receiver.deliver reported {} ∧
        (reported.map Diagnostic.found).Sublist tokens ∧
        reported.Pairwise (fun first second => first.position.place < second.position.place) ∧
        FirstOfEach (stages.filterMap Stage.refused?) reported ∧
        (∀ diagnostic ∈ reported, diagnostic.found.kind ∉ diagnostic.expected) ∧
        (reported.map Diagnostic.render).Nodup := by
  intro checker stages reported
  refine ⟨Collector.unfailing rfl, by decide +kernel, by decide +kernel, ?_⟩
  exact each_refused_token_is_reported_once _ _ _ _ (Collector.unfailing rfl) _

end GrammarCheck
