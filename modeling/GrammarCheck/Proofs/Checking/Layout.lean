import GrammarCheck.Proofs.Checking.Agreement
import GrammarCheck.Proofs.Lexing.Layout
import GrammarCheck.Proofs.Receiving

/-! # Checks do not see the layout

Where the tokens of two texts have the same kinds, checks of the texts go the same way, each over
its own tokens. Trivia change the places of tokens and nothing else, so they change nothing but the
places in what a check reports.
-/

namespace GrammarCheck

/-- The tokens stand at the same index, each in its own list. -/
def SameIndex (tokens tokens' : List Token) (token token' : Token) : Prop :=
  ∃ index : Nat, tokens[index]? = some token ∧ tokens'[index]? = some token'

/-- The results are the same, up to the token at which a check fails. -/
inductive SameResult (tokens : Token → Token → Prop) :
    Except Failure Nat → Except Failure Nat → Prop
  | ok (count : Nat) : SameResult tokens (.ok count) (.ok count)
  | error {failure failure' : Failure} (alike : failure.Alike tokens failure') :
    SameResult tokens (.error failure) (.error failure')

namespace SameIndex

variable {tokens tokens' : List Token} {token token' other other' : Token}

private theorem symm (same : SameIndex tokens tokens' token token') :
    SameIndex tokens' tokens token' token := by
  obtain ⟨index, here, there⟩ := same
  exact ⟨index, there, here⟩

/-- Where no token comes twice, a token has one counterpart. -/
private theorem unique (apart : tokens.Nodup) (same : SameIndex tokens tokens' token token')
    (same' : SameIndex tokens tokens' token other') : token' = other' := by
  obtain ⟨index, here, there⟩ := same
  obtain ⟨index', here', there'⟩ := same'
  have inside : index < tokens.length := (List.getElem?_eq_some_iff.mp here).1
  obtain rfl := (List.getElem?_inj inside apart).mp (here.trans here'.symm)
  exact Option.some.inj (there.symm.trans there')

end SameIndex

namespace Tokens

/-- Lists of tokens of the same kinds, in which no token comes twice. -/
structure Parallel (tokens tokens' : Tokens) : Prop where
  kinds_eq : tokens.kinds = tokens'.kinds
  apart : tokens.toList.Nodup
  apart' : tokens'.toList.Nodup

/-- Of each list as many tokens are dropped. -/
def Abreast (whole whole' tokens tokens' : Tokens) : Prop :=
  ∃ count, tokens.toList = whole.toList.drop count ∧ tokens'.toList = whole'.toList.drop count

private theorem kinds_eq_of_forall₂ {tokens tokens' : Tokens}
    (same : List.Forall₂ (fun token token' => token.kind = token'.kind ∧ token.text = token'.text)
      tokens.front tokens'.front) : tokens.kinds = tokens'.kinds := by
  have kinds : tokens.front.map Token.kind = tokens'.front.map Token.kind := by
    generalize tokens.front = front, tokens'.front = front' at same
    induction same with
    | nil => rfl
    | cons head _ ih => rw [List.map_cons, List.map_cons, head.1, ih]
  rw [Tokens.kinds, Tokens.kinds, toList, toList, List.map_append, List.map_append, kinds]
  rfl

variable {whole whole' tokens tokens' : Tokens}

private theorem Abreast.sameIndex (abreast : Abreast whole whole' tokens tokens') :
    SameIndex whole.toList whole'.toList tokens.first tokens'.first := by
  obtain ⟨count, left, right⟩ := abreast
  refine ⟨count, ?_, ?_⟩
  · rw [← List.head?_drop, ← left, head?_toList]
  · rw [← List.head?_drop, ← right, head?_toList]

namespace Parallel

variable (parallel : Parallel whole whole') {token token' : Token}

include parallel

private theorem length_eq : whole.toList.length = whole'.toList.length := by
  have lengths := congrArg List.length parallel.kinds_eq
  rwa [kinds, kinds, List.length_map, List.length_map] at lengths

/-- Tokens at the same index cannot be told apart by their kinds, nor by which of them are one. -/
theorem corresponds : Corresponds (SameIndex whole.toList whole'.toList) where
  kind_eq same := by
    obtain ⟨index, here, there⟩ := same
    have kinds := congrArg (·[index]?) parallel.kinds_eq
    dsimp only [Tokens.kinds] at kinds
    rw [List.getElem?_map, List.getElem?_map, here, there] at kinds
    exact Option.some.inj kinds
  eq_iff same same' := by
    constructor
    · rintro rfl
      exact same.unique parallel.apart same'
    · rintro rfl
      exact same.symm.unique parallel.apart' same'.symm

private theorem rest (abreast : Abreast whole whole' tokens tokens') :
    Abreast whole whole' tokens.rest tokens'.rest := by
  obtain ⟨count, left, right⟩ := abreast
  rw [Abreast, toList_rest, toList_rest, left, right, List.tail_drop, List.tail_drop]
  simp only [List.drop_eq_nil_iff, parallel.length_eq]
  split
  · exact ⟨count, rfl, rfl⟩
  · exact ⟨count + 1, rfl, rfl⟩

def lockstep : Lockstep Tokens Tokens Collector Collector where
  tokens := SameIndex whole.toList whole'.toList
  offers := Abreast whole whole'
  shows := Abreast whole whole'
  receivers collector count collector' count' := collector.limit? = none ∧
    collector'.limit? = none ∧ count = count' ∧
    List.Forall₂ (Diagnostic.Alike (SameIndex whole.toList whole'.toList)) collector.diagnostics
      collector'.diagnostics
  halted _ _ _ _ _ := False
  corresponds := parallel.corresponds
  offers_of_shows := id
  note _ abreast := abreast
  peek abreast _ := .ok abreast.sameIndex abreast
  drop abreast _ := .ok rfl (parallel.rest abreast)
  receive {collector count collector' count' diagnostic diagnostic'} _ same alike := by
    obtain ⟨unlimited, unlimited', rfl, taken⟩ := same
    rw [Collector.receive_of_unlimited unlimited, Collector.receive_of_unlimited unlimited']
    exact .ok rfl ⟨unlimited, unlimited', rfl, List.rel_append taken (.cons alike .nil)⟩
  kept := .never

/-- Checks of parallel tokens report tokens at the same indices and return the same. -/
theorem check_alike : let outcome := whole.check ({} : Collector)
    let outcome' := whole'.check ({} : Collector)
    let same := SameIndex whole.toList whole'.toList
    SameResult same outcome.result outcome'.result ∧
      List.Forall₂ (Diagnostic.Alike same) outcome.state.receiver.diagnostics
        outcome'.state.receiver.diagnostics := by
  intro outcome outcome' same
  have start : parallel.lockstep.Relates (Abreast whole whole')
      ⟨whole, ({} : Collector), none, 0, 0⟩ ⟨whole', ({} : Collector), none, 0, 0⟩ :=
    ⟨⟨0, rfl, rfl⟩, ⟨rfl, rfl, rfl, .nil⟩, by simp, rfl⟩
  have together := start.check .text
  dsimp only [outcome, outcome', Tokens.check]
  generalize Checker.check .text (⟨whole, ({} : Collector), none, 0, 0⟩ : Checker ..) = left
    at together
  generalize Checker.check .text (⟨whole', ({} : Collector), none, 0, 0⟩ : Checker ..) = right
    at together
  cases together with
  | ok _ relates =>
    obtain ⟨-, -, counted, taken⟩ := relates.receivers
    rw [Outcome.andThen_ok, Outcome.andThen_ok, Outcome.result_ok, Outcome.result_ok, counted]
    exact ⟨.ok _, taken⟩
  | error alike relates =>
    obtain ⟨-, -, -, taken⟩ := relates.receivers
    exact ⟨.error alike, taken⟩
  | halt stopped => exact stopped.elim

end Parallel

end Tokens

/-- A text that is laid out anew from the tokens of another, with any trivia in front of the first
and any that open with a line end behind each, has tokens of the same kinds with the same texts. Its
check returns the same and reports the tokens at the same indices with the same kinds expected. -/
theorem layout_does_not_matter {text name : String} {tokens : Tokens}
    (listed : (Lexer.start (Text.ofString text) name 0 0).toList.1 = tokens.toList.map .ok)
    {lead : List Char} (leading : Trivia lead) {pieces : List (Token × List Char)}
    (written : pieces.map Prod.fst = tokens.front)
    (separated : ∀ piece ∈ pieces, Separator piece.2) :
    let text' := String.ofList (lead ++ layOut pieces)
    ∃ tokens' : Tokens,
      (Lexer.start (Text.ofString text') name 0 0).toList.1 = tokens'.toList.map .ok ∧
        List.Forall₂ (fun token token' => token.kind = token'.kind ∧ token.text = token'.text)
          tokens.front tokens'.front ∧
        let same := SameIndex tokens.toList tokens'.toList
        let outcome := check (Text.ofString text) name ({} : Collector)
        let outcome' := check (Text.ofString text') name ({} : Collector)
        SameResult same outcome.result outcome'.result ∧
          List.Forall₂ (Diagnostic.Alike same) outcome.state.receiver.diagnostics
            outcome'.state.receiver.diagnostics := by
  intro text'
  obtain ⟨whole, lexed, listing, alike⟩ :=
    exists_check_alike (Text.serves_ofString text) name ({} : Collector)
  obtain ⟨whole', lexed', listing', alike'⟩ :=
    exists_check_alike (Text.serves_ofString text') name ({} : Collector)
  obtain rfl : whole = tokens := by
    apply Tokens.toList_injective
    exact (List.map_inj_right fun _ _ => Except.ok.inj).mp (listing.symm.trans listed)
  obtain ⟨laid, lexed'', pairwise⟩ := lexed.exists_layOut leading written separated
  rw [← String.toList_ofList (l := lead ++ layOut pieces)] at lexed''
  obtain rfl := lexed'.unique lexed''
  have parallel : whole.Parallel laid :=
    ⟨Tokens.kinds_eq_of_forall₂ pairwise, lexed.nodup, lexed'.nodup⟩
  obtain ⟨results, diagnostics⟩ := parallel.check_alike
  rw [← alike.result_eq, ← alike'.result_eq] at results
  rw [← alike.states, ← alike'.states] at diagnostics
  exact ⟨laid, listing', pairwise, results, diagnostics⟩

theorem layout_of_an_unclosed_literal :
    let text := "S = ; 'x"
    let at_ (column : Nat) : Position := ⟨"g", 1, column⟩
    let pieces : List (Token × List Char) :=
      [(⟨at_ 1, .identifier, "S"⟩, ['\n']), (⟨at_ 3, .assign, "="⟩, ['\r', '\n', '#', '.', '\n']),
        (⟨at_ 5, .unknown, ";"⟩, ['\n', ' ']), (⟨at_ 7, .unterminatedLiteral, "'x"⟩, ['\u2028'])]
    let tokens : Tokens := ⟨pieces.map Prod.fst, at_ 9⟩
    let text' := String.ofList ([' ', '\t'] ++ layOut pieces)
    (Lexer.start (Text.ofString text) "g" 0 0).toList.1 = tokens.toList.map .ok ∧
      Trivia [' ', '\t'] ∧ pieces.map Prod.fst = tokens.front ∧
      (∀ piece ∈ pieces, Separator piece.2) ∧
      ∃ tokens' : Tokens,
        (Lexer.start (Text.ofString text') "g" 0 0).toList.1 = tokens'.toList.map .ok ∧
          List.Forall₂ (fun token token' => token.kind = token'.kind ∧ token.text = token'.text)
            tokens.front tokens'.front ∧
          let same := SameIndex tokens.toList tokens'.toList
          let outcome := check (Text.ofString text) "g" ({} : Collector)
          let outcome' := check (Text.ofString text') "g" ({} : Collector)
          SameResult same outcome.result outcome'.result ∧
            List.Forall₂ (Diagnostic.Alike same) outcome.state.receiver.diagnostics
              outcome'.state.receiver.diagnostics := by
  intro text at_ pieces tokens text'
  have listed : (Lexer.start (Text.ofString text) "g" 0 0).toList.1 = tokens.toList.map .ok := by
    decide +kernel
  have leading : Trivia [' ', '\t'] := .blank rfl (.blank rfl .nil)
  have commented : Trivia ['#', '.', '\n'] :=
    @Trivia.comment '\n' ['.'] [] (List.forall_mem_singleton.mpr rfl) rfl .nil
  have feed : Separator ['\n'] := ⟨.lineEnd rfl .nil, rfl⟩
  have comment : Separator ['\r', '\n', '#', '.', '\n'] :=
    ⟨.lineEnd rfl (.lineEnd rfl commented), rfl⟩
  have indent : Separator ['\n', ' '] := ⟨.lineEnd rfl (.blank rfl .nil), rfl⟩
  have separator : Separator ['\u2028'] := ⟨.lineEnd rfl .nil, rfl⟩
  have separated : ∀ piece ∈ pieces, Separator piece.2 := by
    simp [pieces, feed, comment, indent, separator]
  exact ⟨listed, leading, rfl, separated, layout_does_not_matter listed leading rfl separated⟩

end GrammarCheck
