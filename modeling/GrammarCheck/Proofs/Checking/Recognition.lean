import GrammarCheck.Proofs.Checking.Stages
import GrammarCheck.Proofs.Checking.TextCheck

/-! # What a check of one nonterminal takes

A check that starts on a nonterminal looks for one sentence of it in front of the text. It takes
that sentence and leaves the rest, as long as the token behind the sentence could not go on with it.
-/

namespace GrammarCheck

open Goal

variable {limit room : Nat} {nonterminal : Nonterminal} {word : List Token.Kind}

/-- The kinds that can go on with a sentence of the nonterminal. -/
def Nonterminal.goesOn : Nonterminal → List Token.Kind
  | expression => .bar :: Token.Kind.factorKinds
  | term => Token.Kind.factorKinds
  | text | production | factor => []

/-- The tokens `taken` are a sentence within the limit, and those behind do not go on with it. -/
structure Nonterminal.Heads (nonterminal : Nonterminal) (taken behind : List Token) : Prop where
  sentence : Sentence nestingLimit nonterminal (taken.map Token.kind)
  ended : ∀ next ∈ behind.head?, next.kind ∉ nonterminal.goesOn

section Grammar

private theorem Sentence.exists_longer_term {kind : Token.Kind}
    (sentence : Sentence (room + 1) .term word)
    (starts : kind ∈ Token.Kind.factorKinds) :
    ∃ more, Sentence (room + 1) .term (word ++ kind :: more) := by
  obtain ⟨front, back, rfl, head, others⟩ := sentence_term_iff.mp sentence
  obtain ⟨more, last⟩ := Sentence.exists_factor starts
  refine ⟨more, sentence_term_iff.mpr ⟨front, back ++ kind :: more, ?_, head, ?_⟩⟩
  · exact List.append_assoc ..
  · exact Repeated.concat others last

/-- A sentence goes on with each of these kinds, to a longer sentence. -/
theorem Sentence.exists_longer {kind : Token.Kind}
    (sentence : Sentence (room + 1) nonterminal word) (goes : kind ∈ nonterminal.goesOn) :
    ∃ more, Sentence (room + 1) nonterminal (word ++ kind :: more) := by
  cases sentence with
  | term head each => exact (Sentence.term head each).exists_longer_term goes
  | @expression _ first parts head each =>
    obtain rfl | starts := List.mem_cons.mp goes
    · refine ⟨[.identifier], ?_⟩
      have longer : ∀ part ∈ parts ++ [[.identifier]], Sentence (room + 1) .term part :=
        List.forall_mem_append.mpr ⟨each, List.forall_mem_singleton.mpr (.of_factor .identifier)⟩
      have sentence := Sentence.expression head longer
      rwa [List.map_append, List.flatten_append, ← List.append_assoc] at sentence
    · -- A factor goes on with the last of the terms.
      obtain rfl | ⟨front, last, rfl⟩ := List.eq_nil_or_concat' parts
      · obtain ⟨more, longer⟩ := head.exists_longer_term starts
        refine ⟨more, ?_⟩
        rw [List.map_nil, List.flatten_nil, List.append_nil]
        exact longer.of_term
      · obtain ⟨others, final⟩ := List.forall_mem_append.mp each
        obtain ⟨more, longer⟩ := (List.forall_mem_singleton.mp final).exists_longer_term starts
        refine ⟨more, ?_⟩
        have sentence := Sentence.expression head
          (List.forall_mem_append.mpr ⟨others, List.forall_mem_singleton.mpr longer⟩)
        simpa using sentence
  | text _ | production _ | identifier | literal | group _ => contradiction

namespace Nonterminal

/-- A check for a nonterminal looks for its sentences. -/
theorem spans_goals_iff : Spans limit nonterminal.goals word ↔ Sentence limit nonterminal word := by
  cases nonterminal with
  | text =>
    rw [sentence_text_iff]
    constructor
    · rintro ⟨body, _, rfl, derives, last⟩
      obtain ⟨_, ended, rfl⟩ := spans_singleton_iff.mp last
      obtain rfl := List.mem_singleton.mp ended
      exact ⟨body, derives, rfl⟩
    · rintro ⟨body, derives, rfl⟩
      exact ⟨body, _, rfl, derives, spans_singleton_iff.mpr ⟨_, List.mem_singleton_self _, rfl⟩⟩
  | production | expression | term | factor => exact spans_singleton_iff

private theorem settled_goals {follow : List Token.Kind}
    (apart : ∀ kind ∈ nonterminal.goesOn, kind ∉ follow) : Settled follow nonterminal.goals := by
  cases nonterminal with
  | text =>
    have ended : ∀ kind ∈ productions.goesOn, kind ∉ [Token.Kind.endOfInput] := by decide
    exact ⟨ended, nofun, trivial⟩
  | production | expression | term | factor => exact ⟨apart, trivial⟩

end Nonterminal

end Grammar

section Tokens

variable {ρ : Type} {position : Position} {text : List Char} {tokens later : Tokens}
  {receiver : ρ} {taken front behind : List Token} {target : List Goal}

private theorem Lexed.ready_of_ne_text (lexed : Lexed position text tokens)
    (inside : nonterminal ≠ .text) (receiver : ρ) :
    Checker.Ready ⟨tokens, receiver, none, 0, 0⟩ nonterminal.goals where
  inner := by
    cases nonterminal with
    | text => contradiction
    | production | expression | term | factor =>
      exact List.forall_mem_singleton.mpr ⟨by decide, .inr (List.cons_ne_nil _ _)⟩
  depth_eq := by cases nonterminal <;> rfl
  running := lexed.ne_endOfInput
  apart := lexed.nodup
  fresh first member := by cases nonterminal <;> simp [Nonterminal.goals] at member

namespace Checker.Follows

variable [Receiver ρ] (follows : Checker.Follows ⟨tokens, receiver, none, 0, 0⟩ nonterminal.goals
  taken target later)

include follows

/-- Where a sentence stands in front, no goal is left over, and that sentence is what was taken. -/
private theorem ended_of_heads (split : tokens.toList = front ++ behind)
    (heads : nonterminal.Heads front behind) :
    target = [] ∧ front = taken ∧ behind = later.toList := by
  obtain ⟨after, ahead⟩ := List.head?_eq_some_iff.mp later.head?_toList
  have whole : front ++ behind = taken ++ later.first :: after := by
    rw [← split, ← ahead]
    exact follows.split
  have leads : Leads nestingLimit nonterminal.goals
      (taken.map Token.kind ++ later.first.kind :: after.map Token.kind)
      (behind.map Token.kind) := by
    refine ⟨front.map Token.kind, ?_, Nonterminal.spans_goals_iff.mpr heads.sentence⟩
    rw [← List.map_append, whole, List.map_append, List.map_cons]
  have settled : Settled (behind.map Token.kind).head?.toList nonterminal.goals := by
    refine Nonterminal.settled_goals fun kind goes next => ?_
    rw [Option.mem_toList, List.head?_map, Option.map_eq_some_iff] at next
    obtain ⟨token, next, rfl⟩ := next
    exact heads.ended token next goes
  have allowed : ∀ kind ∈ (behind.map Token.kind).head?,
      kind ∈ (behind.map Token.kind).head?.toList := fun _ => Option.mem_toList.mpr
  have onward := follows.course.leads settled allowed leads
  cases follows.stuck with
  | finished =>
    obtain ⟨_, same, rfl⟩ := onward
    have lengths := congrArg List.length same
    rw [List.nil_append, ← List.map_cons, List.length_map, List.length_map] at lengths
    obtain ⟨rfl, rfl⟩ := List.append_inj' whole lengths.symm
    exact ⟨rfl, rfl, ahead.symm⟩
  | misfit misfits => exact absurd onward misfits.not_leads
  | tooDeep takes full =>
    exact absurd (takes.leads (follows.course.settled settled) allowed onward).1 full

/-- With no goal left over, what was taken is a sentence that nothing goes on with. -/
private theorem heads_of_finished (finished : target = []) :
    nonterminal.Heads taken later.toList := by
  obtain rfl := finished
  obtain ⟨after, ahead⟩ := List.head?_eq_some_iff.mp later.head?_toList
  have sentence : Sentence nestingLimit nonterminal (taken.map Token.kind) := by
    have spans := follows.course.spans (Nat.le_refl _) (spans_nil_iff.mpr rfl)
    rw [List.append_nil] at spans
    exact Nonterminal.spans_goals_iff.mp spans
  refine ⟨sentence, ?_⟩
  rw [later.head?_toList]
  rintro _ ⟨⟩ goes
  -- A longer sentence would have kept the check from ending here.
  have roomy : Sentence (255 + 1) nonterminal (taken.map Token.kind) := sentence
  obtain ⟨more, longer⟩ := roomy.exists_longer goes
  have leads : Leads nestingLimit nonterminal.goals
      (taken.map Token.kind ++ later.first.kind :: more) [] :=
    ⟨_, (List.append_nil _).symm, Nonterminal.spans_goals_iff.mpr longer⟩
  have settled : Settled [] nonterminal.goals :=
    Nonterminal.settled_goals fun _ _ => List.not_mem_nil
  obtain ⟨_, same, rfl⟩ := follows.course.leads settled (by simp) leads
  contradiction

private theorem check_eq_of_finished (finished : target = []) :
    Checker.check nonterminal ⟨tokens, receiver, none, 0, 0⟩ =
      .ok () ⟨later, receiver, none, 0, 0⟩ := by
  obtain rfl := finished
  exact follows.run_eq.trans run_nil

/-- A check with goals left over reports something, or it fails. -/
theorem reports_of_not_finished (unfinished : target ≠ []) :
    let checked := Checker.check nonterminal ⟨tokens, receiver, none, 0, 0⟩
    ¬ (checked.result = .ok () ∧ checked.state.reportCount = 0) := by
  intro checked
  have ran : checked = _ := follows.run_eq
  rw [ran]
  cases follows.stuck with
  | finished => contradiction
  | misfit misfits =>
    have reports := holds_run_of_misfits (P := fun _ count => 0 < count)
      (fun _ _ _ _ => Nat.succ_pos _) misfits follows.ready.depth_eq rfl (Nat.succ_pos _)
    exact fun silent => absurd silent.2 (Nat.ne_of_gt reports)
  | tooDeep takes full =>
    rw [run_of_step_error (step_of_full takes rfl full)]
    exact fun silent => nomatch silent.1

end Checker.Follows

end Tokens

section Check

variable {ρ : Type} [Receiver ρ]

/-- A lexer keeps in step with its tokens, and its listing stays open. -/
private theorem Lexer.tracks_going {σ : Type} [CharStream σ] [SteadyStream σ] : TokenStream.Tracks
    (fun (lexer : Lexer σ) tokens => lexer.Offers tokens ∧ lexer.finished = false)
    fun lexer tokens => lexer.Shows tokens ∧ lexer.finished = false where
  offers_of_shows := And.imp_left .inr
  peek offers := by
    obtain ⟨next, shown, showing, same⟩ := offers.1.peek
    change Outcome.Alike _ (Lexer.peek _) _
    rw [shown]
    exact .ok _ ⟨showing, same.trans offers.2⟩
  drop shows := by
    obtain ⟨next, dropped, following, same⟩ := shows.1.drop
    change Outcome.Alike _ (Lexer.drop _) _
    rw [dropped]
    exact .ok _ ⟨following, same.trans shows.2⟩
  note event shows := ⟨shows.1.note event, shows.2⟩

/-- A check of a nonterminal comes through without a report exactly if a sentence of it within the
limit stands in front of the text, with nothing behind it that could go on with it. No other
sentence does. The check takes that sentence, and the token behind it becomes the lookahead. -/
theorem check_takes_the_sentence_in_front (nonterminal : Nonterminal)
    (inside : nonterminal ≠ .text) (text name : String) (line column : Nat) (receiver : ρ) :
    let start := Checker.start (Text.ofString text) name line column receiver
    let checked := start.check nonterminal
    ∃ tokens : List Token, start.tokens.toList.1 = tokens.map .ok ∧
      (checked.result = .ok () ∧ checked.state.reportCount = 0 ↔
        ∃ taken behind, tokens = taken ++ behind ∧ nonterminal.Heads taken behind) ∧
      ∀ taken behind, tokens = taken ++ behind → nonterminal.Heads taken behind →
        (∀ taken' behind', tokens = taken' ++ behind' → nonterminal.Heads taken' behind' →
          taken' = taken) ∧
        checked.state.receiver = receiver ∧
        checked.state.lookahead? = behind.head? ∧
        checked.state.tokens.toList.1 = behind.map .ok := by
  intro start checked
  obtain ⟨tokens, lexed, listed, alike⟩ :=
    exists_start_alike (Text.serves_ofString text) name line column receiver
  have ran : Outcome.Alike (Checker.Alike _) checked (Checker.check nonterminal _) :=
    Checker.alike_run Lexer.tracks_going { alike with tokens := ⟨alike.tokens, rfl⟩ }
  obtain ⟨taken, target, later, follows⟩ :=
    Checker.exists_follows (lexed.ready_of_ne_text inside receiver)
  refine ⟨tokens.toList, listed, ?_, ?_⟩
  · rw [ran.result_eq, ran.states.reportCount_eq]
    constructor
    · intro silent
      have finished : target = [] := by
        by_contra unfinished
        exact follows.reports_of_not_finished unfinished silent
      exact ⟨taken, later.toList, follows.split, follows.heads_of_finished finished⟩
    · rintro ⟨front, behind, split, heads⟩
      rw [follows.check_eq_of_finished (follows.ended_of_heads split heads).1]
      exact ⟨rfl, rfl⟩
  · intro front behind split heads
    obtain ⟨finished, rfl, rfl⟩ := follows.ended_of_heads split heads
    have states := ran.states
    rw [follows.check_eq_of_finished finished] at states
    refine ⟨?_, states.receiver_eq, ?_, Lexer.toList_of_offers states.tokens.1 states.tokens.2⟩
    · intro front' behind' split' heads'
      exact (follows.ended_of_heads split' heads').2.1
    · rw [states.lookahead?_eq Lexer.tracks_going]
      exact later.head?_toList.symm

/-- A term ends in front of a bar. -/
theorem check_takes_a_term_up_to_a_bar :
    let start := Checker.start (Text.ofString "a b | c") "g" 0 0 ({} : Collector)
    let checked := start.check .term
    Nonterminal.term ≠ .text ∧ checked.result = .ok () ∧ checked.state.reportCount = 0 ∧
      checked.state.lookahead? = some ⟨⟨"g", 1, 5⟩, .bar, "|"⟩ ∧
      ∃ tokens : List Token, start.tokens.toList.1 = tokens.map .ok ∧
        (checked.result = .ok () ∧ checked.state.reportCount = 0 ↔
          ∃ taken behind, tokens = taken ++ behind ∧ Nonterminal.term.Heads taken behind) ∧
        ∀ taken behind, tokens = taken ++ behind → Nonterminal.term.Heads taken behind →
          (∀ taken' behind', tokens = taken' ++ behind' →
            Nonterminal.term.Heads taken' behind' → taken' = taken) ∧
          checked.state.receiver = {} ∧
          checked.state.lookahead? = behind.head? ∧
          checked.state.tokens.toList.1 = behind.map .ok := by
  intro start checked
  refine ⟨by decide, by decide +kernel, by decide +kernel, by decide +kernel, ?_⟩
  exact check_takes_the_sentence_in_front .term (by decide) "a b | c" "g" 0 0 _

end Check

end GrammarCheck
