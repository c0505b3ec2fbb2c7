import GrammarCheck.Proofs.Checking.Stopping
import GrammarCheck.Proofs.Lexing.Joining

/-! # Checks of texts joined at a line feed

A check that comes to the end of a text between two productions goes on from there as if it started
there: it carries nothing over but what it has reported.
-/

namespace GrammarCheck

open Goal

namespace Tokens

/-- The tokens in front of the end, and then those of a later text. -/
def join (tokens later : Tokens) : Tokens :=
  ⟨tokens.front ++ later.front, later.finish⟩

variable {tokens later : Tokens}

private theorem join_of_ended (ended : tokens.front = []) : tokens.join later = later := by
  rw [join, ended]
  rfl

private theorem toList_join (tokens later : Tokens) :
    (tokens.join later).toList = tokens.front ++ later.toList :=
  List.append_assoc ..

private theorem first_of_ended (ended : tokens.front = []) :
    tokens.first = .atEnd tokens.finish := by
  rw [first, ended]
  rfl

private theorem first_join (more : tokens.front ≠ []) :
    (tokens.join later).first = tokens.first := by
  obtain ⟨_ | ⟨token, front⟩, finish⟩ := tokens
  · contradiction
  · rfl

private theorem rest_join (more : tokens.front ≠ []) :
    (tokens.join later).rest = tokens.rest.join later := by
  obtain ⟨_ | ⟨token, front⟩, finish⟩ := tokens
  · contradiction
  · rfl

end Tokens

/-- The goals of a check of productions: between two of them, in front of a definition, or within
one. -/
inductive Framed : List Goal → Prop
  | outside : Framed [.productions]
  | ended (first : Token) : Framed [.progress first, .productions]
  | named (first : Token) : Framed [.definition, .progress first, .productions]
  | within (inner : List Goal) (first : Token) :
    Framed (inner ++ [.oneOf [.period], .progress first, .productions])

namespace Framed

variable {goal : Goal} {goals pushed : List Goal} {token : Token}

/-- The goals stay such until the productions have ended. -/
private theorem of_step (framed : Framed (goal :: goals)) (step : goal.Expands token pushed ∨
      goal.Takes token pushed ∨ goal.Misfits token ∧ pushed = []) :
    goal.Expands token pushed ∧ pushed ++ goals = [] ∨ Framed (pushed ++ goals) := by
  generalize whole : goal :: goals = all at framed
  cases framed with
  | outside =>
    obtain ⟨rfl, rfl⟩ := List.cons.inj whole
    obtain expands | ⟨⟨⟩⟩ | ⟨⟨⟩, -⟩ := step
    · refine .inl ⟨expands, ?_⟩
      cases expands
      rfl
    · exact .inr (.named token)
  | ended first =>
    obtain ⟨rfl, rfl⟩ := List.cons.inj whole
    obtain ⟨⟨⟩⟩ | ⟨⟨⟩⟩ | ⟨⟨⟩, -⟩ := step
    exact .inr .outside
  | named first =>
    obtain ⟨rfl, rfl⟩ := List.cons.inj whole
    obtain ⟨⟨⟩⟩ | ⟨⟨⟩⟩ | ⟨⟨⟩, -⟩ := step
    exact .inr (.within [.oneOf [.assign], .expression] first)
  | within inner first =>
    cases inner with
    | nil =>
      obtain ⟨rfl, rfl⟩ := List.cons.inj whole
      obtain ⟨⟨⟩⟩ | ⟨⟨⟩⟩ | ⟨-, rfl⟩ := step
      · exact .inr (.ended first)
      · exact .inr (.ended first)
    | cons head inner =>
      obtain ⟨rfl, rfl⟩ := List.cons.inj whole
      have further := Framed.within (pushed ++ inner) first
      rw [List.append_assoc] at further
      exact .inr further

private theorem ne_nil (framed : Framed goals) : goals ≠ [] := by
  cases framed <;> simp

/-- Without a goal that has to take something the check is between two productions. -/
private theorem of_nullable (framed : Framed goals)
    (nullable : ∀ goal ∈ goals, goal.nullable = true) :
    goals = [.productions] ∨ ∃ first, goals = [.progress first, .productions] := by
  cases framed with
  | outside => exact .inl rfl
  | ended first => exact .inr ⟨first, rfl⟩
  | named first => exact absurd (nullable .definition (by simp)) (by decide)
  | within inner first => exact absurd (nullable (.oneOf [.period]) (by simp)) (by decide)

end Framed

namespace Checker

variable {ρ : Type} {checker next final : Checker Tokens ρ} {later : Tokens} {goal : Goal}
  {goals pushed : List Goal}

/-- The checker with a later text behind its own. -/
def onto (later : Tokens) (checker : Checker Tokens ρ) : Checker Tokens ρ :=
  { checker with tokens := checker.tokens.join later }

private theorem onto_of_ended (ended : checker.tokens.front = []) :
    checker.onto later = { checker with tokens := later } := by
  rw [onto, Tokens.join_of_ended ended]

variable [Receiver ρ]

private theorem reject_onto {found : Token} {expected : List Token.Kind}
    (rejected : checker.reject found expected = .ok () next) :
    (checker.onto later).reject found expected = .ok () (next.onto later) := by
  unfold reject at rejected ⊢
  split at rejected
  · next known =>
    cases rejected
    exact if_pos known
  · next unknown =>
    obtain ⟨receiver, received, rfl⟩ := Outcome.lift_eq_ok_iff.mp rejected
    exact (if_neg unknown).trans (Outcome.lift_eq_ok_iff.mpr ⟨receiver, received, rfl⟩)

namespace Ready

/-- Before the text ends a step does not depend on what stands behind it. -/
private theorem step_onto (ready : checker.Ready (goal :: goals)) (more : checker.tokens.front ≠ [])
    (stepped : checker.step goal = .ok pushed next) :
    (checker.onto later).step goal = .ok pushed (next.onto later) := by
  have first : (checker.onto later).tokens.first = checker.tokens.first := Tokens.first_join more
  have depth : (checker.onto later).depth = openGroups (goal :: goals) := ready.depth_eq
  obtain ⟨expands, rfl⟩ | ⟨takes, room, rfl⟩ | ⟨misfits, rfl, rejected⟩ := ready.step_cases stepped
  · rw [← first] at expands
    exact step_of_expands expands
  · rw [← first] at takes
    rw [step_of_takes takes depth room, onto, onto, Tokens.rest_join more]
  · rw [← first] at misfits
    rw [step_of_misfits misfits depth, first]
    exact Outcome.map_eq_ok_iff.mpr ⟨(), reject_onto rejected, rfl⟩

/-- At the end of the text a run either reports the end, or has nothing left to find. -/
private theorem run_of_ended (ready : checker.Ready goals) (ended : checker.tokens.front = [])
    (passed : checker.run goals = .ok () final) :
    final.lastReported = some checker.tokens.first ∨
      (∀ goal ∈ goals, goal.nullable = true) ∧ final = checker := by
  induction goals, checker using Checker.run.induct with
  | case1 checker =>
    rw [run_nil] at passed
    exact .inr ⟨List.forall_mem_nil _, (Outcome.ok.inj passed).2.symm⟩
  | case2 checker goal goals failure next failed =>
    rw [run_of_step_error failed] at passed
    contradiction
  | case3 checker goal goals pushed next stepped ih =>
    rw [run_of_step_ok stepped] at passed
    have following := ready.step stepped
    obtain ⟨expands, rfl⟩ | ⟨takes, -, -⟩ | ⟨-, rfl, rejected⟩ := ready.step_cases stepped
    · refine (ih following ended passed).imp id (And.imp_left fun nullable => ?_)
      obtain ⟨pushed_, behind⟩ := List.forall_mem_append.mp nullable
      refine List.forall_mem_cons.mpr ⟨?_, behind⟩
      cases expands with
      | production | definition | expression | term =>
        exact absurd (pushed_ _ (List.mem_cons_self ..)) (by decide)
      | productions | progress | alternatives | factors => rfl
    · have starts := takes.mem_firsts
      rw [Tokens.first_of_ended ended] at starts
      exact absurd starts (ready.inner goal (List.mem_cons_self ..)).1
    · obtain ⟨same, -, known⟩ := of_reject_ok rejected
      change next.tokens = checker.tokens at same
      rw [← same] at ended known ⊢
      obtain reported | ⟨-, rfl⟩ := ih following ended passed
      · exact .inl reported
      · exact .inl known

end Ready

/-- A run on the goals of productions comes through, and would be ready for a later text too. -/
structure Passing (later : Tokens) (final checker : Checker Tokens ρ) (goals : List Goal) :
    Prop where
  ready : checker.Ready goals
  joint : (checker.onto later).Ready goals
  framed : Framed goals
  passed : checker.run goals = .ok () final

namespace Passing

/-- A step in front of the end goes on with productions, or ends them. -/
private theorem step (passing : Passing later final checker (goal :: goals))
    (more : checker.tokens.front ≠ []) (stepped : checker.step goal = .ok pushed next) :
    next = checker ∧ pushed ++ goals = [] ∨ Passing later final next (pushed ++ goals) := by
  have passed := passing.passed
  rw [run_of_step_ok stepped] at passed
  have framed_or := @Framed.of_step _ _ pushed checker.tokens.first passing.framed
  have further (framed : Framed (pushed ++ goals)) : Passing later final next (pushed ++ goals) :=
    ⟨passing.ready.step stepped, passing.joint.step (passing.ready.step_onto more stepped), framed,
      passed⟩
  obtain ⟨expands, rfl⟩ | ⟨takes, -, -⟩ | ⟨misfits, rfl, -⟩ := passing.ready.step_cases stepped
  · exact (framed_or (.inl expands)).imp (fun ⟨_, done⟩ => ⟨rfl, done⟩) further
  · obtain ⟨expands, -⟩ | framed := framed_or (.inr (.inl takes))
    · exact absurd takes.accepts expands.not_accepts
    · exact .inr (further framed)
  · obtain ⟨expands, -⟩ | framed := framed_or (.inr (.inr ⟨misfits, rfl⟩))
    · cases misfits <;> cases expands
    · exact .inr (further framed)

/-- A run that comes to the end of its text takes all of it whatever stands behind, and is then in
front of what stands behind. -/
theorem exists_seam (passing : Passing later final checker goals)
    (ended : final.tokens.front = []) : ∃ (rest : List Goal) (middle : Checker Tokens ρ),
      middle.tokens.front = [] ∧ Passing later final middle rest ∧
      ∀ back,
        (checker.onto later).run (goals ++ back) = (middle.onto later).run (rest ++ back) := by
  induction goals, checker using Checker.run.induct with
  | case1 checker => exact absurd rfl passing.framed.ne_nil
  | case2 checker goal goals failure next failed =>
    have passed := passing.passed
    rw [run_of_step_error failed] at passed
    contradiction
  | case3 checker goal goals pushed next stepped ih =>
    by_cases more : checker.tokens.front = []
    · exact ⟨_, checker, more, passing, fun _ => rfl⟩
    · have onward : (checker.onto later).step goal = .ok pushed (next.onto later) :=
        passing.ready.step_onto more stepped
      obtain ⟨rfl, done⟩ | further := passing.step more stepped
      · have passed := passing.passed
        rw [run_of_step_ok stepped, done, run_nil] at passed
        obtain ⟨-, rfl⟩ := Outcome.ok.inj passed
        exact absurd ended more
      · obtain ⟨rest, middle, there, seam, same⟩ := ih further
        refine ⟨rest, middle, there, seam, fun back => ?_⟩
        rw [List.cons_append, run_of_step_ok onward, ← List.append_assoc]
        exact same back

/-- A run that comes to the end of its text in front of a production, and does not report the end,
goes on with the productions of a later text. -/
theorem run_onto (passing : Passing later final checker goals) (ended : final.tokens.front = [])
    (silent : ∀ token ∈ final.lastReported, token.kind ≠ .endOfInput) (back : List Goal) :
    final.depth = 0 ∧
      (checker.onto later).run (goals ++ back) = (final.onto later).run (.productions :: back) := by
  obtain ⟨rest, middle, there, seam, same⟩ := passing.exists_seam ended
  rw [same]
  obtain reported | ⟨nullable, rfl⟩ := seam.ready.run_of_ended there seam.passed
  · have last : middle.tokens.first.kind = .endOfInput := by
      rw [Tokens.first_of_ended there]
      rfl
    exact absurd last (silent _ reported)
  · obtain rfl | ⟨first, rfl⟩ := seam.framed.of_nullable nullable
    · exact ⟨seam.ready.depth_eq, rfl⟩
    · have apart : (final.onto later).tokens.first ≠ first := by
        rintro rfl
        exact seam.joint.unpassed rfl
      refine ⟨seam.ready.depth_eq, ?_⟩
      rw [List.cons_append, run_of_step_ok (step_of_expands (.progress apart))]
      rfl

end Passing

end Checker

/-- Checkers over one text keep in step, where the first has reported something before. -/
def Lockstep.behind (earlier : List Diagnostic) (whole : Tokens) :
    Lockstep Tokens Tokens Collector Collector where
  tokens first second := first = second ∧ first ∈ whole.toList
  offers left right := left = right ∧ left.toList ⊆ whole.toList
  shows left right := left = right ∧ left.toList ⊆ whole.toList
  receivers collector _ collector' _ := collector.limit? = none ∧ collector'.limit? = none ∧
    collector.diagnostics = earlier ++ collector'.diagnostics
  halted _ _ _ _ _ := False
  corresponds := ⟨fun same => Corresponds.eq.kind_eq same.1,
    fun same same' => Corresponds.eq.eq_iff same.1 same'.1⟩
  offers_of_shows := id
  note _ same := same
  peek {left right _ _ _ _} same _ := by
    obtain ⟨rfl, inside⟩ := same
    have first := List.mem_of_mem_head? left.head?_toList
    exact .ok ⟨rfl, inside first⟩ ⟨rfl, inside⟩
  drop {left right _ _ _ _} same _ := by
    obtain ⟨rfl, inside⟩ := same
    refine .ok rfl ⟨rfl, ?_⟩
    rw [Tokens.toList_rest]
    split
    · exact inside
    · exact fun token member => inside (List.mem_of_mem_tail member)
  receive {collector _ collector' _ diagnostic diagnostic'} _ same alike := by
    obtain ⟨unlimited, unlimited', together⟩ := same
    obtain rfl : diagnostic = diagnostic' := (alike.imp And.left).eq
    rw [Collector.receive_of_unlimited unlimited, Collector.receive_of_unlimited unlimited']
    refine .ok rfl ⟨unlimited, unlimited', ?_⟩
    rw [together, List.append_assoc]
  kept := .never

section Check

variable {position position' : Position} {text text' : List Char} {tokens later : Tokens}
  {final : Checker Tokens Collector}

/-- Behind a line feed a text has the tokens that it has where its first line has the number of that
line. -/
theorem Lexed.join {name first second : String}
    (lexed : Lexed ⟨name, 1, 1⟩ first.toList tokens)
    (lexed' : Lexed ⟨name, (Chars.logical (first ++ "\n").toList).countP Chars.isLineEnd + 1, 1⟩
      second.toList later) :
    Lexed ⟨name, 1, 1⟩ (first ++ "\n" ++ second).toList (tokens.join later) := by
  have text : (first ++ "\n" ++ second).toList = first.toList ++ '\n' :: second.toList := by
    rw [String.toList_append, String.toList_append, List.append_assoc]
    rfl
  have there : Position.after ⟨name, 1, 1⟩ (first.toList ++ ['\n']) =
      ⟨name, (Chars.logical (first ++ "\n").toList).countP Chars.isLineEnd + 1, 1⟩ := by
    rw [Position.after_feed, Nat.add_comm, ← String.toList_singleton, ← String.toList_append]
    rfl
  rw [text]
  rw [← there] at lexed'
  exact lexed.append_feed lexed'

/-- A check that comes to the end of its text without reporting it is in front of a production
there, and has last reported a token of the text, if any. -/
private theorem Lexed.exists_quiet_end (lexed : Lexed position text tokens)
    (passed : Checker.check .text ⟨tokens, ({} : Collector), none, 0, 0⟩ = .ok () final)
    (ended : final.tokens.first.kind = .endOfInput)
    (silent : ∀ diagnostic ∈ final.receiver.diagnostics, diagnostic.found.kind ≠ .endOfInput) :
    ∃ middle : Checker Tokens Collector,
      Checker.run [.productions] ⟨tokens, ({} : Collector), none, 0, 0⟩ = .ok () middle ∧
      middle.tokens.front = [] ∧ middle.receiver = final.receiver ∧
      middle.receiver.limit? = none ∧
      ∀ token ∈ middle.lastReported, token.kind ≠ .endOfInput ∧ token ∈ tokens.front := by
  obtain ⟨middle, produced, last⟩ := Checker.exists_productions passed
  obtain ⟨ready, -⟩ := (lexed.ready ({} : Collector)).run produced
  obtain ⟨same, -⟩ := ready.run_end last
  rw [same] at ended
  have fits : Takes middle.tokens.first (.oneOf [.endOfInput]) [] :=
    .oneOf (List.mem_singleton.mpr ended)
  have depth : middle.depth = openGroups [.oneOf [.endOfInput]] := ready.depth_eq
  rw [Checker.run_of_step_ok (Checker.step_of_takes fits depth (Nat.zero_le _)), List.append_nil,
    Checker.run_nil] at last
  obtain ⟨-, rfl⟩ := Outcome.ok.inj last
  have recorded : Recorded tokens.toList ({} : Collector) _ _ (Checker.run [.productions]
      (⟨tokens, ({} : Collector), none, 0, 0⟩ : Checker Tokens Collector)).state :=
    (Recorded.start tokens _).run (Collector.unfailing rfl) lexed.nodup
  rw [produced, Outcome.state_ok] at recorded
  have collected := recorded.receiver_eq.trans (Collector.deliver_eq rfl _)
  refine ⟨middle, produced, Tokens.front_of_endOfInput ready.running ended, rfl,
    congrArg Collector.limit? collected, fun token reported => ?_⟩
  rw [recorded.lastReported_eq] at reported
  have member := List.mem_of_getLast? reported
  have inside := recorded.sublist.subset member
  obtain ⟨diagnostic, among, rfl⟩ := List.mem_map.mp member
  have notEnd : diagnostic.found.kind ≠ .endOfInput := by
    apply silent
    rw [collected]
    exact List.mem_append_right _ among
  refine ⟨notEnd, (List.mem_append.mp inside).resolve_right fun last => notEnd ?_⟩
  rw [List.mem_singleton.mp last]
  rfl

/-- The diagnostics of a text that comes to its end stand in front of those of the text behind. -/
theorem Lexed.check_join (lexed : Lexed position text tokens)
    (joined : Lexed position' text' (tokens.join later))
    (passed : Checker.check .text ⟨tokens, ({} : Collector), none, 0, 0⟩ = .ok () final)
    (ended : final.tokens.first.kind = .endOfInput)
    (silent : ∀ diagnostic ∈ final.receiver.diagnostics, diagnostic.found.kind ≠ .endOfInput) :
    let whole := Checker.check .text ⟨tokens.join later, ({} : Collector), none, 0, 0⟩
    let alone := Checker.check .text ⟨later, ({} : Collector), none, 0, 0⟩
    whole.result = alone.result ∧ whole.state.receiver.diagnostics =
      final.receiver.diagnostics ++ alone.state.receiver.diagnostics := by
  intro whole alone
  obtain ⟨middle, produced, there, same, unlimited, quiet⟩ :=
    lexed.exists_quiet_end passed ended silent
  have passing :
      Checker.Passing later middle ⟨tokens, ({} : Collector), none, 0, 0⟩ [.productions] :=
    ⟨lexed.ready _, joined.ready _, .outside, produced⟩
  obtain ⟨depth, seam⟩ :=
    passing.run_onto there (fun token reported => (quiet token reported).1) [.oneOf [.endOfInput]]
  rw [Checker.onto_of_ended there] at seam
  have start : (Lockstep.behind middle.receiver.diagnostics later).Relates
      (fun left right => left = right ∧ left.toList ⊆ later.toList)
      { middle with tokens := later } ⟨later, ({} : Collector), none, 0, 0⟩ := by
    refine ⟨⟨rfl, fun _ => id⟩, ⟨unlimited, rfl, (List.append_nil _).symm⟩, ?_, depth⟩
    rintro token _ ⟨rfl, inside⟩
    refine iff_of_false (fun reported => ?_) (Option.some_ne_none _).symm
    have apart : (tokens.front ++ later.toList).Nodup := by
      have apart := joined.nodup
      rwa [Tokens.toList_join] at apart
    exact (List.nodup_append.mp apart).2.2 _ (quiet token reported).2 _ inside rfl
  have together := start.check .text
  have whole_eq : whole = Checker.check .text { middle with tokens := later } := seam
  dsimp only [alone]
  rw [whole_eq, ← same]
  generalize Checker.check .text { middle with tokens := later } = left at together
  generalize Checker.check .text (⟨later, ({} : Collector), none, 0, 0⟩ : Checker ..) = right
    at together
  cases together with
  | ok _ relates => exact ⟨rfl, relates.receivers.2.2⟩
  | error alike relates =>
    exact ⟨congrArg Except.error (alike.imp And.left).eq, relates.receivers.2.2⟩
  | halt stopped => exact stopped.elim

end Check

section Release

variable {σ ρ : Type} [CharStream σ]

/-- A released lexer shows nothing but a lookahead that it held before. -/
private theorem Lexer.peek_of_released {lexer next : Lexer σ} {event : Event} {token : Token}
    (shown : (lexer.release.note event).peek = .ok token next) :
    lexer.peek = .ok token lexer := by
  obtain ⟨cursor, _ | held, finished⟩ := lexer
  · have released : (cursor.release.note event).released = true := by
      unfold Cursor.release
      split
      · assumption
      · rfl
    have closed : Lexer.drop ⟨cursor.release.note event, none, finished⟩ = .error .closed _ :=
      if_pos released
    change Lexer.peek ⟨cursor.release.note event, none, finished⟩ = _ at shown
    simp only [peek, closed] at shown
    contradiction
  · obtain ⟨rfl, -⟩ := Outcome.ok.inj shown
    rfl

/-- A check that comes through has run through, with the same lookahead and receiver. -/
private theorem exists_run_of_check [Receiver ρ] {source : σ} {name : String} {receiver : ρ}
    {count : Nat}
    {checker : Checker (Lexer σ) ρ} (checked : check source name receiver = .ok count checker) :
    ∃ last, checkRun source name receiver = .ok () last ∧ checker.receiver = last.receiver ∧
      ∀ token, checker.lookahead? = some token → last.lookahead? = some token := by
  obtain ⟨_, last, ran, final⟩ := Outcome.andThen_eq_ok_iff.mp checked
  obtain ⟨-, rfl⟩ := Outcome.ok.inj final
  refine ⟨last, ran, rfl, fun token shown => ?_⟩
  unfold Checker.lookahead? at shown ⊢
  split at shown
  · next token next peeked =>
    obtain rfl := Option.some.inj shown
    have held : TokenStream.peek last.tokens = _ := Lexer.peek_of_released peeked
    rw [held]
  · contradiction

end Release

/-- Where a check comes to the end of a text and reports nothing there, behind a line feed
everything goes on as in a check that starts at that line. -/
theorem productions_are_checked_apart {first name : String} {count : Nat}
    {checker : Checker (Lexer Text) Collector}
    (checked : check (Text.ofString first) name ({} : Collector) = .ok count checker)
    (ended : checker.lookahead?.map Token.kind = some .endOfInput)
    (silent : ∀ diagnostic ∈ checker.receiver.diagnostics, diagnostic.found.kind ≠ .endOfInput)
    (second : String) (column : Nat) :
    let lines := (Chars.logical (first ++ "\n").toList).countP Chars.isLineEnd
    let whole := (Checker.start (Text.ofString (first ++ "\n" ++ second)) name 0 0
      ({} : Collector)).check .text
    let alone := (Checker.start (Text.ofString second) name lines column
      ({} : Collector)).check .text
    whole.result = alone.result ∧ whole.state.receiver.diagnostics =
      checker.receiver.diagnostics ++ alone.state.receiver.diagnostics := by
  intro lines whole alone
  obtain ⟨last, ran, received, shows⟩ := exists_run_of_check checked
  obtain ⟨tokens, lexed, -, alike⟩ :=
    exists_run_alike (Text.serves_ofString first) name ({} : Collector)
  obtain ⟨later, lexed', -, alike'⟩ :=
    exists_start_alike (Text.serves_ofString second) name lines column ({} : Collector)
  obtain ⟨joined, lexed'', -, alike''⟩ :=
    exists_start_alike (Text.serves_ofString (first ++ "\n" ++ second)) name 0 0 ({} : Collector)
  rw [ran] at alike
  obtain ⟨final, passed, states⟩ := alike.exists_ok
  obtain rfl : joined = tokens.join later := (lexed.join lexed').unique lexed''
  rw [received] at silent ⊢
  rw [states.receiver_eq] at silent ⊢
  have reached : final.tokens.first.kind = .endOfInput := by
    obtain ⟨token, shown, kind⟩ := Option.map_eq_some_iff.mp ended
    have next : last.lookahead? = some final.tokens.first := states.lookahead?_eq Lexer.tracks
    rw [← kind, Option.some.inj (next.symm.trans (shows token shown))]
  obtain ⟨results, reports⟩ := lexed.check_join lexed'' passed reached silent
  have sameWhole : Outcome.Alike (Checker.Alike Lexer.Offers) whole _ :=
    Checker.alike_run Lexer.tracks alike''
  have sameAlone : Outcome.Alike (Checker.Alike Lexer.Offers) alone _ :=
    Checker.alike_run Lexer.tracks alike'
  refine ⟨sameWhole.result_eq.trans (results.trans sameAlone.result_eq.symm), ?_⟩
  rw [sameWhole.states.receiver_eq, sameAlone.states.receiver_eq]
  exact reports

theorem wrong_productions_are_checked_apart :
    let first := check (Text.ofString "S = | x .\r") "g" ({} : Collector)
    let lines := (Chars.logical ("S = | x .\r" ++ "\n").toList).countP Chars.isLineEnd
    let whole := (Checker.start (Text.ofString ("S = | x .\r" ++ "\n" ++ "T = ( y .")) "g" 0 0
      ({} : Collector)).check .text
    let alone := (Checker.start (Text.ofString "T = ( y .") "g" lines 0
      ({} : Collector)).check .text
    first = .ok 1 first.state ∧
      first.state.lookahead?.map Token.kind = some .endOfInput ∧
      first.state.receiver.diagnostics.map (·.found) = [⟨⟨"g", 1, 5⟩, .bar, "|"⟩] ∧
      lines = 1 ∧
      alone.state.receiver.diagnostics.map (·.found) = [⟨⟨"g", 2, 9⟩, .period, "."⟩] ∧
      whole.result = alone.result ∧ whole.state.receiver.diagnostics =
        first.state.receiver.diagnostics ++ alone.state.receiver.diagnostics := by
  intro first lines whole alone
  have checked : first = .ok 1 first.state := Outcome.eq_ok_of_result_eq (by decide +kernel)
  have ended : first.state.lookahead?.map Token.kind = some .endOfInput := by decide +kernel
  have silent : ∀ diagnostic ∈ first.state.receiver.diagnostics,
      diagnostic.found.kind ≠ .endOfInput := by decide +kernel
  refine ⟨checked, ended, by decide +kernel, by decide +kernel, by decide +kernel, ?_⟩
  exact productions_are_checked_apart checked ended silent _ _

end GrammarCheck
