import GrammarCheck.Proofs.Checking.Stopping

/-! # Productions and their periods

A check of a text takes one production after the other, each from its name to its period. Whatever
was wrong within a production, its expression ends in front of a token that could not go on with it.
If that is not the period, then it is not a name either. So it is reported, and the check ends in
front of it.
-/

namespace GrammarCheck

open Goal

inductive Milestone where
  | begins (name : Token)
  | ends (period : Token)
  /-- Another token stands where the period should. -/
  | breaksOff (found : Token)
  deriving DecidableEq, Repr

def Milestone.ofWhole (production : Token × Token) : List Milestone :=
  [.begins production.1, .ends production.2]

/-- What the stage means for the production at hand. -/
def Stage.milestone? {τ ρ : Type} [TokenStream τ] (stage : Stage τ ρ) : Option Milestone :=
  match stage.goal with
  | .productions => stage.taken?.map .begins
  | .oneOf kinds =>
    if kinds = [.period] then
      match stage.taken? with
      | some period => some (.ends period)
      | none => stage.checker.lookahead?.map .breaksOff
    else none
  | _ => none

def Checker.milestones {τ ρ : Type} [TokenStream τ] [Receiver ρ] (goals : List Goal)
    (checker : Checker τ ρ) : List Milestone :=
  (checker.stages goals).filterMap Stage.milestone?

/-- The goal is for what stands between the name and the period of a production. -/
def Goal.isBody : Goal → Bool
  | oneOf kinds => kinds ≠ [.period]
  | expression | alternatives | term | factors | factor | groupEnd _ => true
  | productions | progress _ | production | definition => false

variable {ρ : Type}

private theorem Stage.milestone?_of_isBody {stage : Stage Tokens ρ}
    (body : stage.goal.isBody = true) :
    stage.milestone? = none := by
  obtain ⟨goal, checker⟩ := stage
  cases goal with
  | oneOf kinds => exact if_neg (of_decide_eq_true body)
  | productions => contradiction
  | _ => rfl

/-- A goal with one kind of token in its place takes a token of that kind and no other. -/
private theorem Stage.taken?_of_accepts_eq {stage : Stage Tokens ρ} {kind : Token.Kind}
    (only : stage.goal.accepts = [kind]) :
    stage.taken? =
      if stage.checker.tokens.first.kind = kind then some stage.checker.tokens.first else none := by
  split
  next fits => exact taken?_of_accepts (only ▸ List.mem_singleton.mpr fits)
  next apart => exact taken?_of_not_accepts (only ▸ mt List.mem_singleton.mp apart)

private theorem Stage.milestone?_of_period (checker : Checker Tokens ρ) :
    (⟨.oneOf [.period], checker⟩ : Stage Tokens ρ).milestone? =
      if checker.tokens.first.kind = .period then some (.ends checker.tokens.first)
      else some (.breaksOff checker.tokens.first) := by
  have taken : (⟨.oneOf [.period], checker⟩ : Stage Tokens ρ).taken? = _ := taken?_of_accepts_eq rfl
  rw [milestone?, taken]
  by_cases period : checker.tokens.first.kind = .period
  · rw [if_pos period, if_pos period]
    rfl
  · rw [if_neg period, if_neg period]
    rfl

private theorem Stage.milestone?_of_productions (checker : Checker Tokens ρ) :
    (⟨.productions, checker⟩ : Stage Tokens ρ).milestone? =
      if checker.tokens.first.kind = .identifier then some (.begins checker.tokens.first)
      else none := by
  have taken : (⟨.productions, checker⟩ : Stage Tokens ρ).taken? = _ := taken?_of_accepts_eq rfl
  rw [milestone?, taken]
  dsimp only
  split <;> rfl

private theorem Checker.milestone?_eq_of_alike {σ τ : Type} [TokenStream σ] [TokenStream τ]
    {offers shows : σ → τ → Prop} (tracks : TokenStream.Tracks offers shows) {stage : Stage σ ρ}
    {stage' : Stage τ ρ} (alike : stage.Alike offers stage') :
    stage.milestone? = stage'.milestone? := by
  rw [Stage.milestone?, Stage.milestone?, alike.goal_eq, Checker.taken?_eq_of_alike tracks alike,
    alike.checkers.lookahead?_eq tracks]

namespace Goal

variable {token : Token} {goal : Goal} {pushed : List Goal}

private theorem Expands.isBody (expands : goal.Expands token pushed) (body : goal.isBody = true) :
    ∀ other ∈ pushed, other.isBody = true := by
  cases expands with
  | production | definition | productions _ | progress _ => contradiction
  | expression | term => decide
  | alternatives _ | factors _ => exact List.forall_mem_nil _

private theorem isBody_factorGoals (kind : Token.Kind) :
    ∀ other ∈ kind.factorGoals, other.isBody = true := by
  obtain atom | ⟨bracket, group⟩ := kind.factorGoals_cases
  · rw [atom]
    exact List.forall_mem_nil _
  · simp [group, Goal.isBody]

private theorem Takes.isBody (takes : goal.Takes token pushed) (body : goal.isBody = true) :
    ∀ other ∈ pushed, other.isBody = true := by
  cases takes with
  | productions _ => contradiction
  | oneOf _ | groupEnd _ => exact List.forall_mem_nil _
  | alternatives _ => decide
  | factors _ => exact List.forall_mem_append.mpr ⟨isBody_factorGoals _, by decide⟩
  | factor _ => exact isBody_factorGoals _

end Goal

namespace Checker

variable [Receiver ρ] {checker next : Checker Tokens ρ} {goal : Goal}
  {goals before back pushed : List Goal}

private theorem milestones_nil : checker.milestones [] = [] := by
  rw [milestones, stages_nil]
  rfl

theorem milestones_of_step_ok (stepped : checker.step goal = .ok pushed next) :
    checker.milestones (goal :: goals) =
      (Stage.mk goal checker).milestone?.toList ++ next.milestones (pushed ++ goals) := by
  rw [milestones, stages_of_step_ok stepped, List.filterMap_cons]
  cases (Stage.mk goal checker).milestone? <;> rfl

/-- For a goal that wants one token nothing else has to be done. -/
theorem milestones_oneOf (kinds : List Token.Kind) :
    checker.milestones [.oneOf kinds] = (Stage.mk (.oneOf kinds) checker).milestone?.toList := by
  cases stepped : checker.step (.oneOf kinds) with
  | ok pushed next =>
    obtain ⟨_, -, rfl⟩ := Outcome.map_eq_ok_iff.mp stepped
    rw [milestones_of_step_ok stepped, List.append_nil, milestones_nil, List.append_nil]
  | error failure next =>
    rw [milestones, stages_of_step_error stepped]
    rfl

/-- Without a name in front no production is tried. -/
private theorem productions_of_not_name (apart : checker.tokens.first.kind ≠ .identifier)
    (passed : checker.run [.productions] = .ok () next) :
    checker.milestones [.productions] = [] ∧ next = checker := by
  have finished : Expands checker.tokens.first .productions [] := .productions apart
  rw [run_of_step_ok (step_of_expands finished), List.append_nil, run_nil] at passed
  rw [milestones_of_step_ok (step_of_expands finished), Stage.milestone?_of_productions,
    if_neg apart, List.append_nil, milestones_nil]
  exact ⟨rfl, (Outcome.ok.inj passed).2.symm⟩

namespace Ready

/-- Between its name and its period nothing becomes of a production. -/
private theorem milestones_of_isBody (ready : checker.Ready goals)
    (body : ∀ goal ∈ goals, goal.isBody = true) :
    checker.milestones goals = [] := by
  induction goals, checker using run.induct with
  | case1 checker =>
    rw [milestones, stages_nil]
    rfl
  | case2 checker goal goals failure next failed =>
    rw [milestones, stages_of_step_error failed,
      List.filterMap_cons_none (Stage.milestone?_of_isBody (List.forall_mem_cons.mp body).1)]
    rfl
  | case3 checker goal goals pushed next stepped ih =>
    obtain ⟨here, behind⟩ := List.forall_mem_cons.mp body
    rw [milestones, stages_of_step_ok stepped,
      List.filterMap_cons_none (Stage.milestone?_of_isBody here)]
    refine ih (ready.step stepped) (List.forall_mem_append.mpr ⟨?_, behind⟩)
    obtain ⟨expands, -⟩ | ⟨takes, -⟩ | ⟨-, rfl, -⟩ := ready.step_cases stepped
    · exact expands.isBody here
    · exact takes.isBody here
    · exact List.forall_mem_nil _

omit [Receiver ρ] in
theorem front (ready : checker.Ready (before ++ back)) (closed : openGroups back = 0) :
    checker.Ready before where
  inner goal member := ready.inner goal (List.mem_append_left _ member)
  depth_eq := by rw [ready.depth_eq, openGroups_append, closed, Nat.add_zero]
  running := ready.running
  apart := ready.apart
  fresh first member := ready.fresh first (List.mem_append_left _ member)

/-- A run on goals behind which no group is open comes first to the end of those in front. -/
theorem exists_halves (ready : checker.Ready (before ++ back)) (closed : openGroups back = 0)
    (passed : checker.run (before ++ back) = .ok () next) :
    ∃ middle, checker.run before = .ok () middle ∧ middle.Ready back ∧
      middle.run back = .ok () next ∧
      checker.milestones (before ++ back) = checker.milestones before ++ middle.milestones back := by
  rw [run_append closed] at passed
  obtain ⟨_, middle, first, last⟩ := Outcome.andThen_eq_ok_iff.mp passed
  obtain ⟨finished, split⟩ := (ready.front closed).run first
  have stages := congrArg (List.filterMap Stage.milestone?) (stages_append back first)
  refine ⟨middle, first, ?_, last, stages.trans List.filterMap_append⟩
  exact {
    inner := fun goal member => ready.inner goal (List.mem_append_right _ member)
    depth_eq := finished.depth_eq.trans closed.symm
    running := finished.running
    apart := finished.apart
    fresh := fun started member ahead => by
      refine ready.fresh started (List.mem_append_right _ member) ?_
      rw [split]
      exact List.mem_append_right _ ahead }

/-- A loop ends in front of a token that could not go on with it. A loop over alternatives looks for
the next bar only. -/
theorem not_goesOn_of_getLast? (ready : checker.Ready goals) (last : goals.getLast? = some goal)
    (notExpression : goal ≠ .expression) (notAlternatives : goal ≠ .alternatives)
    (passed : checker.run goals = .ok () next) : next.tokens.first.kind ∉ goal.goesOn := by
  induction goals, checker using run.induct generalizing goal with
  | case1 checker => contradiction
  | case2 checker goal goals failure next failed =>
    rw [run_of_step_error failed] at passed
    contradiction
  | case3 checker first goals pushed middle stepped ih =>
    have further := passed
    rw [run_of_step_ok stepped] at further
    have after := ready.step stepped
    cases goals with
    | cons second goals =>
      refine ih after ?_ notExpression notAlternatives further
      rw [List.getLast?_append_cons]
      exact (List.getLast?_cons_cons).symm.trans last
    | nil =>
      obtain rfl : first = goal := Option.some.inj last
      rw [List.append_nil] at ih after further
      obtain ⟨expands, rfl⟩ | ⟨takes, -, rfl⟩ | ⟨misfits, rfl, -⟩ := ready.step_cases stepped
      · cases expands with
        | production | definition | progress _ => exact List.not_mem_nil
        | expression | alternatives _ => contradiction
        | term =>
          have ended : next.tokens.first.kind ∉ factors.goesOn :=
            ih after rfl (by simp) (by simp) further
          exact ended
        | productions apart =>
          rw [run_nil] at further
          obtain ⟨-, rfl⟩ := Outcome.ok.inj further
          exact mt List.mem_singleton.mp apart
        | factors apart =>
          rw [run_nil] at further
          obtain ⟨-, rfl⟩ := Outcome.ok.inj further
          exact apart
      · cases takes with
        | oneOf _ | factor _ | groupEnd _ => exact List.not_mem_nil
        | alternatives _ => contradiction
        | productions _ => exact ih after rfl (by simp) (by simp) further
        | factors _ => exact ih after List.getLast?_concat (by simp) (by simp) further
      · cases misfits <;> exact List.not_mem_nil

/-- Alternatives end in front of a token that could not go on with them, if the term before them
does. -/
private theorem not_goesOn_alternatives (ready : checker.Ready [.alternatives])
    (ended : checker.tokens.first.kind ∉ Token.Kind.factorKinds)
    (passed : checker.run [.alternatives] = .ok () next) :
    next.tokens.first.kind ∉ Token.Kind.bar :: Token.Kind.factorKinds := by
  induction bound : checker.tokens.toList.length using Nat.strongRecOn generalizing checker with
  | ind length ih =>
  subst bound
  obtain ⟨pushed, after, stepped, further⟩ := exists_step_of_run_ok passed
  have readyAfter := ready.step stepped
  obtain ⟨expands, rfl⟩ | ⟨takes, -, rfl⟩ | ⟨misfits, -⟩ := ready.step_cases stepped
  · cases expands with
    | alternatives apart =>
      rw [List.append_nil, run_nil] at further
      obtain ⟨-, rfl⟩ := Outcome.ok.inj further
      exact List.not_mem_cons_of_ne_of_not_mem apart ended
  · have dropped := ready.toList_eq takes
    cases takes with
    | alternatives _ =>
      have halves : Ready _ ([.term] ++ [.alternatives]) := readyAfter
      obtain ⟨middle, first, readyMiddle, last, -⟩ := halves.exists_halves rfl further
      have behind := (halves.front rfl).not_goesOn_of_getLast? rfl (by simp) (by simp) first
      obtain ⟨-, split⟩ := (halves.front rfl).run first
      refine ih _ ?_ readyMiddle behind last rfl
      dsimp only at split
      rw [dropped, split, List.length_cons, List.length_append]
      omega
  · cases misfits

/-- Whatever was wrong within it, an expression ends in front of a token that could not go on with
it. -/
private theorem not_goesOn_expression (ready : checker.Ready [.expression])
    (passed : checker.run [.expression] = .ok () next) :
    next.tokens.first.kind ∉ Token.Kind.bar :: Token.Kind.factorKinds := by
  have halves : checker.Ready ([.term] ++ [.alternatives]) := ready.expand .expression
  rw [run_of_step_ok (step_of_expands .expression)] at passed
  obtain ⟨middle, first, readyMiddle, last, -⟩ := halves.exists_halves rfl passed
  have behind := (halves.front rfl).not_goesOn_of_getLast? rfl (by simp) (by simp) first
  exact readyMiddle.not_goesOn_alternatives behind last

/-- A goal for one token takes it, or reports what stands in its place and leaves it there. -/
private theorem run_oneOf {kinds : List Token.Kind} (ready : checker.Ready [.oneOf kinds])
    (passed : checker.run [.oneOf kinds] = .ok () next) :
    checker.tokens.first.kind ∈ kinds ∨
      checker.tokens.first.kind ∉ kinds ∧ next.tokens = checker.tokens ∧
        next.lastReported = some checker.tokens.first := by
  obtain ⟨pushed, after, stepped, further⟩ := exists_step_of_run_ok passed
  obtain ⟨expands, -⟩ | ⟨takes, -⟩ | ⟨misfits, rfl, rejected⟩ := ready.step_cases stepped
  · cases expands
  · cases takes with
    | oneOf fits => exact .inl fits
  · cases misfits with
    | oneOf apart =>
      obtain ⟨same, -, known⟩ := of_reject_ok rejected
      rw [List.append_nil, run_nil] at further
      obtain ⟨-, rfl⟩ := Outcome.ok.inj further
      exact .inr ⟨apart, same, known⟩

/-- A production behind its name comes to its period, or what stands there instead is reported and
could not have gone on with its expression. -/
theorem definition_cases (ready : checker.Ready [.definition])
    (passed : checker.run [.definition] = .ok () next) :
    (∃ period, period.kind = .period ∧ checker.milestones [.definition] = [.ends period]) ∨
      checker.milestones [.definition] = [.breaksOff next.tokens.first] ∧
        next.lastReported = some next.tokens.first ∧
        next.tokens.first.kind ∉ Token.Kind.period :: .bar :: Token.Kind.factorKinds := by
  have expands : Expands checker.tokens.first .definition _ := .definition
  have whole : checker.Ready ([.oneOf [.assign], .expression] ++ [.oneOf [.period]]) :=
    ready.expand expands
  have opened : checker.milestones [.definition] = _ :=
    milestones_of_step_ok (step_of_expands expands)
  rw [run_of_step_ok (step_of_expands expands)] at passed
  obtain ⟨middle, body, readyMiddle, last, halves⟩ := whole.exists_halves rfl passed
  have quiet := (whole.front rfl).milestones_of_isBody (by decide)
  rw [quiet, List.nil_append] at halves
  -- The expression is over, whatever became of it, in front of the token that decides.
  have parts : checker.Ready ([.oneOf [.assign]] ++ [.expression]) := whole.front rfl
  obtain ⟨inside, -, readyInside, expression, -⟩ := parts.exists_halves rfl body
  have ended := readyInside.not_goesOn_expression expression
  rw [opened.trans halves, milestones_oneOf, Stage.milestone?_of_period]
  obtain fits | ⟨apart, same, known⟩ := readyMiddle.run_oneOf last
  · have period := List.mem_singleton.mp fits
    rw [if_pos period]
    exact .inl ⟨middle.tokens.first, period, rfl⟩
  · have apart := mt List.mem_singleton.mpr apart
    rw [if_neg apart, same]
    exact .inr ⟨rfl, known, List.not_mem_cons_of_ne_of_not_mem apart ended⟩

/-- With a name in front a production is tried, and then the others behind it. -/
theorem exists_production (ready : checker.Ready [.productions])
    (named : checker.tokens.first.kind = .identifier)
    (passed : checker.run [.productions] = .ok () next) :
    ∃ start middle : Checker Tokens ρ, start.Ready [.definition] ∧
      start.run [.definition] = .ok () middle ∧ middle.Ready [.productions] ∧
      middle.run [.productions] = .ok () next ∧
      middle.tokens.toList.length < checker.tokens.toList.length ∧
      checker.milestones [.productions] =
        .begins checker.tokens.first ::
          (start.milestones [.definition] ++ middle.milestones [.productions]) := by
  have takes : Takes checker.tokens.first .productions _ := .productions named
  have taken := step_of_takes takes ready.depth_eq (Nat.zero_le _)
  have start : Ready _ ([.definition] ++ [.progress checker.tokens.first, .productions]) :=
    ready.take takes
  rw [run_of_step_ok taken] at passed
  obtain ⟨middle, first, readyMiddle, last, halves⟩ := start.exists_halves rfl passed
  -- The production has taken its name at least, so the loop goes on behind it.
  have apart : middle.tokens.first ≠ checker.tokens.first := fun same =>
    readyMiddle.unpassed (congrArg Goal.progress same.symm)
  have moved : Expands middle.tokens.first (.progress checker.tokens.first) [] := .progress apart
  rw [run_of_step_ok (step_of_expands moved)] at last
  rw [milestones_of_step_ok (step_of_expands moved)] at halves
  refine ⟨_, middle, start.front rfl, first, readyMiddle.expand moved, last, ?_, ?_⟩
  · obtain ⟨-, split⟩ := (start.front rfl).run first
    dsimp only at split
    rw [ready.toList_eq takes, split, List.length_cons, List.length_append]
    omega
  · rw [milestones_of_step_ok taken, Stage.milestone?_of_productions, if_pos named]
    exact congrArg (_ :: ·) halves

/-- Productions are whole up to the last one. If that breaks off, the run ends in front of the token
that was reported for it. -/
theorem productions_cases (ready : checker.Ready [.productions])
    (passed : checker.run [.productions] = .ok () next) :
    ∃ whole : List (Token × Token),
      (∀ production ∈ whole, production.1.kind = .identifier ∧ production.2.kind = .period) ∧
        (checker.milestones [.productions] = whole.flatMap Milestone.ofWhole ∨
          ∃ name, name.kind = .identifier ∧
            checker.milestones [.productions] =
              whole.flatMap Milestone.ofWhole ++ [.begins name, .breaksOff next.tokens.first] ∧
            next.lastReported = some next.tokens.first ∧
            next.tokens.first.kind ∉ Token.Kind.period :: .bar :: Token.Kind.factorKinds) := by
  induction bound : checker.tokens.toList.length using Nat.strongRecOn generalizing checker with
  | ind length ih =>
  subst bound
  by_cases named : checker.tokens.first.kind = .identifier
  · obtain ⟨start, middle, readyStart, first, readyMiddle, last, shorter, listed⟩ :=
      ready.exists_production named passed
    rw [listed]
    obtain ⟨period, isPeriod, ended⟩ | ⟨broken, known, stops⟩ := readyStart.definition_cases first
    · obtain ⟨whole, each, others⟩ := ih _ shorter readyMiddle last rfl
      refine ⟨(checker.tokens.first, period) :: whole,
        List.forall_mem_cons.mpr ⟨⟨named, isPeriod⟩, each⟩, ?_⟩
      rw [ended]
      obtain all | ⟨name, isName, brokenOff, reported⟩ := others
      · rw [all]
        exact .inl rfl
      · rw [brokenOff]
        exact .inr ⟨name, isName, rfl, reported⟩
    · have notName : middle.tokens.first.kind ≠ .identifier := by
        intro name
        rw [name] at stops
        exact stops (by decide)
      obtain ⟨quiet, rfl⟩ := productions_of_not_name notName last
      rw [broken, quiet]
      exact ⟨[], List.forall_mem_nil _, .inr ⟨_, named, rfl, known, stops⟩⟩
  · obtain ⟨quiet, -⟩ := productions_of_not_name named passed
    exact ⟨[], List.forall_mem_nil _, .inl quiet⟩

end Ready

end Checker

/-- Nothing becomes of a production behind the last one that is tried. -/
theorem Checker.milestones_text [Receiver ρ] {checker middle : Checker Tokens ρ}
    (produced : checker.run [.productions] = .ok () middle) :
    checker.milestones Nonterminal.text.goals = checker.milestones [.productions] := by
  have halves : checker.stages Nonterminal.text.goals = _ :=
    stages_append [.oneOf [.endOfInput]] produced
  have body : Goal.isBody (.oneOf [.endOfInput]) = true := by decide
  rw [milestones, halves, List.filterMap_append]
  change _ ++ middle.milestones [.oneOf [.endOfInput]] = _
  rw [milestones_oneOf, Stage.milestone?_of_isBody body]
  exact List.append_nil _

section Check

variable [Receiver ρ] {receiver : ρ}

/-- A token that was reported was reported once. -/
private theorem Recorded.length_filter_found {whole : List Token}
    {refused reported : List Diagnostic}
    {checker : Checker Tokens ρ} {token : Token}
    (recorded : Recorded whole receiver refused reported checker)
    (known : token ∈ reported.map Diagnostic.found) :
    (reported.filter (·.found = token)).length = 1 := by
  obtain ⟨diagnostic, member, found⟩ := List.mem_map.mp known
  have listed : diagnostic ∈ reported.filter (·.found = token) :=
    List.mem_filter.mpr ⟨member, decide_eq_true found⟩
  rw [recorded.firsts, Option.mem_toList] at listed
  rw [recorded.firsts, listed]
  rfl

/-- A check that comes through has tried productions that are whole, and stands in front of the end
or of a token that starts none. Or the last production has no period, and the check stands in front
of the token that was reported for it. -/
theorem Lexed.productions_cases {position : Position} {text : List Char} {tokens : Tokens}
    {checker : Checker Tokens ρ} (lexed : Lexed position text tokens)
    (unfailing : Receiver.Unfailing receiver)
    (passed : Checker.check .text ⟨tokens, receiver, none, 0, 0⟩ = .ok () checker) :
    let start : Checker Tokens ρ := ⟨tokens, receiver, none, 0, 0⟩
    let milestones := start.milestones Nonterminal.text.goals
    let lookahead := checker.tokens.first
    let reported := (start.stages Nonterminal.text.goals).filterMap Stage.reported?
    ∃ whole : List (Token × Token),
      (∀ production ∈ whole, production.1.kind = .identifier ∧ production.2.kind = .period) ∧
        (milestones = whole.flatMap Milestone.ofWhole ∧
            (lookahead.kind = .endOfInput ∨ lookahead.kind ≠ .identifier ∧
              (reported.filter (·.found = lookahead)).length = 1) ∨
          ∃ name, name.kind = .identifier ∧
            milestones = whole.flatMap Milestone.ofWhole ++ [.begins name, .breaksOff lookahead] ∧
            lookahead.kind ∉ Token.Kind.period :: .bar :: Token.Kind.factorKinds ∧
            (reported.filter (·.found = lookahead)).length = 1) := by
  intro start milestones lookahead reported
  obtain ⟨middle, produced, last⟩ := Checker.exists_productions passed
  have ready := lexed.ready receiver
  have notName := ready.not_goesOn_of_getLast? rfl (by simp) (by simp) produced
  obtain ⟨finished, -⟩ := ready.run produced
  obtain ⟨same, ending⟩ := finished.run_end last
  have listed : milestones = _ := Checker.milestones_text produced
  have begun := Recorded.start tokens receiver
  have recordedFirst : Recorded _ _ _ _ (start.run [.productions]).state :=
    begun.run unfailing lexed.nodup
  have recorded : Recorded _ _ _ _ (start.run Nonterminal.text.goals).state :=
    begun.run unfailing lexed.nodup
  have ran : start.run Nonterminal.text.goals = .ok () checker := passed
  rw [produced, List.nil_append, List.nil_append, Outcome.state_ok] at recordedFirst
  rw [ran, List.nil_append, List.nil_append, Outcome.state_ok] at recorded
  have here : lookahead = middle.tokens.first := congrArg Tokens.first same
  rw [listed, here]
  obtain ⟨whole, each, all | ⟨name, isName, brokenOff, known, stops⟩⟩ :=
    ready.productions_cases produced
  · refine ⟨whole, each, .inl ⟨all, ?_⟩⟩
    obtain ⟨-, ended, -⟩ | ⟨known, -⟩ := ending
    · exact .inl ended
    · rw [recorded.lastReported_eq] at known
      exact .inr ⟨mt List.mem_singleton.mpr notName,
        recorded.length_filter_found (List.mem_of_getLast? known)⟩
  · refine ⟨whole, each, .inr ⟨name, isName, brokenOff, stops, ?_⟩⟩
    rw [recordedFirst.lastReported_eq] at known
    -- What the productions report is among what the whole check reports.
    have halves : start.stages Nonterminal.text.goals = _ :=
      Checker.stages_append [.oneOf [.endOfInput]] produced
    apply recorded.length_filter_found
    change _ ∈ ((start.stages Nonterminal.text.goals).filterMap Stage.reported?).map _
    rw [halves, List.filterMap_append, List.map_append]
    exact List.mem_append_left _ (List.mem_of_getLast? known)

/-- Whatever text is checked, all its productions but the last one that is tried have their period.
If that one has none, nothing but a token that could not go on with its expression ends the check,
and this token is reported once. Else the check ends at the end of the text, or at a token that
starts no production and is reported once. -/
theorem only_the_last_production_can_lack_its_period (text name : String) (line column : Nat)
    (unfailing : Receiver.Unfailing receiver) {checker : Checker (Lexer Text) ρ}
    (passed : (Checker.start (Text.ofString text) name line column receiver).check .text =
      .ok () checker) :
    let start := Checker.start (Text.ofString text) name line column receiver
    let milestones := start.milestones Nonterminal.text.goals
    let reported := (start.stages Nonterminal.text.goals).filterMap Stage.reported?
    ∃ (whole : List (Token × Token)) (lookahead : Token),
      checker.lookahead? = some lookahead ∧
        checker.receiver = Receiver.deliver reported receiver ∧
        (∀ production ∈ whole, production.1.kind = .identifier ∧ production.2.kind = .period) ∧
        (milestones = whole.flatMap Milestone.ofWhole ∧
            (lookahead.kind = .endOfInput ∨ lookahead.kind ≠ .identifier ∧
              (reported.filter (·.found = lookahead)).length = 1) ∨
          ∃ name, name.kind = .identifier ∧
            milestones = whole.flatMap Milestone.ofWhole ++ [.begins name, .breaksOff lookahead] ∧
            lookahead.kind ∉ Token.Kind.period :: .bar :: Token.Kind.factorKinds ∧
            (reported.filter (·.found = lookahead)).length = 1) := by
  intro start milestones reported
  obtain ⟨tokens, lexed, -, alike, recorded⟩ :=
    exists_recorded (Text.serves_ofString text) name line column unfailing [.text]
  have ran : Outcome.Alike (Checker.Alike Lexer.Offers) (start.check .text)
      (Checker.check .text ⟨tokens, receiver, none, 0, 0⟩) := Checker.alike_run Lexer.tracks alike
  have passed' : start.check .text = .ok () checker := passed
  rw [passed'] at ran
  obtain ⟨listing, passed', states⟩ := ran.exists_ok
  have stages : List.Forall₂ (Stage.Alike Lexer.Offers) (start.stages Nonterminal.text.goals) _ :=
    Checker.alike_stages Lexer.tracks alike
  have sameMilestones : milestones = _ :=
    Stage.filterMap_eq_of_alike (Checker.milestone?_eq_of_alike Lexer.tracks) stages
  have sameReports : reported = _ :=
    Stage.filterMap_eq_of_alike (Checker.reported?_eq_of_alike Lexer.tracks) stages
  obtain ⟨whole, each, cases⟩ := lexed.productions_cases unfailing passed'
  rw [sameMilestones, sameReports]
  rw [Checker.stagesOfEach, Checker.stagesOfEach, List.append_nil, Checker.checkEach,
    Checker.checkEach, passed', Outcome.state_ok] at recorded
  have lookahead : checker.lookahead? = some listing.tokens.first :=
    states.lookahead?_eq Lexer.tracks
  refine ⟨whole, listing.tokens.first, lookahead, ?_, each, cases⟩
  rw [← sameReports]
  exact states.receiver_eq.trans recorded.receiver_eq

/-- The second production closes its group with the wrong bracket. Neither the group nor the
production nor the text can go on with it, and it is reported once. -/
theorem second_production_breaks_off :
    let text := "S = x.\nT = (y]\nU = z."
    let start := Checker.start (Text.ofString text) "g" 0 0 ({} : Collector)
    let milestones := start.milestones Nonterminal.text.goals
    let reported := (start.stages Nonterminal.text.goals).filterMap Stage.reported?
    let bracket : Token := ⟨⟨"g", 2, 7⟩, .closing .square, "]"⟩
    Receiver.Unfailing ({} : Collector) ∧
      start.check .text = .ok () (start.check .text).state ∧
      milestones = [.begins ⟨⟨"g", 1, 1⟩, .identifier, "S"⟩, .ends ⟨⟨"g", 1, 6⟩, .period, "."⟩,
        .begins ⟨⟨"g", 2, 1⟩, .identifier, "T"⟩, .breaksOff bracket] ∧
      reported = [⟨bracket, [.closing .paren]⟩] ∧
      ∃ (whole : List (Token × Token)) (lookahead : Token),
        (start.check .text).state.lookahead? = some lookahead ∧
          (start.check .text).state.receiver = Receiver.deliver reported {} ∧
          (∀ production ∈ whole, production.1.kind = .identifier ∧ production.2.kind = .period) ∧
          (milestones = whole.flatMap Milestone.ofWhole ∧
              (lookahead.kind = .endOfInput ∨ lookahead.kind ≠ .identifier ∧
                (reported.filter (·.found = lookahead)).length = 1) ∨
            ∃ name, name.kind = .identifier ∧
              milestones =
                whole.flatMap Milestone.ofWhole ++ [.begins name, .breaksOff lookahead] ∧
              lookahead.kind ∉ Token.Kind.period :: .bar :: Token.Kind.factorKinds ∧
              (reported.filter (·.found = lookahead)).length = 1) := by
  intro text start milestones reported bracket
  have passed : start.check .text = .ok () (start.check .text).state :=
    Outcome.eq_ok_of_result_eq (by decide +kernel)
  refine ⟨Collector.unfailing rfl, passed, by decide +kernel, by decide +kernel, ?_⟩
  exact only_the_last_production_can_lack_its_period _ _ _ _ (Collector.unfailing rfl) passed

end Check

end GrammarCheck
