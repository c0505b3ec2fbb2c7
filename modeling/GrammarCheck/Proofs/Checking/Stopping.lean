import GrammarCheck.Proofs.Checking.Reports

/-! # Where a check of a text stops

A token leaves the lookahead only by fitting a goal. So a check that comes through has taken the
whole text, or the token in front of which it stopped is the one that it reported last.
-/

namespace GrammarCheck

open Goal

variable {goal : Goal} {goals pushed : List Goal} {token : Token}

namespace Goal

theorem Expands.not_accepts (expands : goal.Expands token pushed) :
    token.kind ∉ goal.accepts := by
  cases expands with
  | production | definition | expression | term | progress _ => exact List.not_mem_nil
  | productions apart | alternatives apart => exact mt List.mem_singleton.mp apart
  | factors apart => exact apart

theorem Takes.accepts (takes : goal.Takes token pushed) : token.kind ∈ goal.accepts := by
  cases takes with
  | oneOf fits | factors fits | factor fits => exact fits
  | productions fits | alternatives fits | groupEnd fits => exact List.mem_singleton.mpr fits

private theorem Misfits.not_accepts (misfits : goal.Misfits token) : token.kind ∉ goal.accepts := by
  cases misfits with
  | oneOf apart | factor apart => exact apart
  | groupEnd apart => exact mt List.mem_singleton.mp apart

end Goal

namespace Stage

variable {ρ : Type} {stage : Stage Tokens ρ}

theorem taken?_of_accepts (fits : stage.checker.tokens.first.kind ∈ stage.goal.accepts) :
    stage.taken? = some stage.checker.tokens.first :=
  Option.filter_some_pos (decide_eq_true fits)

theorem taken?_of_not_accepts (apart : stage.checker.tokens.first.kind ∉ stage.goal.accepts) :
    stage.taken? = none :=
  Option.filter_some_neg (by simpa using apart)

end Stage

namespace Checker

variable {ρ : Type} [Receiver ρ] {checker next : Checker Tokens ρ}

/-- A token that was reported, now or before, is still the lookahead. -/
theorem of_reject_ok {found : Token} {expected : List Token.Kind}
    (rejected : checker.reject found expected = .ok () next) :
    next.tokens = checker.tokens ∧ next.depth = checker.depth ∧ next.lastReported = some found := by
  unfold reject at rejected
  split at rejected
  · next known =>
    cases rejected
    exact ⟨rfl, rfl, known⟩
  · obtain ⟨receiver, -, rfl⟩ := Outcome.lift_eq_ok_iff.mp rejected
    exact ⟨rfl, rfl, rfl⟩

namespace Ready

/-- What a step of a check within its text can do. -/
theorem step_cases (ready : checker.Ready (goal :: goals))
    (stepped : checker.step goal = .ok pushed next) :
    (goal.Expands checker.tokens.first pushed ∧ next = checker) ∨
      (goal.Takes checker.tokens.first pushed ∧
        openGroups pushed ≤ nestingLimit - openGroups goals ∧
        next = { checker with
          tokens := checker.tokens.rest, depth := openGroups (pushed ++ goals) }) ∨
      (goal.Misfits checker.tokens.first ∧ pushed = [] ∧
        { checker with depth := openGroups goals }.reject checker.tokens.first goal.firsts =
          .ok () next) := by
  obtain ⟨pushed', expands⟩ | ⟨pushed', takes⟩ | misfits :=
    reacts checker.tokens.first goal ready.unpassed
  · obtain ⟨rfl, rfl⟩ := Outcome.ok.inj ((step_of_expands expands).symm.trans stepped)
    exact .inl ⟨expands, rfl⟩
  · by_cases room : openGroups pushed' ≤ nestingLimit - openGroups goals
    · have advanced := step_of_takes takes ready.depth_eq room
      obtain ⟨rfl, rfl⟩ := Outcome.ok.inj (advanced.symm.trans stepped)
      exact .inr (.inl ⟨takes, room, rfl⟩)
    · rw [step_of_full takes ready.depth_eq room] at stepped
      contradiction
  · rw [step_of_misfits misfits ready.depth_eq] at stepped
    obtain ⟨_, rejected, rfl⟩ := Outcome.map_eq_ok_iff.mp stepped
    exact .inr (.inr ⟨misfits, rfl, rejected⟩)

/-- A goal that was let down is given up, and all else is as before. -/
private theorem giveUp (ready : checker.Ready (goal :: goals)) {found : Token}
    {expected : List Token.Kind}
    (rejected : { checker with depth := openGroups goals }.reject found expected = .ok () next) :
    next.Ready goals := by
  obtain ⟨tokens, depth, -⟩ := of_reject_ok rejected
  dsimp only at tokens depth
  refine ⟨fun other member => ready.inner other (List.mem_cons_of_mem _ member), depth, ?_, ?_,
    fun first member => ?_⟩
  · rw [tokens]
    exact ready.running
  · rw [tokens]
    exact ready.apart
  · rw [tokens]
    exact ready.fresh first (List.mem_cons_of_mem _ member)

theorem step (ready : checker.Ready (goal :: goals))
    (stepped : checker.step goal = .ok pushed next) : next.Ready (pushed ++ goals) := by
  obtain ⟨expands, rfl⟩ | ⟨takes, -, rfl⟩ | ⟨misfits, rfl, rejected⟩ := ready.step_cases stepped
  · exact ready.expand expands
  · exact ready.take takes
  · exact ready.giveUp rejected

/-- A run that comes through passes just the tokens that fitted its goals. -/
theorem run (ready : checker.Ready goals) (passed : checker.run goals = .ok () next) :
    next.Ready [] ∧ checker.tokens.toList =
      (checker.stages goals).filterMap Stage.taken? ++ next.tokens.toList := by
  induction goals, checker using run.induct with
  | case1 checker =>
    rw [run_nil] at passed
    cases passed
    rw [stages_nil]
    exact ⟨ready, rfl⟩
  | case2 checker goal goals failure next failed =>
    rw [run_of_step_error failed] at passed
    contradiction
  | case3 checker goal goals pushed middle stepped ih =>
    rw [run_of_step_ok stepped] at passed
    rw [stages_of_step_ok stepped, List.filterMap_cons]
    obtain ⟨ended, others⟩ := ih (ready.step stepped) passed
    refine ⟨ended, ?_⟩
    obtain ⟨expands, rfl⟩ | ⟨takes, -, rfl⟩ | ⟨misfits, rfl, rejected⟩ := ready.step_cases stepped
    · rw [Stage.taken?_of_not_accepts expands.not_accepts]
      exact others
    · rw [Stage.taken?_of_accepts takes.accepts, ready.toList_eq takes]
      exact congrArg _ others
    · obtain ⟨same, -⟩ := of_reject_ok rejected
      dsimp only at same
      rw [Stage.taken?_of_not_accepts misfits.not_accepts, ← same]
      exact others

/-- With all else done, the goal for the end of the text takes it or reports what stands there. -/
theorem run_end (ready : checker.Ready [])
    (passed : checker.run [.oneOf [.endOfInput]] = .ok () next) :
    next.tokens = checker.tokens ∧
      (checker.tokens.toList = [checker.tokens.first] ∧ checker.tokens.first.kind = .endOfInput ∧
          (checker.stages [.oneOf [.endOfInput]]).filterMap Stage.taken? =
            [checker.tokens.first] ∨
        next.lastReported = some checker.tokens.first ∧
          (checker.stages [.oneOf [.endOfInput]]).filterMap Stage.taken? = []) := by
  have depth : checker.depth = openGroups [.oneOf [.endOfInput]] := ready.depth_eq
  obtain ⟨pushed, after, stepped, further⟩ := exists_step_of_run_ok passed
  rw [stages_of_step_ok stepped, List.append_nil]
  rw [List.append_nil] at further
  by_cases ended : checker.tokens.first.kind = .endOfInput
  · have fits : Takes checker.tokens.first (.oneOf [.endOfInput]) [] :=
      .oneOf (List.mem_singleton.mpr ended)
    obtain ⟨rfl, rfl⟩ := Outcome.ok.inj
      ((step_of_takes fits depth (Nat.zero_le _)).symm.trans stepped)
    rw [run_nil] at further
    obtain ⟨-, rfl⟩ := Outcome.ok.inj further
    rw [stages_nil, List.filterMap_cons_some (Stage.taken?_of_accepts fits.accepts),
      List.filterMap_nil]
    refine ⟨Tokens.rest_of_endOfInput ready.running ended, .inl ⟨?_, ended, rfl⟩⟩
    exact Tokens.toList_of_endOfInput ready.running ended
  · have misfits : Misfits checker.tokens.first (.oneOf [.endOfInput]) :=
      .oneOf (mt List.mem_singleton.mp ended)
    rw [step_of_misfits misfits depth] at stepped
    obtain ⟨_, rejected, rfl⟩ := Outcome.map_eq_ok_iff.mp stepped
    obtain ⟨same, -, known⟩ := of_reject_ok rejected
    rw [run_nil] at further
    obtain ⟨-, rfl⟩ := Outcome.ok.inj further
    rw [stages_nil, List.filterMap_cons_none (Stage.taken?_of_not_accepts misfits.not_accepts),
      List.filterMap_nil]
    exact ⟨same, .inr ⟨known, rfl⟩⟩

end Ready

end Checker

section Check

variable {ρ : Type} [Receiver ρ] {receiver : ρ}

/-- A check of a text checks productions, and then that the text ends. -/
theorem Checker.exists_productions {checker final : Checker Tokens ρ}
    (passed : checker.check .text = .ok () final) :
    ∃ middle, checker.run [.productions] = .ok () middle ∧
      middle.run [.oneOf [.endOfInput]] = .ok () final := by
  have whole : checker.run ([.productions] ++ [.oneOf [.endOfInput]]) = .ok () final := passed
  rw [Checker.run_append rfl] at whole
  obtain ⟨_, middle, produced, last⟩ := Outcome.andThen_eq_ok_iff.mp whole
  exact ⟨middle, produced, last⟩

/-- A check that comes through has taken all tokens, or the one reported last stands right behind
those that it took. -/
theorem Lexed.stops {position : Position} {text : List Char} {tokens : Tokens}
    {checker : Checker Tokens ρ} (lexed : Lexed position text tokens)
    (passed : Checker.check .text ⟨tokens, receiver, none, 0, 0⟩ = .ok () checker) :
    let stages := Checker.stages Nonterminal.text.goals
      (⟨tokens, receiver, none, 0, 0⟩ : Checker Tokens ρ)
    checker.tokens.first.kind = .endOfInput ∧
        tokens.toList.getLast? = some checker.tokens.first ∧
        tokens.toList = stages.filterMap Stage.taken? ∨
      checker.lastReported = some checker.tokens.first ∧
        tokens.toList = stages.filterMap Stage.taken? ++ checker.tokens.toList := by
  intro stages
  obtain ⟨middle, produced, last⟩ := Checker.exists_productions passed
  obtain ⟨ready, split⟩ := (lexed.ready receiver).run produced
  have halves : stages = _ := Checker.stages_append [.oneOf [.endOfInput]] produced
  rw [halves, List.filterMap_append]
  change tokens.toList = _ at split
  obtain ⟨same, ⟨alone, ended, taken⟩ | ⟨known, taken⟩⟩ := ready.run_end last
  · rw [same, taken, split, alone]
    exact .inl ⟨ended, List.getLast?_concat .., rfl⟩
  · rw [same, taken, List.append_nil]
    exact .inr ⟨known, split⟩

/-- A check of a text that comes through has taken the whole text, or the token that is next is
the one in the last diagnostic. -/
theorem check_stops_at_the_end_or_at_its_last_report (text name : String) (line column : Nat)
    (unfailing : Receiver.Unfailing receiver) {checker : Checker (Lexer Text) ρ}
    (passed : (Checker.start (Text.ofString text) name line column receiver).check .text =
      .ok () checker) :
    let stages := (Checker.start (Text.ofString text) name line column receiver).stages
      Nonterminal.text.goals
    let taken := stages.filterMap Stage.taken?
    let reported := stages.filterMap Stage.reported?
    ∃ (tokens : List Token) (lookahead : Token),
      (Lexer.start (Text.ofString text) name line column).toList.1 = tokens.map .ok ∧
      checker.receiver = Receiver.deliver reported receiver ∧
      checker.lookahead? = some lookahead ∧
      (lookahead.kind = .endOfInput ∧ tokens.getLast? = some lookahead ∧ tokens = taken ∨
        ∃ last behind, reported.getLast? = some last ∧ last.found = lookahead ∧
          tokens = taken ++ lookahead :: behind) := by
  intro stages taken reported
  obtain ⟨tokens, lexed, listed, alike, recorded⟩ :=
    exists_recorded (Text.serves_ofString text) name line column unfailing [.text]
  have ran : Outcome.Alike (Checker.Alike Lexer.Offers)
      ((Checker.start (Text.ofString text) name line column receiver).check .text)
      (Checker.check .text ⟨tokens, receiver, none, 0, 0⟩) := Checker.alike_run Lexer.tracks alike
  rw [passed] at ran
  obtain ⟨listing, passed', states⟩ := ran.exists_ok
  have sameTaken : taken = _ := Stage.filterMap_eq_of_alike
    (Checker.taken?_eq_of_alike Lexer.tracks) (Checker.alike_stages Lexer.tracks alike)
  rw [Checker.stagesOfEach, Checker.stagesOfEach, List.append_nil, Checker.checkEach,
    Checker.checkEach, passed', Outcome.state_ok] at recorded
  have lookahead : checker.lookahead? = some listing.tokens.first :=
    states.lookahead?_eq Lexer.tracks
  refine ⟨tokens.toList, listing.tokens.first, listed,
    states.receiver_eq.trans recorded.receiver_eq, lookahead, ?_⟩
  rw [sameTaken]
  obtain stopped | ⟨known, split⟩ := lexed.stops passed'
  · exact .inl stopped
  · rw [recorded.lastReported_eq, List.getLast?_map, Option.map_eq_some_iff] at known
    obtain ⟨last, final, found⟩ := known
    obtain ⟨behind, ahead⟩ := List.head?_eq_some_iff.mp listing.tokens.head?_toList
    rw [ahead] at split
    exact .inr ⟨last, behind, final, found, split⟩

theorem check_stops_at_a_misplaced_token :
    let start := Checker.start (Text.ofString "S = x ;\nT = y .") "g" 0 0 ({} : Collector)
    let stages := start.stages Nonterminal.text.goals
    let taken := stages.filterMap Stage.taken?
    let reported := stages.filterMap Stage.reported?
    let found : Token := ⟨⟨"g", 1, 7⟩, .unknown, ";"⟩
    Receiver.Unfailing ({} : Collector) ∧
      start.check .text = .ok () (start.check .text).state ∧
      reported = [⟨found, [.period]⟩] ∧
      ∃ (tokens : List Token) (lookahead : Token),
        (Lexer.start (Text.ofString "S = x ;\nT = y .") "g" 0 0).toList.1 = tokens.map .ok ∧
        (start.check .text).state.receiver = Receiver.deliver reported {} ∧
        (start.check .text).state.lookahead? = some lookahead ∧
        (lookahead.kind = .endOfInput ∧ tokens.getLast? = some lookahead ∧ tokens = taken ∨
          ∃ last behind, reported.getLast? = some last ∧ last.found = lookahead ∧
            tokens = taken ++ lookahead :: behind) := by
  intro start stages taken reported found
  have passed : start.check .text = .ok () (start.check .text).state :=
    Outcome.eq_ok_of_result_eq (by decide +kernel)
  refine ⟨Collector.unfailing rfl, passed, by decide +kernel, ?_⟩
  exact check_stops_at_the_end_or_at_its_last_report _ _ _ _ (Collector.unfailing rfl) passed

end Check

end GrammarCheck
