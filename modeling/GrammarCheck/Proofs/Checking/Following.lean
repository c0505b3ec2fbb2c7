import GrammarCheck.Proofs.Checking.Course
import GrammarCheck.Proofs.Checking.Running
import GrammarCheck.Proofs.Tokens

/-! # A check follows its course

Over tokens in memory a step is what its goal does with the token ahead. So a run is silent as long
as the tokens fit, and it comes to its end, to a token that does not fit, or to a group too deep.
-/

namespace GrammarCheck

open Goal

/-- The goals go no further in silence with the token ahead. -/
inductive Stuck (ahead : Token) : List Goal → Prop
  | finished : Stuck ahead []
  | misfit {goal : Goal} {goals : List Goal} (misfits : goal.Misfits ahead) :
    Stuck ahead (goal :: goals)
  | tooDeep {goal : Goal} {goals pushed : List Goal} (takes : goal.Takes ahead pushed)
    (full : ¬ openGroups pushed ≤ nestingLimit - openGroups goals) : Stuck ahead (goal :: goals)

namespace Checker

variable {ρ : Type} {checker : Checker Tokens ρ} {goal : Goal} {goals pushed : List Goal}

private theorem enterFactor_of_room {token : Token} (behind : List Goal)
    (room : openGroups token.kind.factorGoals ≤ nestingLimit - checker.depth) :
    checker.enterFactor token behind = .ok (token.kind.factorGoals ++ behind) { checker with
      tokens := checker.tokens.rest
      depth := openGroups token.kind.factorGoals + checker.depth } := by
  rw [enterFactor]
  cases opens : token.kind.opens? with
  | none =>
    rw [Token.Kind.factorGoals_of_atom opens, openGroups, Nat.zero_add]
    rfl
  | some bracket =>
    rw [Token.Kind.factorGoals_of_opens opens] at room ⊢
    have spare : 1 ≤ nestingLimit - checker.depth := room
    rw [Nat.add_comm]
    exact if_neg (by omega)

private theorem enterFactor_of_full {token : Token} (behind : List Goal)
    (full : ¬ openGroups token.kind.factorGoals ≤ nestingLimit - checker.depth) :
    checker.enterFactor token behind =
      .error (.nestingTooDeep token.position nestingLimit) checker := by
  rw [enterFactor]
  cases opens : token.kind.opens? with
  | none =>
    rw [Token.Kind.factorGoals_of_atom opens] at full
    exact absurd (Nat.zero_le _) full
  | some bracket =>
    rw [Token.Kind.factorGoals_of_opens opens] at full
    have beyond : ¬ 1 ≤ nestingLimit - checker.depth := full
    exact if_pos (by omega)

variable [Receiver ρ]

theorem step_of_expands (expands : goal.Expands checker.tokens.first pushed) :
    checker.step goal = .ok pushed checker := by
  cases expands with
  | production | definition | expression | term => rfl
  | productions apart | progress apart | alternatives apart | factors apart => exact if_neg apart

/-- A goal drops a token that it takes. -/
theorem step_of_takes (takes : goal.Takes checker.tokens.first pushed)
    (depth : checker.depth = openGroups (goal :: goals))
    (room : openGroups pushed ≤ nestingLimit - openGroups goals) :
    checker.step goal = .ok pushed { checker with
      tokens := checker.tokens.rest, depth := openGroups (pushed ++ goals) } := by
  -- Only the end of a group changes the number of open groups and pushes none.
  obtain ⟨tokens, receiver, lastReported, reportCount, _⟩ := checker
  obtain rfl := depth
  cases takes with
  | oneOf fits => exact congrArg (Outcome.map _) (if_pos fits)
  | productions fits | alternatives fits => exact if_pos fits
  | factors fits =>
    rw [openGroups_append] at room
    rw [List.append_assoc, openGroups_append]
    exact (if_pos fits).trans (enterFactor_of_room _ room)
  | factor fits =>
    refine (if_pos fits).trans ((enterFactor_of_room [] room).trans ?_)
    rw [List.append_nil, openGroups_append]
    rfl
  | groupEnd fits => exact congrArg (Outcome.map _) (if_pos (List.mem_singleton.mpr fits))

/-- No goal drops a token that opens a group beyond the limit. -/
theorem step_of_full (takes : goal.Takes checker.tokens.first pushed)
    (depth : checker.depth = openGroups (goal :: goals))
    (full : ¬ openGroups pushed ≤ nestingLimit - openGroups goals) :
    checker.step goal =
      .error (.nestingTooDeep checker.tokens.first.position nestingLimit) checker := by
  cases takes with
  | oneOf _ | productions _ | alternatives _ | groupEnd _ => exact absurd (Nat.zero_le _) full
  | factors fits =>
    rw [openGroups_append] at full
    exact (if_pos fits).trans (enterFactor_of_full _ (by rwa [depth]))
  | factor fits => exact (if_pos fits).trans (enterFactor_of_full _ (by rwa [depth]))

/-- A goal reports a token that does not fit, and gives way. -/
theorem step_of_misfits (misfits : goal.Misfits checker.tokens.first)
    (depth : checker.depth = openGroups (goal :: goals)) : checker.step goal =
      ({ checker with depth := openGroups goals }.reject checker.tokens.first goal.firsts).map
        fun () => [] := by
  obtain ⟨tokens, receiver, lastReported, reportCount, _⟩ := checker
  obtain rfl := depth
  cases misfits with
  | oneOf apart => exact congrArg (Outcome.map _) (if_neg apart)
  | factor apart => exact if_neg apart
  | groupEnd apart => exact congrArg (Outcome.map _) (if_neg (mt List.mem_singleton.mp apart))

/-- A run in front of a token that does not fit hands over that token with the kinds that would have
fitted, and later nothing but further diagnostics. -/
theorem holds_run_of_misfits {P : ρ → Nat → Prop} (delivers : ∀ diagnostic receiver count,
      P receiver count → P (Receiver.receive diagnostic receiver).state (count + 1))
    (misfits : goal.Misfits checker.tokens.first)
    (depth : checker.depth = openGroups (goal :: goals)) (quiet : checker.lastReported = none)
    (first : P (Receiver.receive ⟨checker.tokens.first, goal.firsts⟩ checker.receiver).state
      (checker.reportCount + 1)) : (checker.run (goal :: goals)).state.Holds P := by
  have rejected : (checker.step goal).state.Holds P := by
    rw [step_of_misfits misfits depth, Outcome.state_map, reject, quiet,
      if_neg (Option.some_ne_none _).symm, Outcome.state_lift]
    exact first
  exact (kept_of_delivers delivers).ofRunCons rejected

/-- The goals are those of a check within its text, and the tokens that its productions started from
are behind it. -/
structure Ready (checker : Checker Tokens ρ) (goals : List Goal) : Prop where
  inner : ∀ goal ∈ goals, goal.Inner
  depth_eq : checker.depth = openGroups goals
  running : ∀ token ∈ checker.tokens.front, token.kind ≠ .endOfInput
  apart : checker.tokens.toList.Nodup
  fresh : ∀ first, .progress first ∈ goals → first ∉ checker.tokens.toList

namespace Ready

omit [Receiver ρ]

theorem expand (ready : checker.Ready (goal :: goals))
    (expands : goal.Expands checker.tokens.first pushed) : checker.Ready (pushed ++ goals) where
  inner := List.forall_mem_append.mpr
    ⟨expands.inner, fun other member => ready.inner other (List.mem_cons_of_mem _ member)⟩
  depth_eq := by
    obtain ⟨closed, closed'⟩ := expands.openGroups_eq
    rw [ready.depth_eq, ← List.singleton_append, openGroups_append, openGroups_append, closed,
      closed']
  running := ready.running
  apart := ready.apart
  fresh first member := by
    refine ready.fresh first (List.mem_cons_of_mem _ ?_)
    exact (List.mem_append.mp member).resolve_left (expands.progress_not_mem first)

/-- The goal is not to pass the token ahead. -/
theorem unpassed (ready : checker.Ready (goal :: goals)) :
    goal ≠ .progress checker.tokens.first := by
  rintro rfl
  refine ready.fresh _ (List.mem_cons_self ..) (List.mem_of_mem_head? ?_)
  exact checker.tokens.head?_toList

/-- A token that a goal takes does not end the text. -/
theorem toList_eq (ready : checker.Ready (goal :: goals))
    (takes : goal.Takes checker.tokens.first pushed) :
    checker.tokens.toList = checker.tokens.first :: checker.tokens.rest.toList := by
  apply Tokens.toList_of_ne_endOfInput
  intro ended
  have starts := takes.mem_firsts
  rw [ended] at starts
  exact (ready.inner goal (List.mem_cons_self ..)).1 starts

theorem take (ready : checker.Ready (goal :: goals))
    (takes : goal.Takes checker.tokens.first pushed) :
    Ready { checker with tokens := checker.tokens.rest, depth := openGroups (pushed ++ goals) }
      (pushed ++ goals) where
  inner := List.forall_mem_append.mpr
    ⟨takes.inner, fun other member => ready.inner other (List.mem_cons_of_mem _ member)⟩
  depth_eq := rfl
  running token member := ready.running token (List.mem_of_mem_tail member)
  apart := by
    have apart := ready.apart
    rw [ready.toList_eq takes] at apart
    exact (List.nodup_cons.mp apart).2
  fresh first member := by
    have apart := ready.apart
    have known := ready.fresh first
    rw [ready.toList_eq takes] at apart known
    obtain pushed | behind := List.mem_append.mp member
    · obtain rfl := takes.eq_of_progress_mem pushed
      exact (List.nodup_cons.mp apart).1
    · exact fun later => known (List.mem_cons_of_mem _ behind) (List.mem_cons_of_mem _ later)

end Ready

/-- A run on the goals takes the tokens `taken` in silence, and is stuck with the goals `target` in
front of `tokens`. -/
structure Follows (checker : Checker Tokens ρ) (goals : List Goal) (taken : List Token)
    (target : List Goal) (tokens : Tokens) : Prop where
  split : checker.tokens.toList = taken ++ tokens.toList
  course : Course tokens.first goals taken target
  stuck : Stuck tokens.first target
  ready : Ready { checker with tokens, depth := openGroups target } target
  run_eq : checker.run goals = { checker with tokens, depth := openGroups target }.run target

variable {taken : List Token} {target : List Goal} {tokens : Tokens}

private theorem Ready.follows (ready : checker.Ready goals)
    (stuck : Stuck checker.tokens.first goals) :
    checker.Follows goals [] goals checker.tokens where
  split := rfl
  course := .done goals
  stuck := stuck
  ready := by rwa [← ready.depth_eq]
  run_eq := by rw [← ready.depth_eq]

private theorem Follows.of_expands (follows : checker.Follows (pushed ++ goals) taken target tokens)
    (expands : goal.Expands checker.tokens.first pushed) :
    checker.Follows (goal :: goals) taken target tokens where
  split := follows.split
  course := .expand (by rwa [← Tokens.first_eq_headD follows.split]) follows.course
  stuck := follows.stuck
  ready := follows.ready
  run_eq := (run_of_step_ok (step_of_expands expands)).trans follows.run_eq

private theorem Follows.of_takes (ready : checker.Ready (goal :: goals))
    (takes : goal.Takes checker.tokens.first pushed)
    (room : openGroups pushed ≤ nestingLimit - openGroups goals)
    (follows : Follows { checker with
      tokens := checker.tokens.rest, depth := openGroups (pushed ++ goals) }
      (pushed ++ goals) taken target tokens) :
    checker.Follows (goal :: goals) (checker.tokens.first :: taken) target tokens where
  split := by rw [ready.toList_eq takes, List.cons_append, ← follows.split]
  course := .take takes room follows.course
  stuck := follows.stuck
  ready := follows.ready
  run_eq := (run_of_step_ok (step_of_takes takes ready.depth_eq room)).trans follows.run_eq

/-- A run follows a course until it is stuck. -/
theorem exists_follows (ready : checker.Ready goals) :
    ∃ taken target tokens, checker.Follows goals taken target tokens := by
  -- A step that fails is one too deep. A step that succeeds may still have reported its token.
  induction goals, checker using run.induct with
  | case1 checker => exact ⟨_, _, _, ready.follows .finished⟩
  | case2 checker goal goals failure next failed =>
    obtain ⟨pushed, expands⟩ | ⟨pushed, takes⟩ | misfits :=
      reacts checker.tokens.first goal ready.unpassed
    · rw [step_of_expands expands] at failed
      contradiction
    · refine ⟨_, _, _, ready.follows (.tooDeep takes fun room => ?_)⟩
      rw [step_of_takes takes ready.depth_eq room] at failed
      contradiction
    · exact ⟨_, _, _, ready.follows (.misfit misfits)⟩
  | case3 checker goal goals pushed next stepped ih =>
    obtain ⟨pushed', expands⟩ | ⟨pushed', takes⟩ | misfits :=
      reacts checker.tokens.first goal ready.unpassed
    · obtain ⟨rfl, rfl⟩ := Outcome.ok.inj ((step_of_expands expands).symm.trans stepped)
      obtain ⟨taken, target, tokens, follows⟩ := ih (ready.expand expands)
      exact ⟨taken, target, tokens, follows.of_expands expands⟩
    · by_cases room : openGroups pushed' ≤ nestingLimit - openGroups goals
      · have advanced := step_of_takes takes ready.depth_eq room
        obtain ⟨rfl, rfl⟩ := Outcome.ok.inj (advanced.symm.trans stepped)
        obtain ⟨taken, target, tokens, follows⟩ := ih (ready.take takes)
        exact ⟨_, target, tokens, .of_takes ready takes room follows⟩
      · exact ⟨_, _, _, ready.follows (.tooDeep takes room)⟩
    · exact ⟨_, _, _, ready.follows (.misfit misfits)⟩

end Checker

end GrammarCheck
