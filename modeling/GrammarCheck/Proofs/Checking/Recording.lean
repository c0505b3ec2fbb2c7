import GrammarCheck.Proofs.Checking.Stages
import GrammarCheck.Proofs.Receiving
import GrammarCheck.Proofs.Tokens

/-! # What a check has on record

Over tokens in memory the lookahead moves on and never back. So the tokens reported so far lie in
front of it or are the lookahead itself, in order, and the one reported last is all that has to be
remembered for no token to be reported twice.
-/

namespace GrammarCheck

open Receiver

section Sublists

variable {α : Type} {front passed : List α} {last : α}

/-- A part of the list that has its last element, which stands nowhere else, ends in it. -/
theorem getLast?_of_sublist_concat (part : front.Sublist (passed ++ [last]))
    (apart : last ∉ passed) (member : last ∈ front) : front.getLast? = some last := by
  obtain ⟨here, there, rfl, inPassed, inLast⟩ := List.sublist_append_iff.mp part
  obtain rfl | rfl := List.sublist_singleton.mp inLast
  · rw [List.append_nil] at member
    exact absurd (inPassed.subset member) apart
  · exact List.getLast?_concat ..

/-- A part of the list that does not have its last element is a part of the others. -/
theorem sublist_of_sublist_concat (part : front.Sublist (passed ++ [last]))
    (apart : last ∉ front) : front.Sublist passed := by
  obtain ⟨here, there, rfl, inPassed, inLast⟩ := List.sublist_append_iff.mp part
  obtain rfl | rfl := List.sublist_singleton.mp inLast
  · rwa [List.append_nil]
  · exact absurd (List.mem_append_right here (List.mem_singleton_self last)) apart

end Sublists

/-- Of the refusals of each token just the first was reported. -/
def FirstOfEach (refused reported : List Diagnostic) : Prop :=
  ∀ token, reported.filter (·.found = token) = (refused.find? (·.found = token)).toList

namespace FirstOfEach

variable {refused reported : List Diagnostic} {diagnostic : Diagnostic}

/-- A token that was reported may be refused again. -/
private theorem again (first : FirstOfEach refused reported)
    (known : diagnostic.found ∈ reported.map Diagnostic.found) :
    FirstOfEach (refused ++ [diagnostic]) reported := by
  intro token
  rw [first, List.find?_append]
  by_cases same : diagnostic.found = token
  · obtain ⟨other, member, found⟩ := List.mem_map.mp known
    have listed : other ∈ reported.filter (·.found = token) :=
      List.mem_filter.mpr ⟨member, decide_eq_true (found.trans same)⟩
    rw [first, Option.mem_toList] at listed
    rw [listed, Option.some_or]
  · rw [List.find?_singleton, decide_eq_false same, if_neg Bool.false_ne_true, Option.or_none]

/-- A token that was not reported has to be when it is refused. -/
private theorem anew (first : FirstOfEach refused reported)
    (unknown : diagnostic.found ∉ reported.map Diagnostic.found) :
    FirstOfEach (refused ++ [diagnostic]) (reported ++ [diagnostic]) := by
  intro token
  rw [List.filter_append, first, List.find?_append]
  by_cases same : diagnostic.found = token
  · have nothing : refused.find? (·.found = token) = none := by
      apply Option.eq_none_iff_forall_not_mem.mpr
      intro other member
      have kept := Option.mem_toList.mpr member
      rw [← first] at kept
      obtain ⟨listed, found⟩ := List.mem_filter.mp kept
      exact unknown (List.mem_map.mpr ⟨other, listed, (of_decide_eq_true found).trans same.symm⟩)
    simp [nothing, same]
  · simp [same]

end FirstOfEach

namespace Checker

variable {ρ : Type} {checker next : Checker Tokens ρ}

/-- Nothing was reported, and at most the lookahead was dropped. -/
structure Quiet (checker next : Checker Tokens ρ) : Prop where
  receiver_eq : next.receiver = checker.receiver
  lastReported_eq : next.lastReported = checker.lastReported
  reportCount_eq : next.reportCount = checker.reportCount
  tokens : next.tokens = checker.tokens ∨ next.tokens = checker.tokens.rest

private theorem quiet_drop : checker.Quiet checker.drop.state :=
  ⟨rfl, rfl, rfl, .inr rfl⟩

private theorem quiet_enterFactor (token : Token) (goals : List Goal) :
    checker.Quiet (checker.enterFactor token goals).state := by
  rw [enterFactor]
  split
  · exact quiet_drop
  · split
    · exact ⟨rfl, rfl, rfl, .inl rfl⟩
    · exact ⟨rfl, rfl, rfl, .inr rfl⟩

variable [Receiver ρ] {goal : Goal} {behind : List Goal}

/-- A step whose goal is not let down is quiet. -/
theorem quiet_step
    (fits : goal.insists = true → checker.tokens.first.kind ∈ goal.accepts) :
    checker.Quiet (checker.step goal).state := by
  have still : checker.Quiet checker := ⟨rfl, rfl, rfl, .inl rfl⟩
  cases goal with
  | production | definition | expression | term => exact still
  | oneOf kinds =>
    have taken : checker.step (.oneOf kinds) = checker.drop.map fun () => [] :=
      congrArg (Outcome.map _) (if_pos (fits rfl))
    rw [taken, Outcome.state_map]
    exact quiet_drop
  | groupEnd bracket =>
    have taken : checker.step (.groupEnd bracket) =
        ({ checker with depth := checker.depth - 1 } : Checker Tokens ρ).drop.map fun () => [] :=
      congrArg (Outcome.map _) (if_pos (fits rfl))
    rw [taken, Outcome.state_map]
    exact ⟨rfl, rfl, rfl, .inr rfl⟩
  | productions | alternatives =>
    rw [step]
    change checker.Quiet (Outcome.state (if _ then _ else _))
    split
    · exact quiet_drop
    · exact still
  | progress first =>
    change checker.Quiet (Outcome.state (if _ then _ else _))
    split
    · exact quiet_drop
    · exact still
  | factors =>
    change checker.Quiet (Outcome.state (if _ then _ else _))
    split
    · exact quiet_enterFactor ..
    · exact still
  | factor =>
    have taken : checker.step .factor = checker.enterFactor checker.tokens.first [] :=
      if_pos (fits rfl)
    rw [taken]
    exact quiet_enterFactor ..

/-- A goal that is let down reports the lookahead. -/
private theorem step_of_not_accepts (insists : goal.insists = true)
    (misfit : checker.tokens.first.kind ∉ goal.accepts) :
    ∃ depth, checker.step goal =
      ({ checker with depth }.reject checker.tokens.first goal.accepts).map fun () => [] := by
  cases goal with
  | oneOf kinds => exact ⟨_, congrArg (Outcome.map _) (if_neg misfit)⟩
  | groupEnd bracket => exact ⟨_, congrArg (Outcome.map _) (if_neg misfit)⟩
  | factor => exact ⟨_, if_neg misfit⟩
  | _ => contradiction

end Checker

namespace Stage

variable {ρ : Type} {stage : Stage Tokens ρ}

private theorem refused?_of_misfit (insists : stage.goal.insists = true)
    (misfit : stage.checker.tokens.first.kind ∉ stage.goal.accepts) :
    stage.refused? = some ⟨stage.checker.tokens.first, stage.goal.accepts⟩ := by
  have shown : stage.checker.lookahead? = some stage.checker.tokens.first := rfl
  rw [refused?, if_pos insists, shown, Option.filter_some_pos (by simpa using misfit)]
  rfl

private theorem refused?_of_fits
    (fits : stage.goal.insists = true → stage.checker.tokens.first.kind ∈ stage.goal.accepts) :
    stage.refused? = none := by
  have shown : stage.checker.lookahead? = some stage.checker.tokens.first := rfl
  rw [refused?, shown]
  split
  · next insists =>
    rw [Option.filter_some_neg (by simp [fits insists])]
    rfl
  · rfl

end Stage

section Recorded

variable {ρ : Type} [Receiver ρ] {whole : List Token} {receiver : ρ}
  {refused reported : List Diagnostic} {checker next : Checker Tokens ρ} {goal : Goal}

/-- After the refusals, of which those `reported` were handed to the receiver, the checker is on its
way through `whole`. -/
structure Recorded (whole : List Token) (receiver : ρ) (refused reported : List Diagnostic)
    (checker : Checker Tokens ρ) : Prop where
  place : ∃ passed, whole = passed ++ checker.tokens.toList ∧
    (reported.map Diagnostic.found).Sublist (passed ++ [checker.tokens.first])
  receiver_eq : checker.receiver = deliver reported receiver
  lastReported_eq : checker.lastReported = (reported.map Diagnostic.found).getLast?
  reportCount_eq : checker.reportCount = reported.length
  firsts : FirstOfEach refused reported
  misfits : ∀ diagnostic ∈ reported, diagnostic.found.kind ∉ diagnostic.expected

namespace Recorded

theorem start (tokens : Tokens) (receiver : ρ) :
    Recorded tokens.toList receiver [] [] ⟨tokens, receiver, none, 0, 0⟩ :=
  ⟨⟨[], rfl, List.nil_sublist _⟩, rfl, rfl, rfl, fun _ => rfl,
    List.forall_mem_nil _⟩

private theorem withDepth (recorded : Recorded whole receiver refused reported checker)
    (depth : Nat) :
    Recorded whole receiver refused reported { checker with depth } :=
  { recorded with }

/-- What is on record stays so while nothing is reported. -/
private theorem of_quiet (recorded : Recorded whole receiver refused reported checker)
    (quiet : checker.Quiet next) : Recorded whole receiver refused reported next where
  place := by
    obtain ⟨passed, same, located⟩ := recorded.place
    obtain kept | dropped := quiet.tokens
    · exact ⟨passed, by rwa [kept], by rwa [kept]⟩
    rw [dropped]
    generalize checker.tokens = tokens at same located
    obtain ⟨_ | ⟨token, front⟩, finish⟩ := tokens
    · exact ⟨passed, same, located⟩
    · refine ⟨passed ++ [token], ?_, located.trans (List.sublist_append_left ..)⟩
      rw [same, Tokens.toList_cons, List.append_cons]
      rfl
  receiver_eq := quiet.receiver_eq.trans recorded.receiver_eq
  lastReported_eq := quiet.lastReported_eq.trans recorded.lastReported_eq
  reportCount_eq := quiet.reportCount_eq.trans recorded.reportCount_eq
  firsts := recorded.firsts
  misfits := recorded.misfits

/-- Only the token reported last can be reported and still be the lookahead. -/
private theorem lastReported_of_mem (recorded : Recorded whole receiver refused reported checker)
    (apart : whole.Nodup) (member : checker.tokens.first ∈ reported.map Diagnostic.found) :
    checker.lastReported = some checker.tokens.first := by
  obtain ⟨passed, rfl, located⟩ := recorded.place
  rw [recorded.lastReported_eq]
  refine getLast?_of_sublist_concat located (fun earlier => ?_) member
  have ahead := List.mem_of_mem_head? checker.tokens.head?_toList
  exact (List.nodup_append.mp apart).2.2 _ earlier _ ahead rfl

/-- A token that was refused before adds nothing when it is refused again. -/
private theorem repeated (recorded : Recorded whole receiver refused reported checker)
    (expected : List Token.Kind)
    (known : checker.lastReported = some checker.tokens.first) :
    Recorded whole receiver (refused ++ [⟨checker.tokens.first, expected⟩]) reported checker where
  __ := recorded
  firsts := by
    apply recorded.firsts.again
    rw [recorded.lastReported_eq] at known
    exact List.mem_of_getLast? known

/-- A token that is reported for the first time is refused for the first time. -/
private theorem reported_new (recorded : Recorded whole receiver refused reported checker)
    (unfailing : Unfailing receiver) (apart : whole.Nodup) {expected : List Token.Kind}
    (misfit : checker.tokens.first.kind ∉ expected)
    (fresh : checker.lastReported ≠ some checker.tokens.first) :
    Recorded whole receiver (refused ++ [⟨checker.tokens.first, expected⟩])
      (reported ++ [⟨checker.tokens.first, expected⟩])
      (checker.reject checker.tokens.first expected).state := by
  have unreported : checker.tokens.first ∉ reported.map Diagnostic.found :=
    mt (recorded.lastReported_of_mem apart) fresh
  obtain ⟨passed, same, located⟩ := recorded.place
  have handed := unfailing.receive_eq reported ⟨checker.tokens.first, expected⟩
  rw [← recorded.receiver_eq] at handed
  rw [Checker.reject, if_neg fresh]
  dsimp only
  change Recorded _ _ _ _ (Outcome.lift Failure.io _ (receive _ checker.receiver)).state
  rw [handed]
  exact {
    place := by
      refine ⟨passed, same, ?_⟩
      rw [List.map_append]
      exact (sublist_of_sublist_concat located unreported).append (List.Sublist.refl _)
    receiver_eq := rfl
    lastReported_eq := by rw [List.map_append]; exact (List.getLast?_concat ..).symm
    reportCount_eq := by rw [List.length_append, ← recorded.reportCount_eq]; rfl
    firsts := recorded.firsts.anew unreported
    misfits := List.forall_mem_append.mpr
      ⟨recorded.misfits, List.forall_mem_singleton.mpr misfit⟩ }

/-- A step puts on record what its stage refuses and reports. -/
theorem step (recorded : Recorded whole receiver refused reported checker)
    (unfailing : Unfailing receiver) (apart : whole.Nodup) (stage : Stage Tokens ρ)
    (here : stage.checker = checker) :
    Recorded whole receiver (refused ++ stage.refused?.toList) (reported ++ stage.reported?.toList)
      (checker.step stage.goal).state := by
  subst here
  by_cases misfit : stage.goal.insists = true ∧ stage.checker.tokens.first.kind ∉ stage.goal.accepts
  · obtain ⟨insists, misfit⟩ := misfit
    obtain ⟨depth, stepped⟩ := Checker.step_of_not_accepts insists misfit
    have refuses := stage.refused?_of_misfit insists misfit
    rw [stepped, Outcome.state_map, Stage.reported?, refuses]
    by_cases known : stage.checker.lastReported = some stage.checker.tokens.first
    · have kept := (recorded.repeated stage.goal.accepts known).withDepth depth
      rw [Checker.reject, if_pos known, Option.filter_some_neg (by simp [known])]
      rwa [Option.toList_none, List.append_nil]
    · rw [Option.filter_some_pos (by simp [known])]
      exact (recorded.withDepth depth).reported_new unfailing apart misfit known
  · have fits (insists : stage.goal.insists = true) :
        stage.checker.tokens.first.kind ∈ stage.goal.accepts :=
      not_not.mp fun apart => misfit ⟨insists, apart⟩
    rw [Stage.reported?, stage.refused?_of_fits fits]
    simpa using recorded.of_quiet (Checker.quiet_step fits)

/-- A run puts on record what its stages refuse and report. -/
theorem run {goals : List Goal} (recorded : Recorded whole receiver refused reported checker)
    (unfailing : Unfailing receiver) (apart : whole.Nodup) :
    Recorded whole receiver (refused ++ (checker.stages goals).filterMap Stage.refused?)
      (reported ++ (checker.stages goals).filterMap Stage.reported?)
      (checker.run goals).state := by
  induction goals, checker using Checker.run.induct generalizing refused reported with
  | case1 checker =>
    rw [Checker.run_nil, Checker.stages_nil]
    simpa using recorded
  | case2 checker goal goals failure next failed =>
    have stepped := recorded.step unfailing apart ⟨goal, checker⟩ rfl
    rw [failed] at stepped
    rw [Checker.run_of_step_error failed, Checker.stages_of_step_error failed,
      List.filterMap_eq_flatMap_toList, List.filterMap_eq_flatMap_toList,
      List.flatMap_singleton, List.flatMap_singleton]
    exact stepped.withDepth _
  | case3 checker goal goals pushed next stepped ih =>
    have advanced := recorded.step unfailing apart ⟨goal, checker⟩ rfl
    rw [stepped] at advanced
    have further := ih advanced
    rw [List.filterMap_eq_flatMap_toList, List.filterMap_eq_flatMap_toList] at further ⊢
    rw [Checker.run_of_step_ok stepped, Checker.stages_of_step_ok stepped, List.flatMap_cons,
      List.flatMap_cons, ← List.append_assoc, ← List.append_assoc]
    exact further

theorem checkEach (nonterminals : List Nonterminal)
    (recorded : Recorded whole receiver refused reported checker)
    (unfailing : Unfailing receiver) (apart : whole.Nodup) :
    Recorded whole receiver
      (refused ++ (checker.stagesOfEach nonterminals).filterMap Stage.refused?)
      (reported ++ (checker.stagesOfEach nonterminals).filterMap Stage.reported?)
      (checker.checkEach nonterminals) := by
  induction nonterminals generalizing checker refused reported with
  | nil => simpa [Checker.stagesOfEach, Checker.checkEach] using recorded
  | cons nonterminal further ih =>
    rw [Checker.stagesOfEach, Checker.checkEach, List.filterMap_append, List.filterMap_append,
      ← List.append_assoc, ← List.append_assoc]
    apply ih
    exact recorded.run unfailing apart

end Recorded

end Recorded

end GrammarCheck
