import GrammarCheck.Proofs.Checking.Lifetime
import GrammarCheck.Proofs.Lexing.Failing

/-! # How deep a check is

A factor that opens a group calls for the expression inside, and the end of the group returns from
it. The depth of a checker counts the calls that have not returned: at every stage of every check,
and down to zero between checks, however they ended.
-/

namespace GrammarCheck

open Goal

namespace Goal

/-- The most goals that a goal comes to at once, as long as none of them opens a group. -/
def height : Goal → Nat
  | oneOf _ | progress _ | factor | groupEnd _ => 1
  | factors | term => 2
  | expression | alternatives => 3
  | definition | production => 4
  | productions => 6

/-- Worked on in order, the goals never come to more than `room` and three for each open group. -/
def Fits (room : Nat) : List Goal → Prop
  | [] => True
  | goal :: behind => goal.height + behind.length ≤ room + 3 * openGroups behind ∧ Fits room behind

variable {goal : Goal} {front back : List Goal} {room : Nat}

private theorem height_pos (goal : Goal) : 0 < goal.height := by
  cases goal <;> exact Nat.succ_pos _

private theorem Fits.length_le {goals : List Goal} (fits : Fits room goals) :
    goals.length ≤ room + 3 * openGroups goals := by
  cases goals with
  | nil => exact Nat.zero_le _
  | cons goal behind =>
    have counts := goal.height_pos
    have fewer : openGroups behind ≤ openGroups (goal :: behind) := openGroups_le_cons
    have within := fits.1
    rw [List.length_cons]
    omega

/-- Goals that fit in what is left of the room can be put in front. -/
private theorem Fits.append {inner : Nat} (inside : Fits inner front) (fits : Fits room back)
    (enough : inner + back.length ≤ room + 3 * openGroups back) : Fits room (front ++ back) := by
  induction front with
  | nil => exact fits
  | cons goal front ih =>
    obtain ⟨here, further⟩ := inside
    have behind : goal.height + (front ++ back).length ≤
        room + 3 * openGroups (front ++ back) := by
      rw [List.length_append, openGroups_append]
      omega
    exact ⟨behind, ih further⟩

end Goal

/-- A kind that starts no factor opens no group. -/
theorem Token.Kind.opens?_of_not_starts {kind : Token.Kind} (apart : kind ∉ factorKinds) :
    kind.opens? = none := by
  cases kind with
  | opening bracket => cases bracket <;> exact absurd (by decide) apart
  | _ => rfl

section Definitions

variable {τ ρ : Type} [TokenStream τ]

namespace Stage

/-- The token at which the goal calls for the expression inside a group. -/
def opened? (stage : Stage τ ρ) : Option Token :=
  match stage.goal with
  | .factor | .factors => stage.checker.lookahead?.filter (·.kind.opens?.isSome)
  | _ => none

/-- The goal calls for a nested expression. -/
def nests (stage : Stage τ ρ) : Bool :=
  stage.opened?.isSome

/-- The nested expression is through, whatever was found in it. -/
def returns (stage : Stage τ ρ) : Bool :=
  match stage.goal with
  | .groupEnd _ => true
  | _ => false

/-- What a stage can fail with. -/
inductive FailsWith (stage : Stage τ ρ) : Failure → Prop
  | outside {failure : Failure} (fails : failure.FromOutside) : FailsWith stage failure
  | tooDeep {token : Token} (opened : stage.opened? = some token)
    (full : nestingLimit ≤ stage.checker.depth) :
    FailsWith stage (.nestingTooDeep token.position nestingLimit)

/-- What the work on a goal makes of the depth and of the goals. -/
inductive Leaves (stage : Stage τ ρ) : Outcome Failure (Checker τ ρ) (List Goal) → Prop
  | ok {pushed : List Goal} {next : Checker τ ρ} (opened : openGroups pushed = stage.nests.toNat)
    (room : openGroups pushed ≤ nestingLimit - stage.checker.depth)
    (depth : next.depth = stage.checker.depth - openGroups [stage.goal] + openGroups pushed)
    (fits : Fits stage.goal.height pushed) : Leaves stage (.ok pushed next)
  | error {failure : Failure} {next : Checker τ ρ}
    (depth : next.depth = stage.checker.depth - openGroups [stage.goal])
    (fails : stage.FailsWith failure) : Leaves stage (.error failure next)

omit [TokenStream τ] in
private theorem openGroups_goal (stage : Stage τ ρ) :
    openGroups [stage.goal] = stage.returns.toNat := by
  obtain ⟨goal, checker⟩ := stage
  cases goal <;> rfl

end Stage

/-- A run on the goals comes, after the stages, to those that are left, with the checker as it is by
then. -/
inductive Checker.Reaches [Receiver ρ] (goals : List Goal) (checker : Checker τ ρ) :
    List (Stage τ ρ) → List Goal → Checker τ ρ → Prop
  | start : Reaches goals checker [] goals checker
  | step {passed : List (Stage τ ρ)} {goal : Goal} {behind pushed : List Goal}
    {now next : Checker τ ρ} (reaches : Reaches goals checker passed (goal :: behind) now)
    (stepped : now.step goal = .ok pushed next) :
    Reaches goals checker (passed ++ [⟨goal, now⟩]) (pushed ++ behind) next

/-- The stream fails with nothing but what comes from outside. -/
structure TokenStream.FailsFromOutside (τ : Type) [TokenStream τ] : Prop where
  peek (tokens : τ) : (TokenStream.peek tokens).FailsOnly Failure.FromOutside
  drop (tokens : τ) : (TokenStream.drop tokens).FailsOnly Failure.FromOutside

end Definitions

namespace Checker

variable {τ ρ : Type} [TokenStream τ]

private theorem lookahead?_of_peek {checker next : Checker τ ρ} {token : Token}
    (shown : checker.peek = .ok token next) : checker.lookahead? = some token := by
  obtain ⟨tokens, read, -⟩ := Outcome.lift_eq_ok_iff.mp shown
  rw [lookahead?, read]

private theorem exists_peek_of_lookahead? {checker : Checker τ ρ} {token : Token}
    (shown : checker.lookahead? = some token) :
    ∃ next, checker.peek = .ok token next ∧ next.depth = checker.depth := by
  rw [lookahead?] at shown
  rw [peek]
  cases read : TokenStream.peek checker.tokens with
  | ok other tokens =>
    rw [read] at shown
    obtain rfl := Option.some.inj shown
    exact ⟨_, rfl, rfl⟩
  | error failure tokens =>
    rw [read] at shown
    contradiction

/-- The operation leaves the checker as deep as said, and fails only from outside. -/
structure Plain {α : Type} (depth : Nat) (outcome : Outcome Failure (Checker τ ρ) α) : Prop where
  depth_eq : outcome.state.depth = depth
  fails : outcome.FailsOnly Failure.FromOutside

namespace Plain

variable {α β : Type} {depth : Nat} {outcome : Outcome Failure (Checker τ ρ) α}
  {checker : Checker τ ρ}

omit [TokenStream τ] in
private theorem andThen {further : α → Checker τ ρ → Outcome Failure (Checker τ ρ) β}
    (plain : Plain depth outcome)
    (each : ∀ value next, next.depth = depth → Plain depth (further value next)) :
    Plain depth (outcome.andThen further) := by
  cases outcome with
  | ok value next => exact each value next plain.depth_eq
  | error failure next => exact ⟨plain.depth_eq, plain.fails⟩

variable (outside : TokenStream.FailsFromOutside τ)

include outside

private theorem peek (checker : Checker τ ρ) : Plain checker.depth checker.peek where
  depth_eq := by rw [Checker.peek, Outcome.state_lift]
  fails := (outside.peek checker.tokens).lift fun _ fails => fails

theorem drop (checker : Checker τ ρ) : Plain checker.depth checker.drop where
  depth_eq := by rw [Checker.drop, Outcome.state_lift]
  fails := (outside.drop checker.tokens).lift fun _ fails => fails

variable [Receiver ρ]

omit outside in
private theorem reject (found : Token) (expected : List Token.Kind) (checker : Checker τ ρ) :
    Plain checker.depth (checker.reject found expected) := by
  rw [Checker.reject]
  split
  · exact ⟨rfl, trivial⟩
  · refine ⟨?_, (Outcome.failsOnly_true _).lift fun cause _ => .io cause⟩
    rw [Outcome.state_lift]
    rfl

private theorem require (kinds : List Token.Kind) (checker : Checker τ ρ) :
    Plain checker.depth (checker.require kinds) := by
  apply (peek outside checker).andThen
  intro token next depth
  rw [← depth]
  split
  · exact drop outside next
  · exact reject token kinds next

end Plain

end Checker

namespace Stage

variable {τ ρ : Type} [TokenStream τ] {stage : Stage τ ρ} {pushed : List Goal}

theorem leaves_of_plain {outcome : Outcome Failure (Checker τ ρ) Unit}
    (plain : Checker.Plain (stage.checker.depth - openGroups [stage.goal]) outcome)
    (closed : stage.opened? = none) (flat : openGroups pushed = 0)
    (fits : Fits stage.goal.height pushed) : stage.Leaves (outcome.map fun () => pushed) := by
  cases outcome with
  | ok _ next =>
    refine .ok ?_ ?_ ?_ fits
    · rw [flat, nests, closed]
      rfl
    · rw [flat]
      exact Nat.zero_le _
    · rw [flat]
      exact plain.depth_eq
  | error failure next => exact .error plain.depth_eq (.outside plain.fails)

/-- A goal that needs no more than a look leaves the checker as deep as it is. -/
private theorem leaves_of_still {next : Checker τ ρ} (same : next.depth = stage.checker.depth)
    (inner : openGroups [stage.goal] = 0) (closed : stage.opened? = none)
    (flat : openGroups pushed = 0) (fits : Fits stage.goal.height pushed) :
    stage.Leaves (.ok pushed next) := by
  have plain : Checker.Plain (stage.checker.depth - openGroups [stage.goal])
      (.ok () next : Outcome Failure (Checker τ ρ) Unit) := ⟨by rw [inner]; exact same, trivial⟩
  exact leaves_of_plain plain closed flat fits

private theorem leaves_peekThen (outside : TokenStream.FailsFromOutside τ)
    {further : Token → Checker τ ρ → Outcome Failure (Checker τ ρ) (List Goal)}
    (inner : openGroups [stage.goal] = 0)
    (each : ∀ token next, stage.checker.lookahead? = some token →
      next.depth = stage.checker.depth → stage.Leaves (further token next)) :
    stage.Leaves (stage.checker.peek.andThen further) := by
  have plain := Checker.Plain.peek outside stage.checker
  cases shown : stage.checker.peek with
  | ok token next =>
    rw [shown] at plain
    exact each token next (Checker.lookahead?_of_peek shown) plain.depth_eq
  | error failure next =>
    rw [shown] at plain
    refine .error ?_ (.outside plain.fails)
    rw [inner]
    exact plain.depth_eq

/-- A factor calls for a nested expression at the token that opens a group. -/
private theorem opened?_of_factor {token : Token}
    (starts : stage.goal = .factor ∨ stage.goal = .factors)
    (shown : stage.checker.lookahead? = some token) :
    stage.opened? = if token.kind.opens?.isSome then some token else none := by
  rw [opened?]
  obtain here | here := starts <;>
    (rw [here, shown]; exact Option.filter_some ..)

private theorem opened?_of_misfit {token : Token}
    (starts : stage.goal = .factor ∨ stage.goal = .factors)
    (shown : stage.checker.lookahead? = some token)
    (misfit : token.kind ∉ Token.Kind.factorKinds) : stage.opened? = none := by
  rw [opened?_of_factor starts shown, Token.Kind.opens?_of_not_starts misfit]
  rfl

/-- To drop the lookahead for further goals leaves the checker as deep as it is. -/
private theorem leaves_dropThen (outside : TokenStream.FailsFromOutside τ) {next : Checker τ ρ}
    (same : next.depth = stage.checker.depth) (inner : openGroups [stage.goal] = 0)
    (closed : stage.opened? = none) (flat : openGroups pushed = 0)
    (fits : Fits stage.goal.height pushed) :
    stage.Leaves (next.drop.map fun () => pushed) := by
  have dropped := Checker.Plain.drop outside next
  rw [same, ← Nat.sub_zero stage.checker.depth, ← inner] at dropped
  exact leaves_of_plain dropped closed flat fits

/-- To enter a group calls for the expression inside, if there is room for the call. -/
private theorem leaves_enterFactor (outside : TokenStream.FailsFromOutside τ) {token : Token}
    {goals : List Goal} {next : Checker τ ρ} (starts : stage.goal = .factor ∨ stage.goal = .factors)
    (shown : stage.checker.lookahead? = some token) (same : next.depth = stage.checker.depth)
    (flat : openGroups goals = 0) (fits : Fits stage.goal.height goals)
    (fitsIn : ∀ bracket, Fits stage.goal.height (.expression :: .groupEnd bracket :: goals)) :
    stage.Leaves (next.enterFactor token goals) := by
  have opened := opened?_of_factor starts shown
  have inner : openGroups [stage.goal] = 0 := by obtain here | here := starts <;> rw [here] <;> rfl
  have dropped := Checker.Plain.drop outside next
  rw [Checker.enterFactor]
  cases opens : token.kind.opens? with
  | none =>
    rw [opens, if_neg (by simp)] at opened
    exact leaves_dropThen outside same inner opened flat fits
  | some bracket =>
    rw [opens, Option.isSome_some, if_pos rfl] at opened
    dsimp only
    split
    · next full =>
      refine .error ?_ (.tooDeep opened ?_)
      · rw [inner]
        exact same
      · rwa [← same]
    · next room =>
      have one : openGroups (.expression :: .groupEnd bracket :: goals) = 1 := by
        simp [openGroups, flat]
      cases moved : next.drop with
      | ok _ after =>
        rw [moved] at dropped
        refine .ok ?_ ?_ ?_ (fitsIn bracket)
        · rw [one, nests, opened]
          rfl
        · omega
        · rw [one, inner, ← same, ← dropped.depth_eq]
          rfl
      | error failure after =>
        rw [moved] at dropped
        refine .error ?_ (.outside dropped.fails)
        rw [inner, ← same]
        exact dropped.depth_eq

variable [Receiver ρ]

/-- What the work on a goal makes of the depth and of the goals, with any stream. -/
theorem leaves_step (outside : TokenStream.FailsFromOutside τ) (stage : Stage τ ρ) :
    stage.Leaves (stage.checker.step stage.goal) := by
  obtain ⟨goal, checker⟩ := stage
  cases goal with
  | production | definition | expression | term =>
    apply leaves_of_still rfl rfl rfl rfl
    simp [Fits, height, openGroups]
  | oneOf kinds =>
    exact leaves_of_plain (.require outside kinds checker) rfl rfl trivial
  | groupEnd bracket =>
    exact leaves_of_plain (.require outside _ { checker with depth := checker.depth - 1 }) rfl rfl
      trivial
  | productions =>
    refine leaves_peekThen outside rfl fun token next _ same => ?_
    split
    · apply leaves_dropThen outside same rfl rfl rfl
      simp [Fits, height, openGroups]
    · exact leaves_of_still same rfl rfl rfl trivial
  | alternatives =>
    refine leaves_peekThen outside rfl fun token next _ same => ?_
    split
    · apply leaves_dropThen outside same rfl rfl rfl
      simp [Fits, height, openGroups]
    · exact leaves_of_still same rfl rfl rfl trivial
  | progress first =>
    refine leaves_peekThen outside rfl fun token next _ same => ?_
    split
    · have noted : (next.note (.stuck first.position)).depth = checker.depth := same
      exact leaves_dropThen outside noted rfl rfl rfl trivial
    · exact leaves_of_still same rfl rfl rfl trivial
  | factors =>
    refine leaves_peekThen outside rfl fun token next shown same => ?_
    split
    · apply leaves_enterFactor outside (.inr rfl) shown same rfl
      · simp [Fits, height, openGroups]
      · simp [Fits, height, openGroups]
    · next apart =>
      exact leaves_of_still same rfl (opened?_of_misfit (.inr rfl) shown apart) rfl trivial
  | factor =>
    refine leaves_peekThen outside rfl fun token next shown same => ?_
    split
    · apply leaves_enterFactor outside (.inl rfl) shown same rfl
      · trivial
      · simp [Fits, height, openGroups]
    · next apart =>
      have rejected := Checker.Plain.reject token Token.Kind.factorKinds next
      rw [same] at rejected
      exact leaves_of_plain rejected (opened?_of_misfit (.inl rfl) shown apart) rfl trivial

/-- A call beyond the limit is not made. -/
theorem step_of_full {token : Token} (opened : stage.opened? = some token)
    (full : nestingLimit ≤ stage.checker.depth) : ∃ next, stage.checker.step stage.goal =
      .error (.nestingTooDeep token.position nestingLimit) next := by
  obtain ⟨goal, checker⟩ := stage
  have starts : (goal = .factor ∨ goal = .factors) ∧
      checker.lookahead?.filter (·.kind.opens?.isSome) = some token := by
    cases goal with
    | factor => exact ⟨.inl rfl, opened⟩
    | factors => exact ⟨.inr rfl, opened⟩
    | _ => contradiction
  obtain ⟨starts, shown⟩ := starts
  obtain ⟨shown, opens⟩ := Option.filter_eq_some_iff.mp shown
  obtain ⟨bracket, opens⟩ := Option.isSome_iff_exists.mp opens
  have fits : token.kind ∈ Token.Kind.factorKinds := by
    by_contra apart
    rw [Token.Kind.opens?_of_not_starts apart] at opens
    contradiction
  obtain ⟨next, read, same⟩ := Checker.exists_peek_of_lookahead? shown
  rw [← same] at full
  have entered (goals : List Goal) : next.enterFactor token goals =
      .error (.nestingTooDeep token.position nestingLimit) next := by
    rw [Checker.enterFactor, opens]
    exact if_pos full
  refine ⟨next, ?_⟩
  obtain rfl | rfl := starts <;>
    (rw [Checker.step, read, Outcome.andThen_ok, if_pos fits]; exact entered _)

end Stage

namespace Checker

variable {τ ρ : Type} [TokenStream τ] [Receiver ρ] (outside : TokenStream.FailsFromOutside τ)
  {checker now next : Checker τ ρ} {goals left pushed behind : List Goal} {goal : Goal}
  {passed : List (Stage τ ρ)}

/-- The depth is the number of nested expressions whose ends are left to find, and of the calls that
have not returned. It is within the limit, and so are the goals. -/
structure Balanced (passed : List (Stage τ ρ)) (left : List Goal) (now : Checker τ ρ) : Prop where
  depth_eq : now.depth = openGroups left
  depth_le : now.depth ≤ nestingLimit
  calls : passed.countP Stage.nests = passed.countP Stage.returns + now.depth
  fits : Fits 7 left

namespace Balanced

omit [Receiver ρ] in
private theorem length_le (balanced : Balanced passed left now) :
    left.length ≤ 7 + 3 * nestingLimit := by
  have within := balanced.fits.length_le
  have depth := balanced.depth_eq
  have limit := balanced.depth_le
  omega

include outside in
private theorem step (balanced : Balanced passed (goal :: behind) now)
    (stepped : now.step goal = .ok pushed next) :
    Balanced (passed ++ [⟨goal, now⟩]) (pushed ++ behind) next := by
  obtain ⟨depth_eq, depth_le, calls, here, fits⟩ := balanced
  have leaves : Stage.Leaves ⟨goal, now⟩ (now.step goal) := Stage.leaves_step outside ⟨goal, now⟩
  rw [stepped] at leaves
  cases leaves with
  | ok opened room depth inside =>
    have returned := Stage.openGroups_goal (⟨goal, now⟩ : Stage τ ρ)
    dsimp only at room depth inside returned
    rw [openGroups_cons] at depth_eq
    refine ⟨?_, ?_, ?_, inside.append fits here⟩
    · rw [openGroups_append]
      omega
    · omega
    · have single (p : Stage τ ρ → Bool) (stage : Stage τ ρ) :
          [stage].countP p = (p stage).toNat := by
        cases here : p stage <;> simp [here]
      rw [List.countP_append, List.countP_append, single, single]
      omega

end Balanced

include outside in
/-- Wherever a check comes to, its calls are on account. -/
theorem Reaches.balanced (reaches : Reaches goals checker passed left now)
    (start : Balanced [] goals checker) : Balanced passed left now := by
  induction reaches with
  | start => exact start
  | step _ stepped ih => exact ih.step outside stepped

/-- What is left of a run is the run of the goals that are left. -/
theorem Reaches.run_eq (reaches : Reaches goals checker passed left now) :
    checker.run goals = now.run left := by
  induction reaches with
  | start => rfl
  | step _ stepped ih => rw [ih, run_of_step_ok stepped]

/-- Where a run fails it has come to a goal that fails. -/
theorem Reaches.exists_failed {failure : Failure}
    (reaches : Reaches goals checker passed left now)
    (failed : (now.run left).result = .error failure) : ∃ passed goal behind now next,
      Reaches goals checker passed (goal :: behind) now ∧ now.step goal = .error failure next := by
  induction left, now using run.induct generalizing passed with
  | case1 now =>
    rw [run_nil] at failed
    contradiction
  | case2 now goal behind failure' next stopped =>
    rw [run_of_step_error stopped] at failed
    obtain rfl := Except.error.inj failed
    exact ⟨passed, goal, behind, now, next, reaches, stopped⟩
  | case3 now goal behind pushed next stepped ih =>
    rw [run_of_step_ok stepped] at failed
    exact ih (reaches.step stepped) failed

include outside in
/-- A run closes the groups whose ends are among its goals, and all that it has opened itself,
whether it fails or not. -/
theorem depth_run (enough : openGroups goals ≤ checker.depth) :
    (checker.run goals).state.depth = checker.depth - openGroups goals := by
  induction goals, checker using run.induct with
  | case1 checker =>
    rw [run_nil]
    rfl
  | case2 checker goal behind failure next failed =>
    have leaves : Stage.Leaves ⟨goal, checker⟩ (checker.step goal) :=
      Stage.leaves_step outside ⟨goal, checker⟩
    rw [failed] at leaves
    cases leaves with
    | error depth _ =>
      dsimp only at depth
      rw [run_of_step_error failed, Outcome.state_error, openGroups_cons]
      dsimp only
      omega
  | case3 checker goal behind pushed next stepped ih =>
    have leaves : Stage.Leaves ⟨goal, checker⟩ (checker.step goal) :=
      Stage.leaves_step outside ⟨goal, checker⟩
    rw [stepped] at leaves
    cases leaves with
    | ok _ _ depth _ =>
      dsimp only at depth
      rw [openGroups_cons] at enough ⊢
      rw [openGroups_append] at ih
      rw [run_of_step_ok stepped, ih (by omega)]
      omega

include outside in
/-- No operation leaves a checker deeper than it was. -/
theorem depth_performEach (operations : List Operation) :
    (checker.performEach operations).depth = checker.depth := by
  induction operations generalizing checker with
  | nil => rfl
  | cons operation further ih =>
    rw [performEach, ih]
    cases operation with
    | release => rfl
    | check nonterminal =>
      have none : openGroups nonterminal.goals = 0 := by cases nonterminal <;> rfl
      have ran := depth_run outside (none.trans_le (Nat.zero_le checker.depth))
      rw [none] at ran
      exact ran

omit [Receiver ρ] in
/-- Every check starts with all of its calls to make. -/
private theorem balanced_start (nonterminal : Nonterminal) (shallow : checker.depth = 0) :
    Balanced [] nonterminal.goals checker where
  depth_eq := by cases nonterminal <;> exact shallow
  depth_le := by omega
  calls := by rw [shallow]; rfl
  fits := by cases nonterminal <;> simp [Nonterminal.goals, Fits, height, openGroups]

include outside in
/-- A check fails because of its groups exactly where it comes to a call for which there is no
room. -/
theorem check_too_deep_iff (nonterminal : Nonterminal) (shallow : checker.depth = 0)
    {position : Position} {limit : Nat} :
    (checker.check nonterminal).result = .error (.nestingTooDeep position limit) ↔
      ∃ passed goal behind now token,
        Reaches nonterminal.goals checker passed (goal :: behind) now ∧
        Stage.opened? ⟨goal, now⟩ = some token ∧
        passed.countP Stage.nests = passed.countP Stage.returns + nestingLimit ∧
        position = token.position ∧ limit = nestingLimit := by
  constructor
  · intro failed
    obtain ⟨passed, goal, behind, now, next, reaches, stopped⟩ :=
      Reaches.start.exists_failed failed
    have balanced := reaches.balanced outside (balanced_start nonterminal shallow)
    have leaves : Stage.Leaves ⟨goal, now⟩ (now.step goal) :=
      Stage.leaves_step outside ⟨goal, now⟩
    rw [stopped] at leaves
    cases leaves with
    | error _ fails =>
      cases fails with
      | outside fails => cases fails
      | @tooDeep token opened full =>
        refine ⟨passed, goal, behind, now, token, reaches, opened, ?_, rfl, rfl⟩
        rw [balanced.calls, Nat.le_antisymm balanced.depth_le full]
  · rintro ⟨passed, goal, behind, now, token, reaches, opened, calls, rfl, rfl⟩
    have balanced := reaches.balanced outside (balanced_start nonterminal shallow)
    have full : now.depth = nestingLimit := by
      have account := balanced.calls
      omega
    obtain ⟨next, stopped⟩ := Stage.step_of_full opened full.ge
    rw [check, reaches.run_eq, run_of_step_error stopped]
    rfl

end Checker

/-- A lexer fails where its text does. -/
theorem Lexer.failsFromOutside {σ : Type} [CharStream σ] :
    TokenStream.FailsFromOutside (Lexer σ) where
  peek := failsOnly_peek
  drop := failsOnly_drop

/-- Whatever was asked of a checker before, and however that ended, its depth is zero. While it
checks, the depth is the number of calls for nested expressions that have not returned, at most 256
of them, and the goals that are left are bounded with it. It fails because of its groups exactly
where a check of its own comes to a call with 256 others open. -/
theorem depth_counts_the_open_calls {σ ρ : Type} [CharStream σ] [Receiver ρ] (source : σ)
    (name : String) (line column : Nat) (receiver : ρ) (operations : List Operation) :
    let checker := (Checker.start source name line column receiver).performEach operations
    checker.depth = 0 ∧
      ∀ nonterminal : Nonterminal,
        (∀ passed left now, checker.Reaches nonterminal.goals passed left now →
          passed.countP Stage.nests = passed.countP Stage.returns + now.depth ∧
            now.depth ≤ 256 ∧ now.depth = openGroups left ∧ left.length ≤ 7 + 3 * 256) ∧
        ∀ position limit,
          (checker.check nonterminal).result = .error (.nestingTooDeep position limit) ↔
            ∃ passed goal behind now token,
              checker.Reaches nonterminal.goals passed (goal :: behind) now ∧
              Stage.opened? ⟨goal, now⟩ = some token ∧
              passed.countP Stage.nests = passed.countP Stage.returns + 256 ∧
              position = token.position ∧ limit = 256 := by
  intro checker
  have shallow : checker.depth = 0 := Checker.depth_performEach Lexer.failsFromOutside operations
  refine ⟨shallow, fun nonterminal => ⟨fun passed left now reaches => ?_, fun position limit => ?_⟩⟩
  · have balanced := reaches.balanced Lexer.failsFromOutside
      (Checker.balanced_start nonterminal shallow)
    exact ⟨balanced.calls, balanced.depth_le, balanced.depth_eq, balanced.length_le⟩
  · exact Checker.check_too_deep_iff Lexer.failsFromOutside nonterminal shallow

end GrammarCheck
