import GrammarCheck.Proofs.Checking.Stages
import GrammarCheck.Proofs.Checking.Supply
import GrammarCheck.Proofs.Lexing.Turns
import GrammarCheck.Proofs.Receiving

/-! # The life of a checker

A checker may be asked to check for nonterminals and to let go of its text, in any order and as
often as one likes. Each time it comes to an end after a number of steps that the text bounds, and
in all it reports no more than there are tokens.
-/

namespace GrammarCheck

inductive Operation where
  | check (nonterminal : Nonterminal)
  | release
  deriving DecidableEq, Repr

/-- The goal may come back behind the goals that take its place. -/
def Goal.isLoop : Goal → Bool
  | productions | alternatives | factors => true
  | oneOf _ | progress _ | production | definition | expression | term | factor
  | groupEnd _ => false

/-- The receiver was handed as many diagnostics, and that is all that has become of it. -/
def Receiver.Took {ρ : Type} [Receiver ρ] (receiver after : ρ) (count : Nat) : Prop :=
  ∃ reported, after = deliver reported receiver ∧ count = reported.length

/-- Leading elements can be dropped from a part of a list as from the whole. -/
private theorem sublist_dropWhile {α : Type} {part whole : List α} (p : α → Bool)
    (within : part.Sublist whole) : (part.dropWhile p).Sublist (whole.dropWhile p) := by
  induction within with
  | slnil => exact List.Sublist.refl _
  | @cons part whole first within ih =>
    rw [List.dropWhile_cons]
    split
    · exact ih
    · exact ((List.dropWhile_sublist p).trans within).cons first
  | @cons_cons part whole first within ih =>
    rw [List.dropWhile_cons, List.dropWhile_cons]
    split
    · exact ih
    · exact within.cons_cons first

namespace Checker

section Operations

variable {τ ρ : Type} [TokenStream τ] [Receiver ρ] {checker next middle : Checker τ ρ}
  {goal : Goal} {goals pushed : List Goal}

/-- Does what is asked, and goes on whether it failed or not. -/
def perform (operation : Operation) (checker : Checker τ ρ) : Checker τ ρ :=
  match operation with
  | .check nonterminal => (checker.check nonterminal).state
  | .release => checker.release

def performEach (operations : List Operation) (checker : Checker τ ρ) : Checker τ ρ :=
  match operations with
  | [] => checker
  | operation :: further => (checker.perform operation).performEach further

/-- What holds while a checker works and when it lets go of the text holds for its whole life. -/
theorem Preserves.performEach {I : Checker τ ρ → Prop} {Showing : Token → Checker τ ρ → Prop}
    (preserves : Preserves I Showing)
    (released : ∀ {checker : Checker τ ρ}, I checker → I checker.release) (holds : I checker)
    (operations : List Operation) : I (checker.performEach operations) := by
  induction operations generalizing checker with
  | nil => exact holds
  | cons operation further ih =>
    apply ih
    cases operation with
    | check nonterminal => exact preserves.upholds.run holds
    | release => exact released holds

/-- What holds while a checker works holds at each stage. -/
theorem Preserves.stages {I : Checker τ ρ → Prop} {Showing : Token → Checker τ ρ → Prop}
    (preserves : Preserves I Showing) (holds : I checker) :
    ∀ stage ∈ checker.stages goals, I stage.checker := by
  induction goals, checker using run.induct with
  | case1 checker =>
    rw [stages_nil]
    exact List.forall_mem_nil _
  | case2 checker goal goals failure next failed =>
    rw [stages_of_step_error failed]
    exact List.forall_mem_singleton.mpr holds
  | case3 checker goal goals pushed next stepped ih =>
    have after : I (checker.step goal).state := preserves.upholds.step holds
    rw [stepped] at after
    rw [stages_of_step_ok stepped]
    exact List.forall_mem_cons.mpr ⟨holds, ih after⟩

/-- A run takes no more steps than it has left at its start. -/
theorem length_stages_le (goals : List Goal) (checker : Checker τ ρ) :
    (checker.stages goals).length ≤ checker.stepsLeft goals := by
  induction goals, checker using run.induct with
  | case1 checker =>
    rw [stages_nil]
    exact Nat.zero_le _
  | case2 checker goal goals failure next failed =>
    have counts : 0 < goal.weight := by cases goal <;> exact Nat.succ_pos _
    rw [stages_of_step_error failed, List.length_singleton, stepsLeft, Goal.totalWeight_cons]
    omega
  | case3 checker goal goals pushed next stepped ih =>
    rw [stages_of_step_ok stepped, List.length_cons]
    exact Nat.succ_le_of_lt (Nat.lt_of_le_of_lt ih (stepsLeft_append_lt stepped))

/-- The tokens left to drop never get more. -/
private theorem kept_tokensLeft_le (bound : Nat) :
    Kept fun (tokens : τ) (_ : ρ) (_ : Nat) => TokenStream.tokensLeft tokens ≤ bound where
  peek holds := (TokenStream.peek_le _).trans holds
  drop holds := (TokenStream.drop_le _).trans holds
  note event holds := (TokenStream.note_eq event _).trans_le holds
  receive _ holds := holds

private theorem kept_took (receiver : ρ) : Kept fun (_ : τ) => Receiver.Took receiver := by
  refine kept_of_delivers ?_
  rintro diagnostic _ _ ⟨reported, rfl, rfl⟩
  refine ⟨reported ++ [diagnostic], (Receiver.deliver_concat reported diagnostic).symm, ?_⟩
  rw [List.length_append, List.length_singleton]

section Dropping

omit [Receiver ρ]

variable {α : Type} {value : α}

private theorem exists_peek_of_ok {further : Token → Checker τ ρ → Outcome Failure (Checker τ ρ) α}
    (passed : checker.peek.andThen further = .ok value next) : ∃ token tokens,
      TokenStream.peek checker.tokens = .ok token tokens ∧
      further token { checker with tokens } = .ok value next := by
  obtain ⟨token, middle, shown, behind⟩ := Outcome.andThen_eq_ok_iff.mp passed
  obtain ⟨tokens, read, rfl⟩ := Outcome.lift_eq_ok_iff.mp shown
  exact ⟨token, tokens, read, behind⟩

private theorem drop_of_map_ok {f : Unit → α} (passed : checker.drop.map f = .ok value next) :
    value = f () ∧ TokenStream.drop checker.tokens = .ok () next.tokens := by
  obtain ⟨_, moved, same⟩ := Outcome.map_eq_ok_iff.mp passed
  obtain ⟨tokens, dropped, rfl⟩ := Outcome.lift_eq_ok_iff.mp moved
  exact ⟨same.symm, dropped⟩

/-- To enter a factor drops the lookahead. -/
private theorem drop_of_enterFactor {token : Token}
    (entered : checker.enterFactor token goals = .ok pushed next) :
    ∃ body, pushed = body ++ goals ∧ TokenStream.drop checker.tokens = .ok () next.tokens := by
  unfold enterFactor at entered
  split at entered
  · obtain ⟨rfl, dropped⟩ := drop_of_map_ok entered
    exact ⟨[], rfl, dropped⟩
  · split at entered
    · contradiction
    · obtain ⟨_, after, moved, inside⟩ := Outcome.andThen_eq_ok_iff.mp entered
      obtain ⟨tokens, dropped, rfl⟩ := Outcome.lift_eq_ok_iff.mp moved
      cases inside
      exact ⟨[_, _], rfl, dropped⟩

end Dropping

/-- A loop that goes on drops a token in front of the end, and comes back in last place. -/
theorem drop_of_loop (loops : goal.isLoop = true) (stepped : checker.step goal = .ok pushed next)
    (goesOn : pushed ≠ []) : ∃ body token tokens, pushed = body ++ [goal] ∧
      TokenStream.peek checker.tokens = .ok token tokens ∧ token.kind ≠ .endOfInput ∧
      TokenStream.drop tokens = .ok () next.tokens := by
  cases goal with
  | productions =>
    obtain ⟨token, tokens, shown, further⟩ := exists_peek_of_ok stepped
    split at further
    · next named =>
      obtain ⟨rfl, dropped⟩ := drop_of_map_ok further
      exact ⟨[_, _], token, tokens, rfl, shown, by simp [named], dropped⟩
    · cases further
      contradiction
  | alternatives =>
    obtain ⟨token, tokens, shown, further⟩ := exists_peek_of_ok stepped
    split at further
    · next bar =>
      obtain ⟨rfl, dropped⟩ := drop_of_map_ok further
      exact ⟨[_], token, tokens, rfl, shown, by simp [bar], dropped⟩
    · cases further
      contradiction
  | factors =>
    obtain ⟨token, tokens, shown, further⟩ := exists_peek_of_ok stepped
    split at further
    · next starts =>
      obtain ⟨body, rfl, dropped⟩ := drop_of_enterFactor further
      exact ⟨body, token, tokens, rfl, shown, notEnd_of_factorKinds starts, dropped⟩
    · cases further
      contradiction
  | _ => contradiction

end Operations

section Unreported

variable {ρ : Type} {checker next : Checker Supply ρ} {token : Token} {total : Nat}

/-- The tokens that can still be reported: those ahead, without the one reported last. -/
def unreported (checker : Checker Supply ρ) : List Token :=
  checker.tokens.ahead.dropWhile fun token => checker.lastReported = some token

/-- The total is enough even if each token that can still be reported is. -/
def Within (total : Nat) (checker : Checker Supply ρ) : Prop :=
  checker.reportCount + checker.unreported.length ≤ total

private theorem Within.reportCount_le (within : checker.Within total) :
    checker.reportCount ≤ total :=
  (Nat.le_add_right _ _).trans within

/-- With fewer tokens ahead there is no more to report. -/
theorem Within.of_sublist {supply : Supply} (within : checker.Within total)
    (fewer : supply.ahead.Sublist checker.tokens.ahead) :
    Within total { checker with tokens := supply } := by
  have part := sublist_dropWhile (fun token => checker.lastReported = some token) fewer
  exact (Nat.add_le_add_left part.length_le _).trans within

private theorem Within.peek (within : checker.Within total) : checker.peek.state.Within total := by
  rw [Checker.peek, Outcome.state_lift]
  exact within.of_sublist checker.tokens.ahead_peek

variable [Receiver ρ]

/-- To report the lookahead takes it from those that can be reported. -/
private theorem Within.reject (within : checker.Within total)
    (ahead : checker.tokens.ahead.head? = some token) (expected : List Token.Kind) :
    Within total (checker.reject token expected).state := by
  rw [Checker.reject]
  split
  · exact within
  · next fresh =>
    obtain ⟨behind, split⟩ := List.head?_eq_some_iff.mp ahead
    rw [Outcome.state_lift]
    change checker.reportCount + 1 +
      (checker.tokens.ahead.dropWhile fun other => some token = some other).length ≤ total
    rw [Within, unreported, split, List.dropWhile_cons_of_neg (by simpa using fresh),
      List.length_cons] at within
    rw [split, List.dropWhile_cons_of_pos (by simp)]
    have part := (behind.dropWhile_sublist fun other => some token = some other).length_le
    omega

/-- Reports stay within the total: the lookahead moves on, and nothing else is reported. -/
private theorem preserves_within (total : Nat) : Preserves (Within total)
    fun (token : Token) (checker : Checker Supply ρ) =>
      checker.tokens.ahead.head? = some token ∧ checker.Within total where
  of_showing showing := showing.2
  peek_ok {checker next token} holds shown := by
    have after := holds.peek
    rw [shown] at after
    obtain ⟨supply, read, rfl⟩ := Outcome.lift_eq_ok_iff.mp shown
    exact ⟨Supply.head?_ahead_of_peek read, after⟩
  peek_error {checker next failure} holds failed := by
    have after := holds.peek
    rwa [failed] at after
  drop {checker token} showing := by
    rw [drop, Outcome.state_lift]
    exact showing.2.of_sublist checker.tokens.ahead_drop
  note event showing := showing
  reject expected showing := showing.2.reject showing.1 expected
  withDepth depth holds := holds

end Unreported

section Supplied

/-- A checker that was shown none of the tokens yet. -/
def supplied {ρ : Type} (tokens : Tokens) (receiver : ρ) : Checker Supply ρ :=
  { tokens := .unread tokens, receiver }

variable {ρ : Type} [Receiver ρ] (tokens : Tokens) (receiver : ρ) (operations : List Operation)

/-- Over its whole life a checker reports no more than it is supplied with. -/
theorem exists_reported_of_performEach :
    let checker := (supplied tokens receiver).performEach operations
    ∃ reported, checker.receiver = Receiver.deliver reported receiver ∧
      checker.reportCount = reported.length ∧ reported.length ≤ tokens.toList.length := by
  intro checker
  have took : checker.Satisfies fun _ => Receiver.Took receiver :=
    (kept_took receiver).preserves.performEach (fun holds => holds) ⟨[], rfl, rfl⟩ operations
  have within : checker.Within tokens.toList.length := by
    refine (preserves_within _).performEach (fun {checker} holds => ?_) ?_ operations
    · exact holds.of_sublist checker.tokens.ahead_release
    · exact (Nat.zero_add _).trans_le (List.dropWhile_sublist _).length_le
  obtain ⟨reported, delivered, counted⟩ := took
  exact ⟨reported, delivered, counted, counted ▸ within.reportCount_le⟩

/-- A check takes at most ten steps for each token, whatever was asked of the checker before. -/
theorem length_stages_of_performEach_le (nonterminal : Nonterminal) :
    (((supplied tokens receiver).performEach operations).stages nonterminal.goals).length ≤
      10 * tokens.toList.length := by
  have start : (supplied tokens receiver).Satisfies fun supply _ _ =>
      TokenStream.tokensLeft supply ≤ tokens.front.length := Nat.le_refl _
  have left : ((supplied tokens receiver).performEach operations).tokensLeft ≤
      tokens.front.length := by
    refine (kept_tokensLeft_le tokens.front.length).preserves.performEach ?_ start operations
    intro checker holds
    exact checker.tokens.tokensLeft_release_le.trans holds
  have light : Goal.totalWeight nonterminal.goals ≤ 10 := by cases nonterminal <;> decide
  have whole : tokens.toList.length = tokens.front.length + 1 := List.length_append
  refine (length_stages_le _ _).trans ?_
  rw [stepsLeft]
  omega

end Supplied

end Checker

/-- If the loop at work goes on, it comes back behind the goals that it pushes, and by then the
lexer has taken at least one of the tokens that it had to list. -/
def Stage.Advances {σ ρ : Type} [CharStream σ] [Receiver ρ] (stage : Stage (Lexer σ) ρ) : Prop :=
  ∀ pushed next, stage.checker.step stage.goal = .ok pushed next → pushed ≠ [] →
    ∃ body, pushed = body ++ [stage.goal] ∧ ∀ after, next.run body = .ok () after →
      ∃ taken, taken ≠ [] ∧ stage.checker.tokens.toList.1 = taken ++ after.tokens.toList.1

/-- Until the text is let go, the loops advance wherever reading can lead from this stage. -/
def Stage.ReadingAdvances {σ ρ : Type} [CharStream σ] [SteadyStream σ]
    (stage : Stage (Lexer σ) ρ) : Prop :=
  stage.checker.tokens.cursor.released = false →
    ∀ cursor, stage.checker.tokens.cursor.LeadsTo cursor → cursor.LoopsAdvance

section Lexing

variable {σ ρ : Type} [CharStream σ] [SteadyStream σ] [Receiver ρ]

/-- The lexer shows one of the tokens, and those behind it are still to come. -/
def Lexer.ShowsPartOf (whole : List Token) (lexer : Lexer σ) : Prop :=
  ∃ tokens passed, lexer.Supplies (.shown tokens) ∧ whole = passed ++ tokens.toList

/-- However a checker goes on, its lexer goes on from the token that it shows to those behind. -/
theorem Lexer.kept_showsPartOf (whole : List Token) :
    Checker.Kept fun (lexer : Lexer σ) (_ : ρ) (_ : Nat) => lexer.ShowsPartOf whole where
  peek := by
    rintro lexer _ _ ⟨tokens, passed, supplies, split⟩
    exact ⟨tokens, passed, supplies.peek.states, split⟩
  drop := by
    rintro lexer _ _ ⟨tokens, passed, supplies, rfl⟩
    have behind : lexer.drop.state.Supplies (.shown tokens.rest) := supplies.drop.states
    obtain ⟨_ | ⟨token, front⟩, finish⟩ := tokens
    · exact ⟨_, passed, behind, rfl⟩
    · exact ⟨_, passed ++ [token], behind, List.append_cons ..⟩
  note event := by
    rintro ⟨tokens, passed, supplies, split⟩
    exact ⟨tokens, passed, supplies.note event, split⟩
  receive _ holds := holds

/-- As long as a lexer supplies the tokens of a text, every loop advances. -/
theorem Stage.advances {stage : Stage (Lexer σ) ρ} {supply : Supply}
    (supplies : stage.checker.tokens.Supplies supply) (loops : stage.goal.isLoop = true) :
    stage.Advances := by
  intro pushed next stepped goesOn
  obtain ⟨body, token, tokens, rfl, shown, running, dropped⟩ :=
    Checker.drop_of_loop loops stepped goesOn
  obtain ⟨rest, behind, listed⟩ := supplies.toList_of_drop shown running dropped
  refine ⟨body, rfl, fun after passed => ?_⟩
  -- The token dropped at the start is gone, whatever the goals in between take or leave.
  have shows : next.tokens.ShowsPartOf rest.toList := ⟨rest, [], behind, rfl⟩
  have ended : (next.run body).state.tokens.ShowsPartOf rest.toList :=
    (Lexer.kept_showsPartOf rest.toList).ofRun shows
  rw [passed] at ended
  obtain ⟨later, between, there, split⟩ := ended
  refine ⟨(token :: between).map .ok, List.cons_ne_nil _ _, ?_⟩
  rw [listed, split, ← List.cons_append, List.map_append]
  exact congrArg _ there.toList_of_shown.symm

/-- A lexer goes on to supply the tokens of its text. -/
theorem Lexer.kept_supplies : Checker.Kept fun (lexer : Lexer σ) (_ : ρ) (_ : Nat) =>
    ∃ supply, lexer.Supplies supply where
  peek := by
    rintro lexer _ _ ⟨supply, supplies⟩
    exact ⟨_, supplies.peek.states⟩
  drop := by
    rintro lexer _ _ ⟨supply, supplies⟩
    exact ⟨_, supplies.drop.states⟩
  note event := by
    rintro ⟨supply, supplies⟩
    exact ⟨supply, supplies.note event⟩
  receive _ holds := holds

omit [SteadyStream σ] in
theorem Checker.kept_on {I : Cursor σ → Prop} (keeps : Cursor.Keeps I) :
    Checker.Kept fun (lexer : Lexer σ) (_ : ρ) (_ : Nat) => lexer.On I where
  peek holds := keeps.reading.peek holds
  drop holds := keeps.reading.drop holds
  note event holds := keeps.note event holds
  receive _ holds := holds

theorem Checker.Alike.performEach {left : Checker (Lexer σ) ρ} {right : Checker Supply ρ}
    (alike : left.Alike Lexer.Supplies right) (operations : List Operation) :
    (left.performEach operations).Alike Lexer.Supplies (right.performEach operations) := by
  induction operations generalizing left right with
  | nil => exact alike
  | cons operation further ih =>
    apply ih
    cases operation with
    | check nonterminal => exact (alike_run Lexer.Supplies.tracks alike).states
    | release => exact { alike with tokens := alike.tokens.release }

/-- Over its whole life a checker reads in its text, until it lets go of it. -/
theorem readingAdvances_of_performEach {source : σ} {text : List Char}
    (serves : SteadyStream.Serves source text) (name : String) (line column : Nat) (receiver : ρ)
    (operations : List Operation) (goals : List Goal) :
    ∀ stage ∈ ((Checker.start source name line column receiver).performEach operations).stages
      goals, stage.ReadingAdvances := by
  have kept : Checker.Kept fun (lexer : Lexer σ) (_ : ρ) (_ : Nat) =>
      lexer.On Cursor.ServedIfHeld := Checker.kept_on Cursor.Served.keeps
  have start : (Checker.start source name line column receiver).Satisfies fun lexer _ _ =>
      lexer.On Cursor.ServedIfHeld := .inr (.fresh rfl rfl serves)
  have finish := kept.preserves.performEach
    (fun {checker} _ => .inl checker.tokens.released_release) start operations
  intro stage member held cursor leads
  obtain released | served := kept.preserves.stages finish stage member
  · rw [held] at released
    contradiction
  · exact (served.of_leadsTo leads).loopsAdvance

/-- After any operations each further one ends, at most ten steps for each token of the text later.
Every turn of a loop that goes on takes a token of the text, and every turn of a loop that reads one
passes a character. In all, no more is reported than the text has tokens, the end included. -/
theorem every_operation_ends {source : σ} {text : List Char}
    (serves : SteadyStream.Serves source text) (name : String) (line column : Nat) (receiver : ρ)
    (operations : List Operation) :
    let checker := (Checker.start source name line column receiver).performEach operations
    ∃ (tokens : List Token) (reported : List Diagnostic),
      (Lexer.start source name line column).toList.1 = tokens.map .ok ∧
      checker.receiver = Receiver.deliver reported receiver ∧
      checker.reportCount = reported.length ∧ reported.length ≤ tokens.length ∧
      ∀ nonterminal : Nonterminal,
        (checker.stages nonterminal.goals).length ≤ 10 * tokens.length ∧
        ∀ stage ∈ checker.stages nonterminal.goals,
          (stage.goal.isLoop = true → stage.Advances) ∧ stage.ReadingAdvances := by
  intro checker
  obtain ⟨tokens, -, unread⟩ := Lexer.exists_unread_start serves name line column
  have start : (Checker.start source name line column receiver).Alike Lexer.Supplies
      (Checker.supplied tokens receiver) := ⟨.unread unread rfl, rfl, rfl, rfl, rfl⟩
  have alike : checker.Alike Lexer.Supplies ((Checker.supplied tokens receiver).performEach _) :=
    start.performEach operations
  obtain ⟨reported, delivered, counted, few⟩ :=
    Checker.exists_reported_of_performEach tokens receiver operations
  refine ⟨tokens.toList, reported, Lexer.toList_of_offers (.inl unread) rfl,
    alike.receiver_eq.trans delivered, alike.reportCount_eq.trans counted, few, ?_⟩
  intro nonterminal
  constructor
  · rw [(Checker.alike_stages Lexer.Supplies.tracks alike).length_eq]
    exact Checker.length_stages_of_performEach_le tokens receiver operations nonterminal
  · intro stage member
    have supplying : checker.Satisfies fun lexer _ _ => ∃ supply, lexer.Supplies supply :=
      ⟨_, alike.tokens⟩
    obtain ⟨supply, supplies⟩ := Lexer.kept_supplies.preserves.stages supplying stage member
    exact ⟨Stage.advances supplies,
      readingAdvances_of_performEach serves name line column receiver operations _ stage member⟩

theorem operations_on_a_wrong_text :
    let text := "S = | x ;\nT"
    let checker := (Checker.start (Text.ofString text) "g" 0 0 ({} : Collector)).performEach
      [.check .text, .check .factor, .release, .check .production]
    SteadyStream.Serves (Text.ofString text) text.toList ∧
      checker.reportCount = 2 ∧
      ∃ (tokens : List Token) (reported : List Diagnostic),
        (Lexer.start (Text.ofString text) "g" 0 0).toList.1 = tokens.map .ok ∧
        checker.receiver = Receiver.deliver reported {} ∧
        checker.reportCount = reported.length ∧ reported.length ≤ tokens.length ∧
        ∀ nonterminal : Nonterminal,
          (checker.stages nonterminal.goals).length ≤ 10 * tokens.length ∧
          ∀ stage ∈ checker.stages nonterminal.goals,
            (stage.goal.isLoop = true → stage.Advances) ∧ stage.ReadingAdvances := by
  intro text checker
  refine ⟨Text.serves_ofString text, by decide +kernel, ?_⟩
  exact every_operation_ends (Text.serves_ofString text) "g" 0 0 ({} : Collector) _

end Lexing

end GrammarCheck
