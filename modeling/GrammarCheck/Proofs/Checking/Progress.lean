import GrammarCheck.Proofs.Checking.Depth
import GrammarCheck.Proofs.Lexing.TokenOrder
import GrammarCheck.Proofs.Lexing.Tracing
import Mathlib.Data.List.Pairwise

/-! # Every production makes progress

A lexer makes the tokens of its text one behind the other, so no token is equal to one made before.
A production takes its name first, and whatever it does then, the lookahead behind it is a later
token. So no token is ever skipped for want of progress.
-/

namespace GrammarCheck

open SteadyStream

/-- The place of a production that left its first token in place. -/
def Event.stuck? : Event → Option Position
  | stuck position => some position
  | _ => none

section Lexing

variable {σ α : Type} {lexer next : Lexer σ} {token : Token}

namespace Cursor

/-- Another token was noted behind this one. -/
def HasPassed (token : Token) (cursor : Cursor σ) : Prop :=
  token ∈ (cursor.noted Event.token?).dropLast

private theorem HasPassed.of_noted_eq {cursor next : Cursor σ} (passed : cursor.HasPassed token)
    (noted : next.noted Event.token? = cursor.noted Event.token?) : next.HasPassed token := by
  rwa [HasPassed, noted]

variable [CharStream σ]

/-- What was passed stays so while a lexer reads on. -/
theorem HasPassed.keepsReading (token : Token) :
    KeepsReading (HasPassed token : Cursor σ → Prop) where
  toKeepsMoving := by
    apply Logs.keepsMoving (P := fun events => token ∈ (events.filterMap Event.token?).dropLast)
    intro events place c? passed
    rwa [List.filterMap_append, Event.token?_ofArrival, List.append_nil]
  token {cursor} found passed := by
    have added : (cursor.note (.token found)).noted Event.token? =
        cursor.noted Event.token? ++ [found] := noted_note ..
    rw [HasPassed, added, List.dropLast_concat]
    exact List.dropLast_subset _ passed

/-- A lexer notes nothing of productions. -/
theorem keepsReading_unstuck : KeepsReading (Recalls Event.stuck? [] : Cursor σ → Prop) where
  toKeepsMoving := Recalls.keepsMoving (Event.filterMap_ofArrival (fun _ _ => rfl) fun _ => rfl) []
  token _ recalls := recalls.note rfl

end Cursor

namespace Lexer

theorem noted_note_of_none {select : Event → Option α} {event : Event}
    (unselected : select event = none) (lexer : Lexer σ) :
    (lexer.note event).cursor.noted select = lexer.cursor.noted select :=
  Cursor.Recalls.note rfl unselected

/-- To let go of the text is noted as no more than that. -/
theorem noted_release {select : Event → Option α}
    (unselected : ∀ source, select (.closed source) = none) (lexer : Lexer σ) :
    lexer.release.cursor.noted select = lexer.cursor.noted select := by
  rw [release]
  dsimp only
  rw [Cursor.release]
  split
  · rfl
  · exact lexer.noted_note_of_none (unselected _)

variable [CharStream σ] [SteadyStream σ] {whole : List Token} {supply : Supply}

/-- The tokens noted are the first of the whole. The last of them is the lookahead, and that is the
first of those that can still be shown. -/
structure InOrder (whole : List Token) (lexer : Lexer σ) : Prop where
  lookahead_eq : lexer.lookahead = (lexer.cursor.noted Event.token?).getLast?
  ahead : ∃ supply, lexer.Supplies supply ∧
    (lexer.cursor.noted Event.token?).dropLast ++ supply.ahead <+: whole

private theorem Supplies.head?_ahead (supplies : lexer.Supplies supply)
    (shown : lexer.lookahead = some token) : supply.ahead.head? = some token := by
  cases supplies with
  | unread unread _ =>
    rw [unread.lookahead_eq] at shown
    contradiction
  | @shown tokens showing _ =>
    rw [← shown, showing.lookahead_eq]
    exact tokens.head?_toList
  | released _ lookahead =>
    rw [← lookahead, shown]
    rfl

namespace InOrder

private theorem noted_eq_nil (ordered : lexer.InOrder whole) (unread : lexer.lookahead = none) :
    lexer.cursor.noted Event.token? = [] :=
  List.getLast?_eq_none_iff.mp (ordered.lookahead_eq.symm.trans unread)

theorem noted_eq (ordered : lexer.InOrder whole) (shown : lexer.lookahead = some token) :
    lexer.cursor.noted Event.token? =
      (lexer.cursor.noted Event.token?).dropLast ++ [token] :=
  (List.dropLast_append_getLast? token (ordered.lookahead_eq.symm.trans shown)).symm

/-- The tokens are noted as they stand in the text. -/
theorem noted_prefix (ordered : lexer.InOrder whole) :
    lexer.cursor.noted Event.token? <+: whole := by
  obtain ⟨supply, supplies, within⟩ := ordered.ahead
  cases shown : lexer.lookahead with
  | none =>
    rw [ordered.noted_eq_nil shown]
    exact List.nil_prefix
  | some token =>
    obtain ⟨behind, split⟩ := List.head?_eq_some_iff.mp (supplies.head?_ahead shown)
    rw [split, List.append_cons, ← ordered.noted_eq shown] at within
    exact (List.prefix_append _ _).trans within

/-- The lookahead stands behind all that was passed. -/
theorem exists_lookahead (ordered : lexer.InOrder whole)
    (sorted : whole.Pairwise (·.position.place < ·.position.place))
    (passed : lexer.cursor.HasPassed token) : ∃ later,
      lexer.lookahead = some later ∧ token.position.place < later.position.place := by
  have noted : lexer.cursor.noted Event.token? ≠ [] :=
    List.ne_nil_of_mem (List.dropLast_subset _ passed)
  refine ⟨_, ordered.lookahead_eq.trans (List.getLast?_eq_some_getLast noted), ?_⟩
  exact (sorted.sublist ordered.noted_prefix.sublist).rel_dropLast_getLast passed

/-- Any token but the end is passed when it is dropped. -/
theorem hasPassed_of_drop (ordered : lexer.InOrder whole) (shown : lexer.lookahead = some token)
    (running : token.kind ≠ .endOfInput) (dropped : lexer.drop = .ok () next) :
    next.cursor.HasPassed token := by
  obtain ⟨last, held, ended, -⟩ | ⟨-, _, -, added⟩ := noted_of_drop dropped
  · obtain rfl := Option.some.inj (shown.symm.trans held)
    contradiction
  · rw [Cursor.HasPassed, added, List.dropLast_concat, ordered.noted_eq shown]
    exact List.mem_concat_self

/-- As long as nothing is noted and the lookahead stays, what is ahead may only become less. -/
private theorem of_noted_eq (ordered : lexer.InOrder whole)
    (noted : next.cursor.noted Event.token? = lexer.cursor.noted Event.token?)
    (held : next.lookahead = lexer.lookahead)
    (fewer : ∀ supply, lexer.Supplies supply →
      ∃ left, next.Supplies left ∧ left.ahead <+: supply.ahead) : next.InOrder whole where
  lookahead_eq := by rw [held, noted, ordered.lookahead_eq]
  ahead := by
    obtain ⟨supply, supplies, within⟩ := ordered.ahead
    obtain ⟨left, leaves, part⟩ := fewer supply supplies
    rw [noted]
    exact ⟨left, leaves, ((List.prefix_append_right_inj _).mpr part).trans within⟩

theorem note (ordered : lexer.InOrder whole) {event : Event}
    (unselected : event.token? = none) : (lexer.note event).InOrder whole :=
  ordered.of_noted_eq (lexer.noted_note_of_none unselected) rfl fun supply supplies =>
    ⟨supply, supplies.note event, List.prefix_refl _⟩

theorem release (ordered : lexer.InOrder whole) : lexer.release.InOrder whole :=
  ordered.of_noted_eq (lexer.noted_release fun _ => rfl) rfl fun supply supplies =>
    ⟨supply.release, supplies.release, supply.ahead_release_prefix⟩

/-- What is shown next is noted next. -/
private theorem of_added (showing : next.Supplies supply) (shown : next.lookahead = some token)
    (added : next.cursor.noted Event.token? = lexer.cursor.noted Event.token? ++ [token])
    (within : lexer.cursor.noted Event.token? ++ supply.ahead <+: whole) :
    next.InOrder whole where
  lookahead_eq := by rw [shown, added, List.getLast?_concat]
  ahead := ⟨supply, showing, by rwa [added, List.dropLast_concat]⟩

theorem drop (ordered : lexer.InOrder whole) : lexer.drop.state.InOrder whole := by
  obtain ⟨supply, supplies, within⟩ := ordered.ahead
  cases supplies with
  | unread unread going =>
    obtain ⟨next, dropped, showing, same⟩ := unread.drop
    rw [ordered.noted_eq_nil unread.lookahead_eq] at within
    rw [dropped]
    obtain ⟨last, shown, -⟩ | ⟨-, token, shown, added⟩ := noted_of_drop dropped
    · rw [unread.lookahead_eq] at shown
      contradiction
    · refine .of_added (.shown showing (same.trans going)) shown added ?_
      rwa [ordered.noted_eq_nil unread.lookahead_eq]
  | @shown tokens showing going =>
    obtain ⟨next, dropped, following, same⟩ := showing.drop
    rw [dropped]
    obtain ⟨_, -, -, rfl⟩ | ⟨running, token, shown, added⟩ := noted_of_drop dropped
    · exact ordered
    · refine .of_added (.shown following (same.trans going)) shown added ?_
      have ahead := Tokens.toList_of_ne_endOfInput (running _ showing.lookahead_eq)
      rw [ordered.noted_eq showing.lookahead_eq, List.append_assoc]
      rwa [Supply.ahead, ahead] at within
  | released released _ =>
    rw [Lexer.drop, if_pos released]
    exact ordered

theorem peek (ordered : lexer.InOrder whole) : lexer.peek.state.InOrder whole := by
  rw [peek_eq]
  split
  · exact ordered
  · refine Outcome.holds_andThen ordered.drop fun () next holds => ?_
    split <;> exact holds

end InOrder

end Lexer

end Lexing

namespace Checker

open Goal

section Goals

variable {τ ρ : Type} [TokenStream τ] {checker next now finish : Checker τ ρ} {goal : Goal}
  {goals pushed front back : List Goal} {first token : Token}

private theorem mem_of_mem_enterFactor (entered : checker.enterFactor token goals = .ok pushed next)
    (member : .progress first ∈ pushed) : .progress first ∈ goals := by
  rw [enterFactor] at entered
  split at entered
  · obtain ⟨_, _, rfl⟩ := Outcome.map_eq_ok_iff.mp entered
    exact member
  split at entered
  · contradiction
  · obtain ⟨_, middle, _, inside⟩ := Outcome.andThen_eq_ok_iff.mp entered
    obtain ⟨rfl, -⟩ := Outcome.ok.inj inside
    simpa using member

variable [Receiver ρ]

/-- What has to make progress starts with a name, which was the lookahead and is dropped. -/
private theorem exists_drop_of_begun (stepped : checker.step goal = .ok pushed next)
    (begun : .progress first ∈ pushed) : ∃ middle, checker.peek = .ok first middle ∧
      first.kind = .identifier ∧ middle.drop = .ok () next := by
  cases goal with
  | production | definition | expression | term =>
    obtain ⟨rfl, -⟩ := Outcome.ok.inj stepped
    simp at begun
  | oneOf _ | groupEnd _ =>
    obtain ⟨_, -, rfl⟩ := Outcome.map_eq_ok_iff.mp stepped
    contradiction
  | productions =>
    obtain ⟨token, middle, shown, further⟩ := Outcome.andThen_eq_ok_iff.mp stepped
    split at further
    · next named =>
      obtain ⟨_, dropped, rfl⟩ := Outcome.map_eq_ok_iff.mp further
      obtain rfl : first = token := by simpa using begun
      exact ⟨middle, shown, named, dropped⟩
    · obtain ⟨rfl, -⟩ := Outcome.ok.inj further
      contradiction
  | progress _ | alternatives =>
    obtain ⟨token, middle, -, further⟩ := Outcome.andThen_eq_ok_iff.mp stepped
    split at further
    · obtain ⟨_, -, rfl⟩ := Outcome.map_eq_ok_iff.mp further
      simp at begun
    · obtain ⟨rfl, -⟩ := Outcome.ok.inj further
      contradiction
  | factors =>
    obtain ⟨token, middle, -, further⟩ := Outcome.andThen_eq_ok_iff.mp stepped
    split at further
    · have member := mem_of_mem_enterFactor further begun
      simp at member
    · obtain ⟨rfl, -⟩ := Outcome.ok.inj further
      contradiction
  | factor =>
    obtain ⟨token, middle, -, further⟩ := Outcome.andThen_eq_ok_iff.mp stepped
    split at further
    · have member := mem_of_mem_enterFactor further begun
      contradiction
    · obtain ⟨_, -, rfl⟩ := Outcome.map_eq_ok_iff.mp further
      contradiction

/-- A run that comes through its first goals comes to the others. -/
private theorem Reaches.exists_within {passed : List (Stage τ ρ)}
    (reaches : checker.Reaches goals passed (front ++ back) now)
    (ran : now.run front = .ok () finish) :
    ∃ within, checker.Reaches goals (passed ++ within) back finish := by
  induction front, now using run.induct generalizing passed with
  | case1 now =>
    rw [run_nil] at ran
    obtain ⟨-, rfl⟩ := Outcome.ok.inj ran
    exact ⟨[], by rwa [List.append_nil]⟩
  | case2 now goal front failure next failed =>
    rw [run_of_step_error failed] at ran
    contradiction
  | case3 now goal front pushed next stepped ih =>
    rw [run_of_step_ok stepped] at ran
    rw [List.cons_append] at reaches
    have further := reaches.step stepped
    rw [← List.append_assoc] at further
    obtain ⟨within, there⟩ := ih further ran
    exact ⟨⟨goal, now⟩ :: within, by rwa [List.append_cons]⟩

end Goals

section Advancing

variable {σ ρ : Type} [CharStream σ] [SteadyStream σ] {whole : List Token}
  {checker next now : Checker (Lexer σ) ρ} {goal : Goal} {goals fewer pushed : List Goal}
  {first token : Token}

omit [SteadyStream σ] in
private theorem peek_of_lookahead (shown : checker.tokens.lookahead = some token) :
    checker.peek = .ok token checker := by
  have peeked : checker.tokens.peek = .ok token checker.tokens := by rw [Lexer.peek_eq, shown]
  exact congrArg (Outcome.lift id _) peeked

/-- The tokens of the whole were shown in order and none was skipped for want of progress. What has
to make progress has done so. -/
structure Advancing (whole : List Token) (goals : List Goal) (checker : Checker (Lexer σ) ρ) :
    Prop where
  ordered : checker.tokens.InOrder whole
  smooth : checker.tokens.On (Cursor.Recalls Event.stuck? [])
  begun : ∀ first, .progress first ∈ goals → checker.tokens.On (Cursor.HasPassed first)

namespace Advancing

private theorem of_subset (advancing : checker.Advancing whole goals)
    (subset : ∀ first, .progress first ∈ fewer → .progress first ∈ goals) :
    checker.Advancing whole fewer where
  ordered := advancing.ordered
  smooth := advancing.smooth
  begun first member := advancing.begun first (subset first member)

theorem note {event : Event} (advancing : checker.Advancing whole goals)
    (noToken : event.token? = none) (noStuck : event.stuck? = none) :
    (checker.note event).Advancing whole goals where
  ordered := advancing.ordered.note noToken
  smooth := Cursor.Recalls.note advancing.smooth noStuck
  begun first member :=
    (advancing.begun first member).of_noted_eq (checker.tokens.noted_note_of_none noToken)

theorem peek (advancing : checker.Advancing whole goals) :
    checker.peek.state.Advancing whole goals := by
  rw [Checker.peek, Outcome.state_lift]
  constructor
  · exact advancing.ordered.peek
  · exact Cursor.keepsReading_unstuck.peek advancing.smooth
  · exact fun first member =>
      (Cursor.HasPassed.keepsReading first).peek (advancing.begun first member)

theorem drop (advancing : checker.Advancing whole goals) :
    checker.drop.state.Advancing whole goals := by
  rw [Checker.drop, Outcome.state_lift]
  constructor
  · exact advancing.ordered.drop
  · exact Cursor.keepsReading_unstuck.drop advancing.smooth
  · exact fun first member =>
      (Cursor.HasPassed.keepsReading first).drop (advancing.begun first member)

theorem release (advancing : checker.Advancing whole goals) :
    checker.release.Advancing whole goals where
  ordered := advancing.ordered.release
  smooth := (checker.tokens.noted_release fun _ => rfl).trans advancing.smooth
  begun first member :=
    (advancing.begun first member).of_noted_eq (checker.tokens.noted_release fun _ => rfl)

variable [Receiver ρ]

theorem reject (advancing : checker.Advancing whole goals) (found : Token)
    (expected : List Token.Kind) : (checker.reject found expected).state.Advancing whole goals := by
  rw [Checker.reject]
  split
  · exact advancing.note rfl rfl
  · rw [Outcome.state_lift]
    have noted : (checker.note (.reported ⟨found, expected⟩)).Advancing whole goals :=
      advancing.note rfl rfl
    exact ⟨noted.ordered, noted.smooth, noted.begun⟩

theorem sustains (whole : List Token) (goals : List Goal) : Sustains
    (Advancing whole goals : Checker (Lexer σ) ρ → Prop)
    fun (_ : Token) (checker : Checker (Lexer σ) ρ) => checker.Advancing whole goals where
  of_showing advancing := advancing
  peek_ok {checker next token} advancing shown := by
    have after := advancing.peek
    rwa [shown] at after
  peek_error {checker next failure} advancing failed := by
    have after := advancing.peek
    rwa [failed] at after
  drop advancing := advancing.drop
  reject expected advancing := advancing.reject _ expected
  withDepth depth advancing := ⟨advancing.ordered, advancing.smooth, advancing.begun⟩

variable (sorted : whole.Pairwise (·.position.place < ·.position.place))

include sorted

omit [Receiver ρ] in
/-- Behind a production the lookahead is a later token. -/
theorem exists_peek (advancing : checker.Advancing whole (.progress first :: goals)) :
    ∃ token, checker.peek = .ok token checker ∧
      first.position.place < token.position.place := by
  have passed := advancing.begun first (List.mem_cons_self ..)
  obtain ⟨token, shown, later⟩ := advancing.ordered.exists_lookahead sorted passed
  exact ⟨token, peek_of_lookahead shown, later⟩

/-- So there is nothing to do for progress. -/
theorem step_progress (advancing : checker.Advancing whole (.progress first :: goals)) :
    checker.step (.progress first) = .ok [] checker := by
  obtain ⟨token, shown, later⟩ := advancing.exists_peek sorted
  have other : token ≠ first := by
    rintro rfl
    exact lt_irrefl _ later
  rw [Checker.step, shown, Outcome.andThen_ok, if_neg other]

theorem state_step (advancing : checker.Advancing whole (goal :: goals)) :
    (checker.step goal).state.Advancing whole goals := by
  -- Only for want of progress could a token be skipped, and there is none.
  have behind := advancing.of_subset fun _ => List.mem_cons_of_mem goal
  by_cases plain : ∀ first, goal ≠ .progress first
  · exact (sustains whole goals).step plain behind
  · push Not at plain
    obtain ⟨first, rfl⟩ := plain
    rw [advancing.step_progress sorted]
    exact behind

/-- What a step begins has its name behind it. -/
theorem step (advancing : checker.Advancing whole (goal :: goals))
    (stepped : checker.step goal = .ok pushed next) :
    next.Advancing whole (pushed ++ goals) := by
  have after := advancing.state_step sorted
  rw [stepped] at after
  refine ⟨after.ordered, after.smooth, fun first member => ?_⟩
  obtain pushed | member := List.mem_append.mp member
  · obtain ⟨middle, shown, named, dropped⟩ := exists_drop_of_begun stepped pushed
    have looked := advancing.peek
    rw [shown] at looked
    obtain ⟨tokens, read, rfl⟩ := Outcome.lift_eq_ok_iff.mp shown
    obtain ⟨rest, moved, rfl⟩ := Outcome.lift_eq_ok_iff.mp dropped
    have running : first.kind ≠ .endOfInput := by simp [named]
    exact looked.ordered.hasPassed_of_drop (Lexer.lookahead_of_peek read) running moved
  · exact after.begun first member

theorem state_run (advancing : checker.Advancing whole goals) :
    (checker.run goals).state.Advancing whole [] := by
  induction goals, checker using run.induct with
  | case1 checker =>
    rw [run_nil]
    exact advancing
  | case2 checker goal goals failure next failed =>
    have after := advancing.state_step sorted
    rw [failed] at after
    rw [run_of_step_error failed]
    exact ⟨after.ordered, after.smooth, fun _ member => absurd member List.not_mem_nil⟩
  | case3 checker goal goals pushed next stepped ih =>
    rw [run_of_step_ok stepped]
    exact ih (advancing.step sorted stepped)

theorem of_reaches {passed : List (Stage (Lexer σ) ρ)} {left : List Goal}
    (advancing : checker.Advancing whole goals) (reaches : checker.Reaches goals passed left now) :
    now.Advancing whole left := by
  induction reaches with
  | start => exact advancing
  | step _ stepped ih => exact ih.step sorted stepped

omit [Receiver ρ] sorted in
/-- At its start a check has nothing begun. -/
theorem check (advancing : checker.Advancing whole []) (nonterminal : Nonterminal) :
    checker.Advancing whole nonterminal.goals := by
  apply advancing.of_subset
  intro first member
  cases nonterminal <;> simp [Nonterminal.goals] at member

theorem performEach (advancing : checker.Advancing whole []) (operations : List Operation) :
    (checker.performEach operations).Advancing whole [] := by
  induction operations generalizing checker with
  | nil => exact advancing
  | cons operation further ih =>
    apply ih
    cases operation with
    | check nonterminal => exact (advancing.check nonterminal).state_run sorted
    | release => exact advancing.release

end Advancing

/-- A check starts with nothing shown. -/
theorem exists_advancing_start {source : σ} {text : List Char} (serves : Serves source text)
    (name : String) (line column : Nat) (receiver : ρ) : ∃ tokens : List Token,
      (Lexer.start source name line column).toList.1 = tokens.map .ok ∧
      tokens.Pairwise (·.position.place < ·.position.place) ∧
      (Checker.start source name line column receiver).Advancing tokens [] := by
  obtain ⟨tokens, lexed, unread⟩ := Lexer.exists_unread_start serves name line column
  refine ⟨tokens.toList, Lexer.toList_of_offers (.inl unread) rfl, lexed.sorted.2, ?_, rfl, nofun⟩
  exact ⟨rfl, .unread tokens, .unread unread rfl, List.prefix_refl _⟩

variable [Receiver ρ] {start held finish : Checker (Lexer σ) ρ} {behind : List Goal}
  {passed : List (Stage (Lexer σ) ρ)}

omit [SteadyStream σ] in
/-- The turn of the loop over productions that starts with a name is a production from this name
on. -/
private theorem Reaches.exists_turn
    (reaches : checker.Reaches goals passed (.productions :: behind) start)
    (shown : start.peek = .ok first held) (named : first.kind = .identifier)
    (produced : held.check .production = .ok () finish) : ∃ within,
      checker.Reaches goals (passed ++ within) (.progress first :: .productions :: behind)
        finish := by
  have again : held.peek = .ok first held := by
    obtain ⟨tokens, read, rfl⟩ := Outcome.lift_eq_ok_iff.mp shown
    exact peek_of_lookahead (Lexer.lookahead_of_peek read)
  -- The production drops its name as the loop does, and goes on with the same goal.
  obtain ⟨_, middle, expanded, ran⟩ := exists_step_of_run_ok produced
  obtain ⟨rfl, rfl⟩ := Outcome.ok.inj expanded
  obtain ⟨_, next, taken, defined⟩ := exists_step_of_run_ok ran
  obtain ⟨_, required, rfl⟩ := Outcome.map_eq_ok_iff.mp taken
  rw [require, again, Outcome.andThen_ok, if_pos (by simp [named])] at required
  have stepped : start.step .productions =
      .ok [.definition, .progress first, .productions] next := by
    rw [Checker.step, shown, Outcome.andThen_ok, if_pos named, required]
    rfl
  have entered : checker.Reaches goals (passed ++ [⟨.productions, start⟩])
      ([.definition] ++ .progress first :: .productions :: behind) next := reaches.step stepped
  obtain ⟨within, there⟩ := entered.exists_within defined
  exact ⟨⟨.productions, start⟩ :: within, by rwa [List.append_cons]⟩

end Advancing

end Checker

/-- The tokens of a text are shown in its order, each behind those before it. Whatever was asked of
a checker, none was skipped because a production had left it in place. When the next check of the
text comes to a name and the production from there on comes through, the lookahead is a later token,
and the check goes on with that. -/
theorem every_production_makes_progress {σ ρ : Type} [CharStream σ] [SteadyStream σ] [Receiver ρ]
    {source : σ} {text : List Char} (serves : Serves source text) (name : String)
    (line column : Nat) (receiver : ρ) (operations : List Operation) :
    let checker := (Checker.start source name line column receiver).performEach operations
    (∃ tokens : List Token, (Lexer.start source name line column).toList.1 = tokens.map .ok ∧
      checker.tokens.cursor.noted Event.token? <+: tokens ∧
      tokens.Pairwise (·.position.place < ·.position.place)) ∧
    checker.tokens.cursor.noted Event.stuck? = [] ∧
    ∀ passed behind start first held finish,
      checker.Reaches Nonterminal.text.goals passed (.productions :: behind) start →
      start.peek = .ok first held → first.kind = .identifier →
      held.check .production = .ok () finish →
        (∃ within, checker.Reaches Nonterminal.text.goals (passed ++ within)
          (.progress first :: .productions :: behind) finish) ∧
        ∃ token, finish.peek = .ok token finish ∧ token ≠ first ∧
          first.position.place < token.position.place ∧
          finish.step (.progress first) = .ok [] finish := by
  intro checker
  obtain ⟨tokens, listed, sorted, start⟩ :=
    Checker.exists_advancing_start serves name line column receiver
  have advancing : checker.Advancing tokens [] := start.performEach sorted operations
  refine ⟨⟨tokens, listed, advancing.ordered.noted_prefix, sorted⟩, advancing.smooth, ?_⟩
  intro passed behind start first held finish reaches shown named produced
  obtain ⟨within, there⟩ := reaches.exists_turn shown named produced
  have begun := (advancing.check .text).of_reaches sorted there
  obtain ⟨token, seen, later⟩ := begun.exists_peek sorted
  refine ⟨⟨within, there⟩, token, seen, ?_, later, begun.step_progress sorted⟩
  rintro rfl
  exact lt_irrefl _ later

theorem progress_behind_a_wrong_production :
    let text := "x\nS = | y ;\nT"
    let checker := (Checker.start (Text.ofString text) "g" 0 0 ({} : Collector)).performEach
      [.check .factor]
    let first : Token := ⟨⟨"g", 2, 1⟩, .identifier, "S"⟩
    let held := checker.peek.state
    let finish := (held.check .production).state
    SteadyStream.Serves (Text.ofString text) text.toList ∧
      checker.Reaches Nonterminal.text.goals [] [.productions, .oneOf [.endOfInput]] checker ∧
      checker.peek = .ok first held ∧ first.kind = .identifier ∧
      held.check .production = .ok () finish ∧ finish.reportCount = 2 ∧
      (∃ tokens : List Token, (Lexer.start (Text.ofString text) "g" 0 0).toList.1 = tokens.map .ok ∧
        checker.tokens.cursor.noted Event.token? <+: tokens ∧
        tokens.Pairwise (·.position.place < ·.position.place)) ∧
      checker.tokens.cursor.noted Event.stuck? = [] ∧
      (∃ within, checker.Reaches Nonterminal.text.goals ([] ++ within)
        [.progress first, .productions, .oneOf [.endOfInput]] finish) ∧
      ∃ token, finish.peek = .ok token finish ∧ token ≠ first ∧
        first.position.place < token.position.place ∧
        finish.step (.progress first) = .ok [] finish := by
  intro text checker first held finish
  have shown : checker.peek = .ok first held := Outcome.eq_ok_of_result_eq (by decide +kernel)
  have produced : held.check .production = .ok () finish :=
    Outcome.eq_ok_of_result_eq (by decide +kernel)
  obtain ⟨listed, smooth, turn⟩ := every_production_makes_progress (Text.serves_ofString text) "g"
    0 0 ({} : Collector) [.check .factor]
  refine ⟨Text.serves_ofString text, .start, shown, rfl, produced, by decide +kernel, listed,
    smooth, ?_⟩
  exact turn [] _ checker first held finish .start shown rfl produced

end GrammarCheck
