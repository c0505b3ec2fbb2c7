import GrammarCheck.Check
import GrammarCheck.Proofs.Checking.Following
import GrammarCheck.Proofs.Checking.Tracking
import GrammarCheck.Proofs.Lexing.Listing
import GrammarCheck.Proofs.Lexing.TokenOrder

/-! # Checks of a whole text

A check of a text is a check of its tokens. It takes tokens in silence until it is through with the
text, or stands in front of the first token that it cannot take.
-/

namespace GrammarCheck

open Goal

variable {ρ : Type} [Receiver ρ]

/-- Checks the tokens of a whole text and returns the number of its diagnostics. -/
def Tokens.check (tokens : Tokens) (receiver : ρ) : Outcome Failure (Checker Tokens ρ) Nat :=
  (Checker.check .text { tokens, receiver }).andThen fun () checker =>
    .ok checker.reportCount checker

section Run

variable {σ : Type} [CharStream σ] (source : σ) (name : String) (receiver : ρ)

/-- The run of a check, before its number of diagnostics is given and its text is let go. -/
def checkRun : Outcome Failure (Checker (Lexer σ) ρ) Unit :=
  ((Checker.start source name 0 0 receiver).note (.checking name)).check .text

theorem check_result : (check source name receiver).result =
    (checkRun source name receiver).result.map
      fun () => (checkRun source name receiver).state.reportCount := by
  change Outcome.result ((checkRun source name receiver).andThen _) = _
  cases checkRun source name receiver <;> rfl

theorem check_receiver : (check source name receiver).state.receiver =
    (checkRun source name receiver).state.receiver := by
  change Checker.receiver (Outcome.state ((checkRun source name receiver).andThen _)) = _
  cases checkRun source name receiver <;> rfl

/-- A stream that is let go is left as it was. -/
theorem check_stream : (check source name receiver).state.tokens.cursor.source =
    (checkRun source name receiver).state.tokens.cursor.source := by
  change (Outcome.state ((checkRun source name receiver).andThen _)).tokens.cursor.source = _
  cases checkRun source name receiver with
  | error failure checker => rfl
  | ok _ checker =>
    change checker.tokens.cursor.release.source = _
    rw [Cursor.release]
    split <;> rfl

end Run

section Lexing

variable {σ : Type} [CharStream σ] [SteadyStream σ]

theorem Lexer.tracks :
    TokenStream.Tracks (Lexer.Offers : Lexer σ → Tokens → Prop) Lexer.Shows where
  offers_of_shows := .inr
  peek offers := by
    obtain ⟨next, shown, showing, -⟩ := offers.peek
    change Outcome.Alike Lexer.Shows (Lexer.peek _) _
    rw [shown]
    exact .ok _ showing
  drop showing := by
    obtain ⟨next, dropped, following, -⟩ := showing.drop
    change Outcome.Alike Lexer.Shows (Lexer.drop _) _
    rw [dropped]
    exact .ok _ following
  note event showing := showing.note event

omit [Receiver ρ] in
/-- A checker that starts on a text agrees with one that starts on the tokens of the text. -/
theorem exists_start_alike {source : σ} {text : List Char}
    (serves : SteadyStream.Serves source text) (name : String) (line column : Nat) (receiver : ρ) :
    ∃ tokens, Lexed ⟨name, line + 1, 1⟩ text tokens ∧
      (Lexer.start source name line column).toList.1 = tokens.toList.map .ok ∧
      Checker.Alike Lexer.Offers (Checker.start source name line column receiver)
        ⟨tokens, receiver, none, 0, 0⟩ := by
  obtain ⟨tokens, lexed, unread⟩ := Lexer.exists_unread_start serves name line column
  refine ⟨tokens, lexed, Lexer.toList_of_offers (.inl unread) rfl, ?_⟩
  exact ⟨.inl unread, rfl, rfl, rfl, rfl⟩

/-- The run of a check agrees with the check of the tokens. -/
theorem exists_run_alike {source : σ} {text : List Char}
    (serves : SteadyStream.Serves source text) (name : String) (receiver : ρ) : ∃ tokens,
      Lexed ⟨name, 1, 1⟩ text tokens ∧
      (Lexer.start source name 0 0).toList.1 = tokens.toList.map .ok ∧
      Outcome.Alike (Checker.Alike Lexer.Offers) (checkRun source name receiver)
        (Checker.check .text ⟨tokens, receiver, none, 0, 0⟩) := by
  obtain ⟨tokens, lexed, listed, alike⟩ := exists_start_alike serves name 0 0 receiver
  refine ⟨tokens, lexed, listed, ?_⟩
  have start : Checker.Alike Lexer.Offers
      ((Checker.start source name 0 0 receiver).note (.checking name))
      ⟨tokens, receiver, none, 0, 0⟩ :=
    { alike with tokens := Lexer.Offers.note alike.tokens _ }
  exact Checker.alike_run Lexer.tracks start

/-- A check of a text ends like the check of its tokens, with the same number of reports. -/
theorem exists_check_counts_alike {source : σ} {text : List Char}
    (serves : SteadyStream.Serves source text) (name : String) (receiver : ρ) : ∃ tokens,
      Lexed ⟨name, 1, 1⟩ text tokens ∧
      (Lexer.start source name 0 0).toList.1 = tokens.toList.map .ok ∧
      Outcome.Alike (fun lexing listed =>
          lexing.receiver = listed.receiver ∧ lexing.reportCount = listed.reportCount)
        (check source name receiver) (tokens.check receiver) := by
  obtain ⟨tokens, lexed, listed, alike⟩ := exists_run_alike serves name receiver
  refine ⟨tokens, lexed, listed,
    alike.andThen (fun alike => ⟨alike.receiver_eq, alike.reportCount_eq⟩) fun _ _ _ alike => ?_⟩
  rw [alike.reportCount_eq]
  exact .ok _ ⟨alike.receiver_eq, alike.reportCount_eq⟩

/-- A check of a text ends like the check of its tokens, with the same receiver. -/
theorem exists_check_alike {source : σ} {text : List Char}
    (serves : SteadyStream.Serves source text) (name : String) (receiver : ρ) : ∃ tokens,
      Lexed ⟨name, 1, 1⟩ text tokens ∧
      (Lexer.start source name 0 0).toList.1 = tokens.toList.map .ok ∧
      Outcome.Alike (fun lexing listed => lexing.receiver = listed.receiver)
        (check source name receiver) (tokens.check receiver) := by
  obtain ⟨tokens, lexed, listed, alike⟩ := exists_check_counts_alike serves name receiver
  exact ⟨tokens, lexed, listed, alike.mono And.left⟩

end Lexing

/-- Whatever deliveries keep holds in the end if it holds once the diagnostic is handed over as the
first. -/
def Tokens.FirstReports (tokens : Tokens) (receiver : ρ) (diagnostic : Diagnostic) : Prop :=
  ∀ P : ρ → Nat → Prop, (∀ other receiver count, P receiver count →
      P (Receiver.receive other receiver).state (count + 1)) →
    P (Receiver.receive diagnostic receiver).state 1 → (tokens.check receiver).state.Holds P

/-- A first report counts. -/
theorem Tokens.FirstReports.reportCount_pos {tokens : Tokens} {receiver : ρ}
    {diagnostic : Diagnostic} (reports : tokens.FirstReports receiver diagnostic) :
    0 < (tokens.check receiver).state.reportCount :=
  reports (fun _ count => 0 < count) (fun _ _ _ _ => Nat.succ_pos _) Nat.one_pos

namespace Lexed

variable {position : Position} {text : List Char} {tokens : Tokens} (receiver : ρ)

omit [Receiver ρ]

theorem ready (lexed : Lexed position text tokens) :
    Checker.Ready ⟨tokens, receiver, none, 0, 0⟩ [.productions] where
  inner := List.forall_mem_singleton.mpr ⟨by decide, .inl rfl⟩
  depth_eq := rfl
  running := lexed.ne_endOfInput
  apart := lexed.nodup
  fresh first member := by simp at member

end Lexed

section Check

variable {position : Position} {text : List Char} {tokens later : Tokens} {receiver : ρ}
  {taken : List Token} {target : List Goal}

theorem Checker.Follows.check_eq
    (follows : Checker.Follows ⟨tokens, receiver, none, 0, 0⟩ [.productions] taken target later) :
    tokens.check receiver =
      (Checker.run (target ++ [.oneOf [.endOfInput]])
        ⟨later, receiver, none, 0, openGroups target⟩).andThen
        fun () checker => .ok checker.reportCount checker := by
  have whole : Checker.run ([.productions] ++ [.oneOf [.endOfInput]])
      (⟨tokens, receiver, none, 0, 0⟩ : Checker Tokens ρ) = _ := Checker.run_append rfl
  rw [follows.run_eq, ← Checker.run_append rfl] at whole
  exact congrArg (Outcome.andThen · _) whole

theorem Checker.Follows.firstReports {goal : Goal} {goals : List Goal}
    (follows : Checker.Follows ⟨tokens, receiver, none, 0, 0⟩ [.productions] taken target later)
    (next : target ++ [.oneOf [.endOfInput]] = goal :: goals) (misfits : goal.Misfits later.first) :
    tokens.FirstReports receiver ⟨later.first, goal.firsts⟩ := by
  intro P delivers first
  have depth : openGroups target = openGroups (goal :: goals) := by
    rw [← next, openGroups_append]
    rfl
  rw [follows.check_eq, next]
  refine Checker.holds_andThen ?_ fun _ _ kept => kept
  exact Checker.holds_run_of_misfits delivers misfits depth rfl first

/-- How the check of a text ends that takes the tokens `taken` in silence. -/
inductive Tokens.CheckEnds (tokens : Tokens) (receiver : ρ) (taken : List Token) : Prop
  | passes {last : Token} (split : tokens.toList = taken ++ [last])
    (ended : last.kind = .endOfInput) (course : Course last [.productions] taken [])
    (passed : ∃ checker, tokens.check receiver = .ok 0 checker ∧ checker.receiver = receiver)
  | tooDeep {found : Token} {after : List Token} {goal : Goal} {goals pushed : List Goal}
    (split : tokens.toList = taken ++ found :: after)
    (course : Course found [.productions] taken (goal :: goals))
    (inner : ∀ other ∈ goals, other.Inner) (takes : goal.Takes found pushed)
    (full : ¬ openGroups pushed ≤ nestingLimit - openGroups goals)
    (failed : ∃ checker, tokens.check receiver =
      .error (.nestingTooDeep found.position nestingLimit) checker ∧
      checker.receiver = receiver ∧ checker.reportCount = 0)
  | misplaced {found : Token} {after : List Token} {target : List Goal}
    {expected : List Token.Kind} (split : tokens.toList = taken ++ found :: after)
    (course : Course found [.productions] taken target)
    (misplaced : Misplaced (taken.map Token.kind) found.kind expected)
    (reports : tokens.FirstReports receiver ⟨found, expected⟩)

theorem Tokens.exists_checkEnds (lexed : Lexed position text tokens) (receiver : ρ) :
    ∃ taken, tokens.CheckEnds receiver taken := by
  obtain ⟨taken, target, later, follows⟩ := Checker.exists_follows (lexed.ready receiver)
  obtain ⟨after, ahead⟩ := List.head?_eq_some_iff.mp later.head?_toList
  have split := follows.split
  dsimp only at split
  rw [ahead] at split
  refine ⟨taken, ?_⟩
  -- With the productions done the end has to come, and else the first goal decides.
  cases target with
  | nil =>
    by_cases ended : later.first.kind = .endOfInput
    · have fits : Takes later.first (.oneOf [.endOfInput]) [] :=
        .oneOf (List.mem_singleton.mpr ended)
      have last := Tokens.toList_of_endOfInput follows.ready.running ended
      refine .passes ?_ ended follows.course ?_
      · rw [split, ← ahead, last]
      · rw [follows.check_eq, List.nil_append,
          Checker.run_of_step_ok (Checker.step_of_takes fits rfl (Nat.zero_le _)), List.append_nil,
          Checker.run_nil]
        exact ⟨_, rfl, rfl⟩
    · have misfits : Misfits later.first (.oneOf [.endOfInput]) :=
        .oneOf (mt List.mem_singleton.mp ended)
      exact .misplaced split follows.course (follows.course.misplaced_of_done ended)
        (follows.firstReports rfl misfits)
  | cons goal goals =>
    have inner := follows.ready.inner
    cases follows.stuck with
    | misfit misfits =>
      exact .misplaced split follows.course (follows.course.misplaced inner misfits)
        (follows.firstReports rfl misfits)
    | tooDeep takes full =>
      refine .tooDeep split follows.course (List.forall_mem_cons.mp inner).2 takes full ?_
      rw [follows.check_eq, List.cons_append,
        Checker.run_of_step_error (Checker.step_of_full takes follows.ready.depth_eq full)]
      exact ⟨_, rfl, rfl, rfl⟩

/-- A check passes a text of the grammar in silence, it fails at a group too deep before it reports
anything, or it first reports a token that is misplaced. -/
theorem Tokens.check_cases (lexed : Lexed position text tokens) (receiver : ρ) :
    (Sentence nestingLimit .text tokens.kinds ∧
      ∃ checker, tokens.check receiver = .ok 0 checker ∧ checker.receiver = receiver) ∨
    (¬ Sentence nestingLimit .text tokens.kinds ∧
      ∃ failure checker, tokens.check receiver = .error failure checker ∧
        checker.receiver = receiver) ∨
    ∃ before found after expected, tokens.toList = before ++ found :: after ∧
      Misplaced (before.map Token.kind) found.kind expected ∧
      tokens.FirstReports receiver ⟨found, expected⟩ := by
  obtain ⟨taken, ends⟩ := Tokens.exists_checkEnds lexed receiver
  cases ends with
  | passes split ended course passed =>
    refine .inl ⟨?_, passed⟩
    have sentence := course.sentence (Nat.le_refl _) rfl
    rwa [Tokens.kinds, split, List.map_append, List.map_singleton, ended]
  | tooDeep split course _ takes full failed =>
    obtain ⟨checker, failed, untouched, -⟩ := failed
    refine .inr (.inl ⟨?_, _, checker, failed, untouched⟩)
    rw [Tokens.kinds, split, List.map_append]
    exact course.not_sentence_of_full takes full
  | misplaced split _ misplaced reports =>
    exact .inr (.inr ⟨_, _, _, _, split, misplaced, reports⟩)

end Check

end GrammarCheck
