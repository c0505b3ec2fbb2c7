import GrammarCheck.Proofs.Grammar.GoalLanguage

/-! # Prediction by one token

A goal looks at one token to give way to lighter goals, to take the token, or to find that it does
not fit. Where the goals behind cannot start with a kind that would keep the goal going, the token
decides without loss: the goals that take its place span just what is left of the language.
-/

namespace GrammarCheck

/-- What is left of a factor behind its first token. -/
def Token.Kind.factorGoals (kind : Token.Kind) : List Goal :=
  match kind.opens? with
  | none => []
  | some bracket => [.expression, .groupEnd bracket]

theorem Token.Kind.factorGoals_of_atom {kind : Token.Kind} (atom : kind.opens? = none) :
    kind.factorGoals = [] := by
  rw [factorGoals, atom]

theorem Token.Kind.factorGoals_of_opens {kind : Token.Kind} {bracket : Bracket}
    (opens : kind.opens? = some bracket) :
    kind.factorGoals = [.expression, .groupEnd bracket] := by
  rw [factorGoals, opens]

theorem Token.Kind.eq_opening_of_opens {kind : Token.Kind} {bracket : Bracket}
    (opens : kind.opens? = some bracket) : kind = .opening bracket := by
  cases kind with
  | opening _ => exact congrArg opening (Option.some.inj opens)
  | _ => contradiction

/-- A factor is one token or a group. -/
theorem Token.Kind.factorGoals_cases (kind : Token.Kind) :
    kind.factorGoals = [] ∨ ∃ bracket, kind.factorGoals = [.expression, .groupEnd bracket] := by
  cases opens : kind.opens? with
  | none => exact .inl (factorGoals_of_atom opens)
  | some bracket => exact .inr ⟨bracket, factorGoals_of_opens opens⟩

namespace Goal

/-- In front of the token the goal gives way to the goals `pushed`. -/
inductive Expands (token : Token) : Goal → List Goal → Prop
  | production : Expands token .production [.oneOf [.identifier], .definition]
  | definition : Expands token .definition [.oneOf [.assign], .expression, .oneOf [.period]]
  | expression : Expands token .expression [.term, .alternatives]
  | term : Expands token .term [.factor, .factors]
  | productions (apart : token.kind ≠ .identifier) : Expands token .productions []
  | progress {first : Token} (apart : token ≠ first) : Expands token (.progress first) []
  | alternatives (apart : token.kind ≠ .bar) : Expands token .alternatives []
  | factors (apart : token.kind ∉ Token.Kind.factorKinds) : Expands token .factors []

/-- The goal takes the token and gives way to the goals `pushed`. -/
inductive Takes (token : Token) : Goal → List Goal → Prop
  | oneOf {kinds : List Token.Kind} (fits : token.kind ∈ kinds) : Takes token (.oneOf kinds) []
  | productions (fits : token.kind = .identifier) :
    Takes token .productions [.definition, .progress token, .productions]
  | alternatives (fits : token.kind = .bar) : Takes token .alternatives [.term, .alternatives]
  | factors (fits : token.kind ∈ Token.Kind.factorKinds) :
    Takes token .factors (token.kind.factorGoals ++ [.factors])
  | factor (fits : token.kind ∈ Token.Kind.factorKinds) :
    Takes token .factor token.kind.factorGoals
  | groupEnd {bracket : Bracket} (fits : token.kind = .closing bracket) :
    Takes token (.groupEnd bracket) []

/-- The goal wants a token, and not this one. -/
inductive Misfits (token : Token) : Goal → Prop
  | oneOf {kinds : List Token.Kind} (apart : token.kind ∉ kinds) : Misfits token (.oneOf kinds)
  | factor (apart : token.kind ∉ Token.Kind.factorKinds) : Misfits token .factor
  | groupEnd {bracket : Bracket} (apart : token.kind ≠ .closing bracket) :
    Misfits token (.groupEnd bracket)

variable {token : Token} {goal : Goal} {goals pushed : List Goal} {room limit : Nat}
  {kind : Token.Kind} {word : List Token.Kind}

/-- Every goal does one of the three, unless it finds the very token that it started from. -/
theorem reacts (token : Token) (goal : Goal) (fresh : goal ≠ .progress token) :
    (∃ pushed, goal.Expands token pushed) ∨ (∃ pushed, goal.Takes token pushed) ∨
      goal.Misfits token := by
  cases goal with
  | oneOf kinds =>
    by_cases fits : token.kind ∈ kinds
    · exact .inr (.inl ⟨_, .oneOf fits⟩)
    · exact .inr (.inr (.oneOf fits))
  | productions =>
    by_cases fits : token.kind = .identifier
    · exact .inr (.inl ⟨_, .productions fits⟩)
    · exact .inl ⟨_, .productions fits⟩
  | progress first =>
    refine .inl ⟨_, .progress ?_⟩
    rintro rfl
    exact fresh rfl
  | production => exact .inl ⟨_, .production⟩
  | definition => exact .inl ⟨_, .definition⟩
  | expression => exact .inl ⟨_, .expression⟩
  | alternatives =>
    by_cases fits : token.kind = .bar
    · exact .inr (.inl ⟨_, .alternatives fits⟩)
    · exact .inl ⟨_, .alternatives fits⟩
  | term => exact .inl ⟨_, .term⟩
  | factors =>
    by_cases fits : token.kind ∈ Token.Kind.factorKinds
    · exact .inr (.inl ⟨_, .factors fits⟩)
    · exact .inl ⟨_, .factors fits⟩
  | factor =>
    by_cases fits : token.kind ∈ Token.Kind.factorKinds
    · exact .inr (.inl ⟨_, .factor fits⟩)
    · exact .inr (.inr (.factor fits))
  | groupEnd bracket =>
    by_cases fits : token.kind = .closing bracket
    · exact .inr (.inl ⟨_, .groupEnd fits⟩)
    · exact .inr (.inr (.groupEnd fits))

/-- Behind its first token a factor is what its goals span, if there is room for its group. -/
private theorem sentence_factor_cons_iff (starts : kind ∈ Token.Kind.factorKinds) :
    Sentence room .factor (kind :: word) ↔
      openGroups kind.factorGoals ≤ room ∧ Spans room kind.factorGoals word := by
  cases opens : kind.opens? with
  | none =>
    rw [sentence_atom_iff opens starts, Token.Kind.factorGoals_of_atom opens, spans_nil_iff]
    exact (and_iff_right (Nat.zero_le _)).symm
  | some bracket =>
    rw [Token.Kind.factorGoals_of_opens opens]
    obtain rfl := Token.Kind.eq_opening_of_opens opens
    rw [sentence_group_iff, spans_cons_iff]
    constructor
    · rintro ⟨body, spare, inner, rfl⟩
      exact ⟨spare, body, _, rfl, inner, spans_singleton_iff.mpr rfl⟩
    · rintro ⟨spare, body, _, rfl, inner, last⟩
      obtain rfl := spans_singleton_iff.mp last
      exact ⟨body, spare, inner, rfl⟩

namespace Expands

theorem openGroups_eq (expands : goal.Expands token pushed) :
    openGroups pushed = 0 ∧ openGroups [goal] = 0 := by
  cases expands <;> exact ⟨rfl, rfl⟩

/-- The goals that take the place of a goal span words of its language only. -/
theorem sound (expands : goal.Expands token pushed) (spans : Spans room pushed word) :
    goal.Derives room word := by
  cases expands with
  | production =>
    obtain ⟨_, tail, rfl, ⟨_, member, rfl⟩, last⟩ := spans
    obtain rfl := List.mem_singleton.mp member
    have named : Goal.definition.Derives room tail := spans_singleton_iff.mp last
    exact named
  | definition =>
    obtain ⟨_, _, rfl, ⟨_, assign, rfl⟩, body, _, rfl, inner, last⟩ := spans
    obtain ⟨_, period, rfl⟩ := spans_singleton_iff.mp last
    obtain rfl := List.mem_singleton.mp assign
    obtain rfl := List.mem_singleton.mp period
    exact .production inner
  | expression =>
    obtain ⟨front, back, rfl, head, last⟩ := spans
    exact sentence_expression_iff.mpr ⟨front, back, rfl, head, spans_singleton_iff.mp last⟩
  | term =>
    obtain ⟨front, back, rfl, head, last⟩ := spans
    exact sentence_term_iff.mpr ⟨front, back, rfl, head, spans_singleton_iff.mp last⟩
  | productions | progress | alternatives | factors =>
    obtain rfl := spans_nil_iff.mp spans
    exact derives_nil_of_nullable rfl

/-- A word of the language that starts with the token is spanned by the goals. -/
theorem complete (expands : goal.Expands token pushed)
    (ahead : ∀ kind ∈ word.head?, kind = token.kind) (derives : goal.Derives room word) :
    Spans room pushed word := by
  -- A goal that ends in front of the token can only have had the empty word.
  have ended (apart : token.kind ∉ goal.firsts) : word = [] := by
    obtain ⟨empty, -⟩ | ⟨kind, starts, rest, rfl⟩ := derives.starts
    · exact empty
    · obtain rfl := ahead kind rfl
      exact absurd starts apart
  cases expands with
  | production =>
    obtain ⟨body, inner, rfl⟩ := sentence_production_iff.mp derives
    exact ⟨[_], _, rfl, ⟨_, List.mem_singleton_self _, rfl⟩,
      spans_singleton_iff.mpr (Sentence.production inner)⟩
  | definition =>
    obtain ⟨body, inner, same⟩ := sentence_production_iff.mp derives
    obtain ⟨-, rfl⟩ := List.cons.inj same
    exact ⟨[_], _, rfl, ⟨_, List.mem_singleton_self _, rfl⟩, body, _, rfl, inner,
      spans_singleton_iff.mpr ⟨_, List.mem_singleton_self _, rfl⟩⟩
  | expression =>
    obtain ⟨front, back, rfl, head, others⟩ := sentence_expression_iff.mp derives
    exact ⟨front, back, rfl, head, spans_singleton_iff.mpr others⟩
  | term =>
    obtain ⟨front, back, rfl, head, others⟩ := sentence_term_iff.mp derives
    exact ⟨front, back, rfl, head, spans_singleton_iff.mpr others⟩
  | productions apart => exact ended (mt List.mem_singleton.mp apart)
  | progress _ => exact derives
  | alternatives apart => exact ended (mt List.mem_singleton.mp apart)
  | factors apart => exact ended apart

theorem progress_not_mem (expands : goal.Expands token pushed) (first : Token) :
    .progress first ∉ pushed := by
  cases expands <;> simp

end Expands

namespace Takes

theorem mem_firsts (takes : goal.Takes token pushed) : token.kind ∈ goal.firsts := by
  cases takes with
  | oneOf fits | factors fits | factor fits => exact fits
  | productions fits | alternatives fits | groupEnd fits => exact List.mem_singleton.mpr fits

/-- What is left of a word behind the token is what the goals span that take the place of the goal,
if there is room for the group that they open. -/
theorem derives_iff (takes : goal.Takes token pushed) : goal.Derives room (token.kind :: word) ↔
    openGroups pushed ≤ room ∧ Spans room pushed word := by
  cases takes with
  | oneOf fits =>
    constructor
    · rintro ⟨_, -, same⟩
      exact ⟨Nat.zero_le _, (List.cons.inj same).2⟩
    · rintro ⟨-, rfl⟩
      exact ⟨_, fits, rfl⟩
  | productions fits =>
    rw [fits]
    constructor
    · intro repeated
      obtain ⟨front, back, rfl, first, others⟩ := repeated.exists_first
      exact ⟨Nat.zero_le _, front, back, rfl, first, [], back, rfl, rfl,
        spans_singleton_iff.mpr others⟩
    · rintro ⟨-, front, _, rfl, first, _, back, rfl, rfl, last⟩
      have production : Sentence room .production (.identifier :: front) := first
      exact Repeated.cons production (spans_singleton_iff.mp last)
  | alternatives fits =>
    rw [fits]
    constructor
    · intro repeated
      obtain ⟨front, back, rfl, ⟨term, sentence, same⟩, others⟩ := repeated.exists_first
      obtain ⟨-, rfl⟩ := List.cons.inj same
      exact ⟨Nat.zero_le _, front, back, rfl, sentence, spans_singleton_iff.mpr others⟩
    · rintro ⟨-, front, back, rfl, sentence, last⟩
      exact Repeated.cons ⟨front, sentence, rfl⟩ (spans_singleton_iff.mp last)
  | factors fits =>
    rw [openGroups_append, spans_append_iff]
    constructor
    · intro repeated
      obtain ⟨front, back, rfl, first, others⟩ := repeated.exists_first
      obtain ⟨spare, spans⟩ := (sentence_factor_cons_iff fits).mp first
      exact ⟨spare, front, back, rfl, spans, spans_singleton_iff.mpr others⟩
    · rintro ⟨spare, front, back, rfl, spans, last⟩
      exact Repeated.cons ((sentence_factor_cons_iff fits).mpr ⟨spare, spans⟩)
        (spans_singleton_iff.mp last)
  | factor fits => exact sentence_factor_cons_iff fits
  | groupEnd fits =>
    rw [fits]
    constructor
    · intro same
      exact ⟨Nat.zero_le _, (List.cons.inj same).2⟩
    · rintro ⟨-, rfl⟩
      rfl

/-- Only a production notes a token, and it is the one that it starts with. -/
theorem eq_of_progress_mem (takes : goal.Takes token pushed) {first : Token}
    (member : .progress first ∈ pushed) : first = token := by
  have notInFactor : .progress first ∉ token.kind.factorGoals := by
    obtain none_ | ⟨bracket, group⟩ := token.kind.factorGoals_cases
    · simp [none_]
    · simp [group]
  cases takes with
  | productions _ => simpa using member
  | factors _ => simp [notInFactor] at member
  | factor _ => exact absurd member notInFactor
  | oneOf _ | alternatives _ | groupEnd _ => simp at member

end Takes

namespace Misfits

theorem not_mem_firsts (misfits : goal.Misfits token) : token.kind ∉ goal.firsts := by
  cases misfits with
  | oneOf apart | factor apart => exact apart
  | groupEnd apart => exact mt List.mem_singleton.mp apart

theorem not_nullable (misfits : goal.Misfits token) : goal.nullable = false := by
  cases misfits <;> rfl

end Misfits

/-- The kinds in front of which a goal would have gone on. -/
def goesOn : Goal → List Token.Kind
  | productions => [.identifier]
  | expression | alternatives => .bar :: Token.Kind.factorKinds
  | term | factors => Token.Kind.factorKinds
  | oneOf _ | progress _ | production | definition | factor | groupEnd _ => []

/-- The kinds that can come next, where those of `follow` can come behind the goals. -/
def firstsOf (follow : List Token.Kind) : List Goal → List Token.Kind
  | [] => follow
  | goal :: goals => goal.firsts ++ if goal.nullable then firstsOf follow goals else []

/-- No goal would have gone on in front of what can come behind it. -/
def Settled (follow : List Token.Kind) : List Goal → Prop
  | [] => True
  | goal :: goals =>
    (∀ kind ∈ goal.goesOn, kind ∉ firstsOf follow goals) ∧ Settled follow goals

section Settled

variable {follow rest : List Token.Kind}

/-- A goal that can end goes on in front of all its first kinds. -/
theorem mem_goesOn_of_nullable (nullable : goal.nullable = true) (starts : kind ∈ goal.firsts) :
    kind ∈ goal.goesOn := by
  cases goal with
  | productions | factors => exact starts
  | alternatives =>
    obtain rfl := List.mem_singleton.mp starts
    exact List.mem_cons_self ..
  | progress _ => contradiction
  | _ => contradiction

theorem mem_firstsOf_of_spans (spans : Spans limit goals word)
    (allowed : ∀ kind ∈ rest.head?, kind ∈ follow) {tail : List Token.Kind}
    (whole : word ++ rest = kind :: tail) : kind ∈ firstsOf follow goals := by
  -- A goal that derives nothing leaves the start to those behind it.
  induction goals generalizing word with
  | nil =>
    obtain rfl := spans_nil_iff.mp spans
    rw [List.nil_append] at whole
    exact allowed kind (by rw [whole, List.head?_cons, Option.mem_some])
  | cons goal goals ih =>
    obtain ⟨front, back, rfl, derives, others⟩ := spans
    obtain ⟨rfl, nullable⟩ | ⟨_, starts, _, rfl⟩ := derives.starts
    · rw [firstsOf, if_pos nullable]
      exact List.mem_append_right _ (ih others whole)
    · obtain ⟨rfl, -⟩ := List.cons.inj whole
      exact List.mem_append_left _ starts

private theorem not_mem_firstsOf_alternatives
    (apart : ∀ kind ∈ Token.Kind.bar :: Token.Kind.factorKinds, kind ∉ firstsOf follow goals) :
    ∀ kind ∈ Token.Kind.factorKinds, kind ∉ firstsOf follow (.alternatives :: goals) := by
  intro kind starts next
  obtain next | next := List.mem_append.mp next
  · obtain rfl := List.mem_singleton.mp next
    exact absurd starts (by decide)
  · exact apart kind (List.mem_cons_of_mem _ starts) next

/-- Expansion leaves no goal in front of what would have kept it going. -/
theorem Settled.of_expands (settled : Settled follow (goal :: goals))
    (expands : goal.Expands token pushed) : Settled follow (pushed ++ goals) := by
  obtain ⟨apart, behind⟩ := settled
  cases expands with
  | production => exact ⟨nofun, nofun, behind⟩
  | definition =>
    have ended : ∀ kind ∈ expression.goesOn, kind ∉ [Token.Kind.period] := by decide
    exact ⟨nofun, ended, nofun, behind⟩
  | expression => exact ⟨not_mem_firstsOf_alternatives apart, apart, behind⟩
  | term => exact ⟨nofun, apart, behind⟩
  | productions | progress | alternatives | factors => exact behind

private theorem Settled.of_factorGoals (kind : Token.Kind) (settled : Settled follow goals) :
    Settled follow (kind.factorGoals ++ goals) := by
  obtain none_ | ⟨bracket, group⟩ := kind.factorGoals_cases
  · rwa [none_]
  · rw [group]
    have ended : ∀ kind ∈ expression.goesOn, kind ∉ [Token.Kind.closing bracket] := by
      cases bracket <;> decide
    exact ⟨ended, nofun, settled⟩

theorem Settled.of_takes (settled : Settled follow (goal :: goals))
    (takes : goal.Takes token pushed) : Settled follow (pushed ++ goals) := by
  have ⟨apart, behind⟩ := settled
  cases takes with
  | oneOf _ | groupEnd _ => exact behind
  | productions _ => exact ⟨nofun, nofun, settled⟩
  | alternatives _ => exact ⟨not_mem_firstsOf_alternatives apart, settled⟩
  | factors _ =>
    rw [List.append_assoc]
    exact .of_factorGoals _ settled
  | factor _ => exact .of_factorGoals _ behind

end Settled

/-- The goal can be satisfied, and not by the end of the text. -/
def Inner (goal : Goal) : Prop :=
  .endOfInput ∉ goal.firsts ∧ (goal.nullable = true ∨ goal.firsts ≠ [])

section Inner

theorem Expands.inner (expands : goal.Expands token pushed) : ∀ goal ∈ pushed, goal.Inner := by
  cases expands <;> simp [Inner, firsts, nullable, Token.Kind.factorKinds]

private theorem inner_factorGoals : ∀ goal ∈ kind.factorGoals, goal.Inner := by
  obtain none_ | ⟨bracket, group⟩ := kind.factorGoals_cases
  · simp [none_]
  · simp [group, Inner, firsts, nullable, Token.Kind.factorKinds]

theorem Takes.inner (takes : goal.Takes token pushed) : ∀ goal ∈ pushed, goal.Inner := by
  cases takes with
  | oneOf _ | groupEnd _ => exact List.forall_mem_nil _
  | productions _ | alternatives _ =>
    simp [Inner, firsts, nullable, Token.Kind.factorKinds]
  | factors _ =>
    refine List.forall_mem_append.mpr ⟨inner_factorGoals, ?_⟩
    simp [Inner, firsts, nullable, Token.Kind.factorKinds]
  | factor _ => exact inner_factorGoals

/-- In front of goals that can be satisfied a goal can start with each of its first kinds. -/
theorem exists_spans_cons (behind : ∃ word, Spans limit goals word)
    (room : openGroups goals < limit) (starts : kind ∈ goal.firsts) :
    ∃ rest, Spans limit (goal :: goals) (kind :: rest) := by
  obtain ⟨back, spans⟩ := behind
  obtain ⟨front, derives⟩ := exists_derives_of_mem_firsts starts
  refine ⟨front ++ back, kind :: front, back, rfl, ?_, spans⟩
  rwa [← Nat.sub_add_cancel (Nat.sub_pos_of_lt room)]

/-- Goals that can be satisfied one by one can be satisfied together. -/
theorem exists_spans (inner : ∀ goal ∈ goals, goal.Inner) (room : openGroups goals < limit) :
    ∃ word, Spans limit goals word := by
  induction goals with
  | nil => exact ⟨[], rfl⟩
  | cons goal goals ih =>
    obtain ⟨⟨-, able⟩, others⟩ := List.forall_mem_cons.mp inner
    have spare := Nat.lt_of_le_of_lt openGroups_le_cons room
    have behind := ih others spare
    obtain nullable | some := able
    · obtain ⟨back, spans⟩ := behind
      exact ⟨back, [], back, rfl, derives_nil_of_nullable nullable, spans⟩
    · obtain ⟨kind, starts⟩ := List.exists_mem_of_ne_nil _ some
      obtain ⟨rest, spans⟩ := exists_spans_cons behind spare starts
      exact ⟨_, spans⟩

end Inner

end Goal

end GrammarCheck
