import GrammarCheck.Checker
import GrammarCheck.Proofs.Grammar.Prediction

/-! # Courses

A course is what the goals of a check come to while every token fits: the tokens taken and the goals
that are left in front of the token ahead. A course loses nothing and adds nothing. A word behind
the tokens taken is in the language of the first goals just when it is in that of the last.
-/

namespace GrammarCheck

open Goal

/-- With `taken` and then `ahead` to come, the goals take those tokens and become others. -/
inductive Course (ahead : Token) : List Goal → List Token → List Goal → Prop
  | done (goals : List Goal) : Course ahead goals [] goals
  | expand {goal : Goal} {goals pushed target : List Goal} {taken : List Token}
    (expands : goal.Expands (taken.headD ahead) pushed)
    (further : Course ahead (pushed ++ goals) taken target) :
    Course ahead (goal :: goals) taken target
  | take {token : Token} {goal : Goal} {goals pushed target : List Goal} {taken : List Token}
    (takes : goal.Takes token pushed)
    (room : openGroups pushed ≤ nestingLimit - openGroups goals)
    (further : Course ahead (pushed ++ goals) taken target) :
    Course ahead (goal :: goals) (token :: taken) target

/-- The goals lead from the beginning of `whole` to the beginning of `rest`. -/
def Goal.Leads (limit : Nat) (goals : List Goal) (whole rest : List Token.Kind) : Prop :=
  ∃ word, whole = word ++ rest ∧ Spans limit goals word

variable {limit : Nat} {goal : Goal} {goals pushed target : List Goal}
  {token ahead : Token} {taken : List Token} {word others rest follow : List Token.Kind}

namespace Goal

private theorem Expands.spans (expands : goal.Expands token pushed)
    (spans : Spans limit (pushed ++ goals) word) : Spans limit (goal :: goals) word := by
  obtain ⟨front, back, rfl, inner, behind⟩ := spans_append_iff.mp spans
  exact ⟨front, back, rfl, expands.sound inner, behind⟩

private theorem Takes.spans (takes : goal.Takes token pushed)
    (room : openGroups pushed ≤ limit - openGroups goals)
    (spans : Spans limit (pushed ++ goals) word) :
    Spans limit (goal :: goals) (token.kind :: word) := by
  obtain ⟨front, back, rfl, inner, behind⟩ := spans_append_iff.mp spans
  exact ⟨token.kind :: front, back, rfl, takes.derives_iff.mpr ⟨room, inner⟩, behind⟩

private theorem Expands.leads (expands : goal.Expands token pushed)
    (leads : Leads limit (goal :: goals) (token.kind :: others) rest) :
    Leads limit (pushed ++ goals) (token.kind :: others) rest := by
  obtain ⟨_, whole, front, back, rfl, derives, behind⟩ := leads
  refine ⟨front ++ back, whole, spans_append_iff.mpr ⟨front, back, rfl, ?_, behind⟩⟩
  apply expands.complete _ derives
  intro kind first
  obtain ⟨tail, rfl⟩ := List.head?_eq_some_iff.mp first
  exact (List.cons.inj whole).1.symm

/-- Where the goals behind cannot start with it, a goal has to take the token that it can take. -/
theorem Takes.leads (takes : goal.Takes token pushed) (settled : Settled follow (goal :: goals))
    (allowed : ∀ kind ∈ rest.head?, kind ∈ follow)
    (leads : Leads limit (goal :: goals) (token.kind :: others) rest) :
    openGroups pushed ≤ limit - openGroups goals ∧ Leads limit (pushed ++ goals) others rest := by
  obtain ⟨_, whole, front, back, rfl, derives, behind⟩ := leads
  cases front with
  | nil =>
    -- If the goal had ended here, the goals behind it would start with the token.
    obtain ⟨-, nullable⟩ | ⟨_, _, _, same⟩ := derives.starts
    · have next := mem_firstsOf_of_spans behind allowed whole.symm
      exact absurd next (settled.1 _ (mem_goesOn_of_nullable nullable takes.mem_firsts))
    · contradiction
  | cons kind front =>
    obtain ⟨rfl, rfl⟩ := List.cons.inj whole
    obtain ⟨room, inner⟩ := takes.derives_iff.mp derives
    exact ⟨room, front ++ back, rfl, spans_append_iff.mpr ⟨front, back, rfl, inner, behind⟩⟩

/-- A goal that wants another token leads nowhere. -/
theorem Misfits.not_leads (misfits : goal.Misfits token) :
    ¬ Leads limit (goal :: goals) (token.kind :: others) rest := by
  rintro ⟨_, whole, front, back, rfl, derives, -⟩
  obtain ⟨-, nullable⟩ | ⟨kind, starts, _, rfl⟩ := derives.starts
  · exact absurd nullable (by simp [misfits.not_nullable])
  · obtain ⟨rfl, -⟩ := List.cons.inj whole
    exact misfits.not_mem_firsts starts

end Goal

namespace Course

/-- What the goals left over span stands behind the tokens taken in the language of the first. -/
theorem spans (course : Course ahead goals taken target) (enough : nestingLimit ≤ limit)
    (spans : Spans limit target word) :
    Spans limit goals (taken.map Token.kind ++ word) := by
  induction course with
  | done _ => exact spans
  | expand expands _ ih => exact expands.spans (ih spans)
  | take takes room _ ih => exact takes.spans (by omega) (ih spans)

theorem settled (course : Course ahead goals taken target) (settled : Settled follow goals) :
    Settled follow target := by
  induction course with
  | done _ => exact settled
  | expand expands _ ih => exact ih (settled.of_expands expands)
  | take takes _ _ ih => exact ih (settled.of_takes takes)

/-- What leads on behind the tokens taken leads on from the goals left over. -/
theorem leads (course : Course ahead goals taken target) (settled : Settled follow goals)
    (allowed : ∀ kind ∈ rest.head?, kind ∈ follow)
    (leads : Leads limit goals (taken.map Token.kind ++ ahead.kind :: others) rest) :
    Leads limit target (ahead.kind :: others) rest := by
  induction course with
  | done _ => exact leads
  | @expand goal goals pushed target taken expands _ ih =>
    refine ih (settled.of_expands expands) ?_
    -- The goal looks at the first token taken, or at the token ahead if none is.
    cases taken with
    | nil => exact expands.leads leads
    | cons token taken => exact expands.leads leads
  | take takes _ _ ih => exact ih (settled.of_takes takes) (takes.leads settled allowed leads).2

/-- What the goals left over span completes the tokens taken to a text. -/
theorem sentence (course : Course ahead [.productions] taken target) (enough : nestingLimit ≤ limit)
    (spans : Spans limit target word) :
    Sentence limit .text (taken.map Token.kind ++ (word ++ [.endOfInput])) := by
  refine sentence_text_iff.mpr ⟨_, ?_, (List.append_assoc ..).symm⟩
  exact spans_singleton_iff.mp (course.spans enough spans)

/-- Behind productions only the end of the text can come. -/
theorem settled_productions : Settled [.endOfInput] [.productions] :=
  ⟨by decide, trivial⟩

/-- Every text that starts with the tokens taken and the one ahead goes on from the goals left
over. -/
theorem leads_of_sentence (course : Course ahead [.productions] taken target)
    (sentence : Sentence limit .text (taken.map Token.kind ++ ahead.kind :: others)) :
    Leads limit target (ahead.kind :: others) [.endOfInput] := by
  obtain ⟨body, derives, same⟩ := sentence_text_iff.mp sentence
  refine course.leads settled_productions ?_ ⟨body, same, spans_singleton_iff.mpr derives⟩
  simp

/-- A token that opens one group more than the limit allows starts no text within the limit. -/
theorem not_sentence_of_full (course : Course ahead [.productions] taken (goal :: goals))
    (takes : goal.Takes ahead pushed)
    (full : ¬ openGroups pushed ≤ nestingLimit - openGroups goals) :
    ¬ Sentence nestingLimit .text (taken.map Token.kind ++ ahead.kind :: others) := by
  intro sentence
  have leads := course.leads_of_sentence sentence
  apply full
  exact (takes.leads (course.settled settled_productions) (by simp) leads).1

theorem viable {kind : Token.Kind} (course : Course ahead [.productions] taken target)
    (spans : Spans limit target (kind :: others)) (enough : nestingLimit ≤ limit) :
    Viable (taken.map Token.kind ++ [kind]) := by
  refine ⟨limit, others ++ [.endOfInput], ?_⟩
  have sentence := course.sentence enough spans
  rwa [List.append_assoc]

theorem not_viable (course : Course ahead [.productions] taken target)
    (apart : ∀ limit others, ¬ Leads limit target (ahead.kind :: others) [.endOfInput]) :
    ¬ Viable (taken.map Token.kind ++ [ahead.kind]) := by
  rintro ⟨limit, others, sentence⟩
  rw [List.append_assoc] at sentence
  exact apart limit others (course.leads_of_sentence sentence)

end Course

/-- Behind the kinds `before` no text goes on with `found`, but some texts go on with each of the
kinds `expected`. -/
structure Misplaced (before : List Token.Kind) (found : Token.Kind) (expected : List Token.Kind) :
    Prop where
  viable : Viable before
  not_viable : ¬ Viable (before ++ [found])
  some_expected : expected ≠ []
  viable_expected : ∀ kind ∈ expected, Viable (before ++ [kind])

namespace Course

/-- Each kind that the next goal can start with keeps the tokens a prefix of some text. -/
theorem viable_of_mem_firsts {kind : Token.Kind}
    (course : Course ahead [.productions] taken (goal :: goals))
    (inner : ∀ other ∈ goals, other.Inner) (starts : kind ∈ goal.firsts) :
    Viable (taken.map Token.kind ++ [kind]) := by
  -- There is room for one group more than can be open.
  have room : openGroups goals < nestingLimit + openGroups goals + 1 := by omega
  obtain ⟨rest, spans⟩ := exists_spans_cons (exists_spans inner room) room starts
  exact course.viable spans (by omega)

/-- A token that does not fit the next goal is misplaced. The first kinds of the goal are not. -/
theorem misplaced (course : Course ahead [.productions] taken (goal :: goals))
    (inner : ∀ other ∈ goal :: goals, other.Inner) (misfits : goal.Misfits ahead) :
    Misplaced (taken.map Token.kind) ahead.kind goal.firsts := by
  obtain ⟨⟨-, able⟩, others⟩ := List.forall_mem_cons.mp inner
  have some : goal.firsts ≠ [] := able.resolve_left (by simp [misfits.not_nullable])
  have expected (kind : Token.Kind) (starts : kind ∈ goal.firsts) :=
    course.viable_of_mem_firsts others starts
  obtain ⟨kind, starts⟩ := List.exists_mem_of_ne_nil _ some
  refine ⟨(expected kind starts).of_append, course.not_viable ?_, some, expected⟩
  intro limit others
  exact misfits.not_leads

/-- Where the goals are through, every token but the end of the text is misplaced. -/
theorem misplaced_of_done (course : Course ahead [.productions] taken [])
    (running : ahead.kind ≠ .endOfInput) :
    Misplaced (taken.map Token.kind) ahead.kind [.endOfInput] := by
  have sentence := course.sentence (Nat.le_refl _) rfl
  have ended : Viable (taken.map Token.kind ++ [.endOfInput]) :=
    ⟨nestingLimit, [], by rwa [List.append_nil]⟩
  refine ⟨ended.of_append, course.not_viable ?_, List.cons_ne_nil _ _, ?_⟩
  · rintro limit others ⟨_, same, rfl⟩
    apply running
    exact (List.cons.inj same).1
  · exact List.forall_mem_singleton.mpr ended

end Course

end GrammarCheck
