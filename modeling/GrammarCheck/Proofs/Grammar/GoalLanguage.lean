import GrammarCheck.Proofs.Grammar.Sentence

/-! # The language of a list of goals

Each goal stands for the sequences of kinds that satisfy it, and a list of goals for their
concatenations. A group that is still open takes its room from the goals in front of its end.
-/

namespace GrammarCheck

/-- Any number of words of a language, one after the other. -/
def Repeated (words : List Token.Kind → Prop) (word : List Token.Kind) : Prop :=
  ∃ parts : List (List Token.Kind), (∀ part ∈ parts, words part) ∧ word = parts.flatten

namespace Repeated

variable {words : List Token.Kind → Prop} {word : List Token.Kind}

private theorem empty : Repeated words [] :=
  ⟨[], List.forall_mem_nil _, rfl⟩

theorem cons {front back : List Token.Kind} (first : words front) (others : Repeated words back) :
    Repeated words (front ++ back) := by
  obtain ⟨parts, each, rfl⟩ := others
  exact ⟨front :: parts, List.forall_mem_cons.mpr ⟨first, each⟩, rfl⟩

private theorem single (only : words word) : Repeated words word :=
  ⟨[word], List.forall_mem_singleton.mpr only, List.flatten_singleton.symm⟩

theorem concat {front back : List Token.Kind} (others : Repeated words front) (last : words back) :
    Repeated words (front ++ back) := by
  obtain ⟨parts, each, rfl⟩ := others
  refine ⟨parts ++ [back], ?_, by rw [List.flatten_append, List.flatten_singleton]⟩
  exact List.forall_mem_append.mpr ⟨each, List.forall_mem_singleton.mpr last⟩

/-- A repetition that is not empty starts with a word that is not empty. -/
theorem exists_first {kind : Token.Kind} (repeated : Repeated words (kind :: word)) :
    ∃ front back, word = front ++ back ∧ words (kind :: front) ∧ Repeated words back := by
  obtain ⟨parts, each, same⟩ := repeated
  induction parts with
  | nil => contradiction
  | cons part parts ih =>
    obtain ⟨here, later⟩ := List.forall_mem_cons.mp each
    cases part with
    | nil => exact ih later same
    | cons head front =>
      obtain ⟨rfl, rfl⟩ := List.cons.inj same
      exact ⟨front, parts.flatten, rfl, here, parts, later, rfl⟩

/-- A repetition starts as its words do. -/
theorem starts {kinds : List Token.Kind}
    (each : ∀ part, words part → ∃ kind ∈ kinds, ∃ rest, part = kind :: rest)
    (repeated : Repeated words word) :
    word = [] ∨ ∃ kind ∈ kinds, ∃ rest, word = kind :: rest := by
  cases word with
  | nil => exact .inl rfl
  | cons kind word =>
    obtain ⟨front, back, rfl, first, -⟩ := repeated.exists_first
    obtain ⟨_, starts, _, same⟩ := each _ first
    obtain ⟨rfl, -⟩ := List.cons.inj same
    exact .inr ⟨kind, starts, _, rfl⟩

end Repeated

namespace Goal

/-- The kinds satisfy the goal, with at most `room` groups open at any point. -/
def Derives (room : Nat) : Goal → List Token.Kind → Prop
  | oneOf kinds => fun word => ∃ kind ∈ kinds, word = [kind]
  | productions => Repeated (Sentence room .production)
  | progress _ => fun word => word = []
  | production => Sentence room .production
  | definition => fun word => Sentence room .production (.identifier :: word)
  | expression => Sentence room .expression
  | alternatives => Repeated fun part => ∃ term, Sentence room .term term ∧ part = .bar :: term
  | term => Sentence room .term
  | factors => Repeated (Sentence room .factor)
  | factor => Sentence room .factor
  | groupEnd bracket => fun word => word = [.closing bracket]

/-- The kinds satisfy the goals in order, with at most `limit` groups open at any point. -/
def Spans (limit : Nat) : List Goal → List Token.Kind → Prop
  | [], word => word = []
  | goal :: goals, word => ∃ front back, word = front ++ back ∧
      goal.Derives (limit - openGroups goals) front ∧ Spans limit goals back

def nullable : Goal → Bool
  | productions | progress _ | alternatives | factors => true
  | oneOf _ | production | definition | expression | term | factor | groupEnd _ => false

def firsts : Goal → List Token.Kind
  | oneOf kinds => kinds
  | productions | production => [.identifier]
  | progress _ => []
  | definition => [.assign]
  | expression | term | factors | factor => Token.Kind.factorKinds
  | alternatives => [.bar]
  | groupEnd bracket => [.closing bracket]

section Spans

variable {limit : Nat} {goal : Goal} {goals front back : List Goal} {word : List Token.Kind}

theorem openGroups_append : openGroups (front ++ back) = openGroups front + openGroups back := by
  induction front with
  | nil => exact (Nat.zero_add _).symm
  | cons goal front ih =>
    cases goal <;> simp only [List.cons_append, openGroups, ih]
    omega

theorem openGroups_cons : openGroups (goal :: goals) = openGroups [goal] + openGroups goals := by
  rw [← List.singleton_append, openGroups_append]

theorem openGroups_le_cons : openGroups goals ≤ openGroups (goal :: goals) := by
  rw [openGroups_cons]
  exact Nat.le_add_left ..

theorem spans_nil_iff : Spans limit [] word ↔ word = [] := Iff.rfl

theorem spans_cons_iff : Spans limit (goal :: goals) word ↔ ∃ front back, word = front ++ back ∧
    goal.Derives (limit - openGroups goals) front ∧ Spans limit goals back := Iff.rfl

theorem spans_singleton_iff : Spans limit [goal] word ↔ goal.Derives limit word := by
  constructor
  · rintro ⟨front, _, rfl, derives, rfl⟩
    rwa [List.append_nil]
  · intro derives
    exact ⟨word, [], (List.append_nil _).symm, derives, rfl⟩

/-- The goals behind leave to those in front the room that their open groups do not take. -/
theorem spans_append_iff : Spans limit (front ++ back) word ↔ ∃ first second,
    word = first ++ second ∧ Spans (limit - openGroups back) front first ∧
      Spans limit back second := by
  induction front generalizing word with
  | nil =>
    constructor
    · intro spans
      exact ⟨[], word, rfl, rfl, spans⟩
    · rintro ⟨_, _, rfl, rfl, spans⟩
      exact spans
  | cons goal front ih =>
    have room :
        limit - openGroups (front ++ back) = limit - openGroups back - openGroups front := by
      rw [openGroups_append]
      omega
    rw [List.cons_append, spans_cons_iff, room]
    constructor
    · rintro ⟨taken, left, rfl, derives, spans⟩
      obtain ⟨first, second, rfl, inFront, behind⟩ := ih.mp spans
      exact ⟨taken ++ first, second, (List.append_assoc ..).symm,
        ⟨taken, first, rfl, derives, inFront⟩, behind⟩
    · rintro ⟨_, second, rfl, ⟨taken, first, rfl, derives, inFront⟩, behind⟩
      exact ⟨taken, first ++ second, List.append_assoc .., derives,
        ih.mpr ⟨first, second, rfl, inFront, behind⟩⟩

end Spans

section Derives

variable {room : Nat} {goal : Goal} {kind : Token.Kind} {word : List Token.Kind}

theorem sentence_text_iff : Sentence room .text word ↔
    ∃ body, productions.Derives room body ∧ word = body ++ [.endOfInput] := by
  constructor
  · intro sentence
    cases sentence with
    | text each => exact ⟨_, ⟨_, each, rfl⟩, rfl⟩
  · rintro ⟨_, ⟨parts, each, rfl⟩, rfl⟩
    exact .text each

theorem sentence_production_iff : Sentence room .production word ↔
    ∃ body, Sentence room .expression body ∧
      word = .identifier :: .assign :: (body ++ [.period]) := by
  constructor
  · intro sentence
    cases sentence with
    | production inner => exact ⟨_, inner, rfl⟩
  · rintro ⟨body, inner, rfl⟩
    exact .production inner

theorem sentence_expression_iff : Sentence room .expression word ↔ ∃ front back,
    word = front ++ back ∧ Sentence room .term front ∧ alternatives.Derives room back := by
  constructor
  · intro sentence
    cases sentence with
    | @expression _ first parts head each =>
      refine ⟨_, _, rfl, head, parts.map (.bar :: ·), ?_, rfl⟩
      refine List.forall_mem_map.mpr ?_
      intro part member
      exact ⟨part, each part member, rfl⟩
  · rintro ⟨front, _, rfl, head, parts, each, rfl⟩
    -- Every part is a bar in front of a term, so the terms are the tails of the parts.
    have barred : (parts.map List.tail).map (.bar :: ·) = parts := by
      rw [List.map_map]
      refine (List.map_congr_left ?_).trans (List.map_id _)
      intro part member
      obtain ⟨term, -, rfl⟩ := each part member
      rfl
    rw [← barred]
    apply Sentence.expression head
    refine List.forall_mem_map.mpr ?_
    intro part member
    obtain ⟨term, sentence, rfl⟩ := each part member
    exact sentence

theorem sentence_term_iff : Sentence room .term word ↔ ∃ front back,
    word = front ++ back ∧ Sentence room .factor front ∧ factors.Derives room back := by
  constructor
  · intro sentence
    cases sentence with
    | term head each => exact ⟨_, _, rfl, head, _, each, rfl⟩
  · rintro ⟨front, _, rfl, head, parts, each, rfl⟩
    exact .term head each

/-- A group is a factor as far as there is room for it. -/
theorem sentence_group_iff {bracket : Bracket} :
    Sentence room .factor (.opening bracket :: word) ↔ ∃ body, 0 < room ∧
      Sentence (room - 1) .expression body ∧ word = body ++ [.closing bracket] := by
  constructor
  · intro sentence
    cases sentence with
    | group inner => exact ⟨_, Nat.succ_pos _, inner, rfl⟩
  · rintro ⟨body, spare, inner, rfl⟩
    have grouped : Sentence (room - 1 + 1) .factor (.opening bracket :: (body ++ [_])) :=
      inner.group
    rwa [Nat.sub_add_cancel spare] at grouped

/-- A factor that opens no group is one token. -/
theorem sentence_atom_iff (atom : kind.opens? = none) (starts : kind ∈ Token.Kind.factorKinds) :
    Sentence room .factor (kind :: word) ↔ word = [] := by
  constructor
  · intro sentence
    cases sentence with
    | identifier => rfl
    | literal => rfl
    | group _ => contradiction
  · rintro rfl
    obtain ⟨rest, sentence⟩ : ∃ rest, Sentence (room + 1) .factor (kind :: rest) :=
      Sentence.exists_factor starts
    cases sentence with
    | identifier => exact .identifier
    | literal => exact .literal
    | group _ => contradiction

/-- What satisfies a goal is nothing or starts with a first kind of the goal. -/
theorem Derives.starts (derives : goal.Derives room word) :
    (word = [] ∧ goal.nullable = true) ∨ ∃ kind ∈ goal.firsts, ∃ rest, word = kind :: rest := by
  cases goal with
  | oneOf kinds =>
    obtain ⟨kind, member, rfl⟩ := derives
    exact .inr ⟨kind, member, [], rfl⟩
  | productions =>
    refine (Repeated.starts ?_ derives).imp_left fun empty => ⟨empty, rfl⟩
    intro part sentence
    obtain ⟨_, -, rfl⟩ := sentence_production_iff.mp sentence
    exact ⟨.identifier, List.mem_singleton_self _, _, rfl⟩
  | progress _ => exact .inl ⟨derives, rfl⟩
  | production =>
    obtain ⟨_, -, rfl⟩ := sentence_production_iff.mp derives
    exact .inr ⟨.identifier, List.mem_singleton_self _, _, rfl⟩
  | definition =>
    obtain ⟨_, -, same⟩ := sentence_production_iff.mp derives
    obtain ⟨-, rfl⟩ := List.cons.inj same
    exact .inr ⟨.assign, List.mem_singleton_self _, _, rfl⟩
  | expression => exact .inr (Sentence.expression_starts derives)
  | alternatives =>
    refine (Repeated.starts ?_ derives).imp_left fun empty => ⟨empty, rfl⟩
    rintro _ ⟨term, -, rfl⟩
    exact ⟨.bar, List.mem_singleton_self _, term, rfl⟩
  | term => exact .inr (Sentence.term_starts derives)
  | factors =>
    refine (Repeated.starts ?_ derives).imp_left fun empty => ⟨empty, rfl⟩
    intro part sentence
    exact sentence.factor_starts
  | factor => exact .inr (Sentence.factor_starts derives)
  | groupEnd bracket => exact .inr ⟨_, List.mem_singleton_self _, [], derives⟩

theorem derives_nil_of_nullable (nullable : goal.nullable = true) : goal.Derives room [] := by
  cases goal with
  | productions | alternatives | factors => exact Repeated.empty
  | progress _ => rfl
  | _ => contradiction

/-- With room for a group, a goal can start with each of its first kinds. -/
theorem exists_derives_of_mem_firsts (starts : kind ∈ goal.firsts) :
    ∃ rest, goal.Derives (room + 1) (kind :: rest) := by
  have least : Sentence (room + 1) .expression [.identifier] :=
    .of_term (.of_factor .identifier)
  cases goal with
  | oneOf kinds => exact ⟨[], kind, starts, rfl⟩
  | progress _ => contradiction
  | productions =>
    obtain rfl := List.mem_singleton.mp starts
    exact ⟨_, Repeated.single (Sentence.production least)⟩
  | production | definition =>
    obtain rfl := List.mem_singleton.mp starts
    exact ⟨_, Sentence.production least⟩
  | expression =>
    obtain ⟨rest, sentence⟩ := Sentence.exists_factor starts
    exact ⟨rest, .of_term (.of_factor sentence)⟩
  | alternatives =>
    obtain rfl := List.mem_singleton.mp starts
    exact ⟨_, Repeated.single ⟨_, .of_factor .identifier, rfl⟩⟩
  | term =>
    obtain ⟨rest, sentence⟩ := Sentence.exists_factor starts
    exact ⟨rest, .of_factor sentence⟩
  | factors =>
    obtain ⟨rest, sentence⟩ := Sentence.exists_factor starts
    exact ⟨rest, Repeated.single sentence⟩
  | factor => exact Sentence.exists_factor starts
  | groupEnd bracket =>
    obtain rfl := List.mem_singleton.mp starts
    exact ⟨[], rfl⟩

end Derives

end Goal

end GrammarCheck
