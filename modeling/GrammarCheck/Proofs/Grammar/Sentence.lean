import GrammarCheck.Checker.Goal

/-! # Sentences of the grammar of grammars

A sentence is a sequence of token kinds that a nonterminal derives. A derivation has room for so
many groups open at once.
-/

namespace GrammarCheck

/-- The kinds derive from the nonterminal with at most `room` groups open at any point. -/
inductive Sentence : Nat → Nonterminal → List Token.Kind → Prop
  | text {room : Nat} {parts : List (List Token.Kind)}
    (each : ∀ part ∈ parts, Sentence room .production part) :
    Sentence room .text (parts.flatten ++ [.endOfInput])
  | production {room : Nat} {body : List Token.Kind} (inner : Sentence room .expression body) :
    Sentence room .production (.identifier :: .assign :: (body ++ [.period]))
  | expression {room : Nat} {first : List Token.Kind} {parts : List (List Token.Kind)}
    (head : Sentence room .term first) (each : ∀ part ∈ parts, Sentence room .term part) :
    Sentence room .expression (first ++ (parts.map (.bar :: ·)).flatten)
  | term {room : Nat} {first : List Token.Kind} {parts : List (List Token.Kind)}
    (head : Sentence room .factor first) (each : ∀ part ∈ parts, Sentence room .factor part) :
    Sentence room .term (first ++ parts.flatten)
  | identifier {room : Nat} : Sentence room .factor [.identifier]
  | literal {room : Nat} : Sentence room .factor [.literal]
  | group {room : Nat} {bracket : Bracket} {body : List Token.Kind}
    (inner : Sentence room .expression body) :
    Sentence (room + 1) .factor (.opening bracket :: (body ++ [.closing bracket]))

/-- The kinds are a prefix of a text, however deep its groups nest. -/
def Viable (kinds : List Token.Kind) : Prop :=
  ∃ room rest, Sentence room .text (kinds ++ rest)

theorem Viable.of_append {front back : List Token.Kind} (viable : Viable (front ++ back)) :
    Viable front := by
  obtain ⟨room, rest, sentence⟩ := viable
  rw [List.append_assoc] at sentence
  exact ⟨room, back ++ rest, sentence⟩

namespace Sentence

variable {room : Nat} {word : List Token.Kind}

/-- A factor by itself is a term. -/
theorem of_factor (sentence : Sentence room .factor word) : Sentence room .term word := by
  have single := sentence.term (List.forall_mem_nil _)
  rwa [List.flatten_nil, List.append_nil] at single

/-- A term by itself is an expression. -/
theorem of_term (sentence : Sentence room .term word) : Sentence room .expression word := by
  have single := sentence.expression (List.forall_mem_nil _)
  rwa [List.map_nil, List.flatten_nil, List.append_nil] at single

/-- A factor starts with one of the kinds that a message lists. -/
theorem factor_starts (sentence : Sentence room .factor word) :
    ∃ kind ∈ Token.Kind.factorKinds, ∃ rest, word = kind :: rest := by
  cases sentence with
  | identifier => exact ⟨.identifier, by decide, _, rfl⟩
  | literal => exact ⟨.literal, by decide, _, rfl⟩
  | @group _ bracket _ _ => exact ⟨.opening bracket, by cases bracket <;> decide, _, rfl⟩

theorem term_starts (sentence : Sentence room .term word) :
    ∃ kind ∈ Token.Kind.factorKinds, ∃ rest, word = kind :: rest := by
  cases sentence with
  | term head _ =>
    obtain ⟨kind, starts, rest, rfl⟩ := head.factor_starts
    exact ⟨kind, starts, _, rfl⟩

theorem expression_starts (sentence : Sentence room .expression word) :
    ∃ kind ∈ Token.Kind.factorKinds, ∃ rest, word = kind :: rest := by
  cases sentence with
  | expression head _ =>
    obtain ⟨kind, starts, rest, rfl⟩ := head.term_starts
    exact ⟨kind, starts, _, rfl⟩

/-- With room for a group, every kind that a message lists starts a factor. -/
theorem exists_factor {kind : Token.Kind} (starts : kind ∈ Token.Kind.factorKinds) :
    ∃ rest, Sentence (room + 1) .factor (kind :: rest) := by
  have grouped (bracket : Bracket) :
      ∃ rest, Sentence (room + 1) .factor (.opening bracket :: rest) :=
    ⟨_, .group (of_term (of_factor .identifier))⟩
  simp only [Token.Kind.factorKinds, List.mem_cons, List.not_mem_nil, or_false] at starts
  obtain rfl | rfl | rfl | rfl | rfl := starts
  · exact ⟨_, .identifier⟩
  · exact ⟨_, .literal⟩
  · exact grouped .paren
  · exact grouped .square
  · exact grouped .curly

end Sentence

end GrammarCheck
