import GrammarCheck.Token.Stream
import Mathlib.Logic.Function.Defs

/-! # Tokens in memory

A list of tokens with the position where the text ends is a token stream that never fails. Its last
token is the end, which stays when it is dropped. It keeps no events.
-/

namespace GrammarCheck

def Token.atEnd (position : Position) : Token :=
  ⟨position, .endOfInput, ""⟩

def Token.word (token : Token) : Token.Kind × String :=
  (token.kind, token.text)

/-- The tokens of a text that are still to be dropped. -/
structure Tokens where
  front : List Token
  finish : Position
  deriving DecidableEq, Repr

namespace Tokens

/-- The tokens with the end in last place. -/
def toList (tokens : Tokens) : List Token :=
  tokens.front ++ [.atEnd tokens.finish]

def kinds (tokens : Tokens) : List Token.Kind :=
  tokens.toList.map Token.kind

def first (tokens : Tokens) : Token :=
  tokens.front.headD (.atEnd tokens.finish)

def rest (tokens : Tokens) : Tokens :=
  { tokens with front := tokens.front.tail }

instance : TokenStream Tokens where
  peek tokens := .ok tokens.first tokens
  drop tokens := .ok () tokens.rest
  release tokens := tokens
  note _ tokens := tokens
  tokensLeft tokens := tokens.front.length
  peek_le _ := Nat.le_refl _
  drop_le tokens := by simp [rest]
  drop_lt {before tokens after token} shown notEnd success := by
    cases shown
    cases success
    obtain ⟨_ | ⟨first, front⟩, finish⟩ := before
    · exact absurd rfl notEnd
    · simp [rest]
  note_eq _ _ := rfl

variable {token : Token} {front : List Token} {finish : Position}

@[simp] theorem toList_nil : toList ⟨[], finish⟩ = [.atEnd finish] := rfl

@[simp] theorem toList_cons : toList ⟨token :: front, finish⟩ = token :: toList ⟨front, finish⟩ :=
  rfl

@[simp] theorem first_nil : first ⟨[], finish⟩ = .atEnd finish := rfl

@[simp] theorem first_cons : first ⟨token :: front, finish⟩ = token := rfl

@[simp] theorem rest_nil : rest ⟨[], finish⟩ = ⟨[], finish⟩ := rfl

@[simp] theorem rest_cons : rest ⟨token :: front, finish⟩ = ⟨front, finish⟩ := rfl

theorem toList_injective : Function.Injective toList := by
  rintro ⟨front, finish⟩ ⟨front', finish'⟩ same
  obtain ⟨rfl, last⟩ := List.append_inj' same rfl
  obtain rfl : finish = finish' := congrArg Token.position (List.singleton_inj.mp last)
  rfl

theorem head?_toList (tokens : Tokens) : tokens.toList.head? = some tokens.first := by
  obtain ⟨_ | ⟨token, front⟩, finish⟩ := tokens <;> rfl

/-- To drop the lookahead drops the first token, unless it is the last. -/
theorem toList_rest (tokens : Tokens) : tokens.rest.toList =
    if tokens.toList.tail = [] then tokens.toList else tokens.toList.tail := by
  obtain ⟨_ | ⟨token, front⟩, finish⟩ := tokens
  · rfl
  · rw [if_neg]
    · rfl
    · simp [toList]

/-- A token that does not end the text can be dropped. -/
theorem toList_of_ne_endOfInput {tokens : Tokens} (running : tokens.first.kind ≠ .endOfInput) :
    tokens.toList = tokens.first :: tokens.rest.toList := by
  obtain ⟨_ | ⟨token, front⟩, finish⟩ := tokens
  · exact absurd rfl running
  · rfl

/-- Nothing stands behind the token that ends the text. -/
theorem toList_of_endOfInput {tokens : Tokens}
    (running : ∀ token ∈ tokens.front, token.kind ≠ .endOfInput)
    (ended : tokens.first.kind = .endOfInput) : tokens.toList = [tokens.first] := by
  obtain ⟨_ | ⟨token, front⟩, finish⟩ := tokens
  · rfl
  · exact absurd ended (running token (List.mem_cons_self ..))

theorem front_of_endOfInput {tokens : Tokens}
    (running : ∀ token ∈ tokens.front, token.kind ≠ .endOfInput)
    (ended : tokens.first.kind = .endOfInput) : tokens.front = [] := by
  obtain ⟨_ | ⟨token, front⟩, finish⟩ := tokens
  · rfl
  · exact absurd ended (running token (List.mem_cons_self ..))

/-- The token that ends the text stays when it is dropped. -/
theorem rest_of_endOfInput {tokens : Tokens}
    (running : ∀ token ∈ tokens.front, token.kind ≠ .endOfInput)
    (ended : tokens.first.kind = .endOfInput) : tokens.rest = tokens := by
  obtain ⟨_ | ⟨token, front⟩, finish⟩ := tokens
  · rfl
  · exact absurd ended (running token (List.mem_cons_self ..))

/-- The first token is the first of a part in front, or it stands right behind it. -/
theorem first_eq_headD {tokens later : Tokens} {taken : List Token}
    (split : tokens.toList = taken ++ later.toList) : tokens.first = taken.headD later.first := by
  have heads := congrArg List.head? split
  rw [head?_toList] at heads
  cases taken with
  | nil =>
    rw [List.nil_append, head?_toList] at heads
    exact Option.some.inj heads
  | cons token taken => exact Option.some.inj heads

end Tokens

end GrammarCheck
