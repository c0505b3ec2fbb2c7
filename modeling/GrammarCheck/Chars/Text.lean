import GrammarCheck.Chars.Stream

/-! # Texts in memory

A list of characters is a character stream that never fails.
-/

namespace GrammarCheck

/-- The characters of a text that are still to be read. -/
structure Text where
  rest : List Char
  deriving DecidableEq, Repr

namespace Text

def ofString (text : String) : Text := ⟨text.toList⟩

def next : Text → Outcome IoFailure Text (Option Char)
  | ⟨[]⟩ => .ok none ⟨[]⟩
  | ⟨c :: rest⟩ => .ok (some c) ⟨rest⟩

def peek (text : Text) : Outcome IoFailure Text (Option Char) :=
  .ok text.rest.head? text

instance : CharStream Text where
  next := next
  peek := peek
  charsLeft text := text.rest.length
  next_le text := by rcases text with ⟨_ | _⟩ <;> simp [next]
  peek_le text := by simp [peek]
  next_lt {text rest c} success := by
    rcases text with ⟨_ | _⟩ <;> simp_all [next]
    rcases success with ⟨rfl, rfl⟩
    simp

end Text

end GrammarCheck
