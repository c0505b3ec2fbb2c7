import GrammarCheck.Chars.Text

/-! # Steady streams

A source serves a text when it hands out the characters of the text in order, shows each of them
before it is taken, and never fails. Where a source serves a text, reading depends on the text
alone.
-/

namespace GrammarCheck

/-- A stream with sources that serve texts. -/
class SteadyStream (σ : Type) [CharStream σ] where
  /-- The source hands out exactly the characters of the text. -/
  Serves : σ → List Char → Prop
  next_nil {source : σ} (serves : Serves source []) :
    ∃ rest, CharStream.next source = .ok none rest ∧ Serves rest []
  next_cons {source : σ} {c : Char} {text : List Char} (serves : Serves source (c :: text)) :
    ∃ rest, CharStream.next source = .ok (some c) rest ∧ Serves rest text
  peek_head {source : σ} {text : List Char} (serves : Serves source text) :
    ∃ rest, CharStream.peek source = .ok text.head? rest ∧ Serves rest text

namespace CharStream

inductive Call where
  | next
  | peek
  deriving DecidableEq, Repr

def Call.leave : Call → List Char → List Char
  | next, text => text.tail
  | peek, text => text

variable {σ : Type} [CharStream σ]

def ask : Call → σ → Outcome IoFailure σ (Option Char)
  | .next, source => next source
  | .peek, source => peek source

def answers : List Call → σ → List (Except IoFailure (Option Char))
  | [], _ => []
  | call :: calls, source => (ask call source).result :: answers calls (ask call source).state

end CharStream

namespace SteadyStream

open CharStream (ask answers)

variable {σ τ : Type} [CharStream σ] [SteadyStream σ] [CharStream τ] [SteadyStream τ]
  {source : σ} {other : τ} {text : List Char}

/-- Both calls answer with the next character. -/
theorem Serves.ask (serves : Serves source text) (call : CharStream.Call) :
    ∃ rest, ask call source = .ok text.head? rest ∧ Serves rest (call.leave text) := by
  cases call with
  | peek => exact peek_head serves
  | next =>
    cases text with
    | nil => exact next_nil serves
    | cons c text => exact next_cons serves

/-- Sources of one text answer all calls alike. -/
theorem Serves.answers_eq (serves : Serves source text) (serves' : Serves other text)
    (calls : List CharStream.Call) : answers calls source = answers calls other := by
  induction calls generalizing source other text with
  | nil => rfl
  | cons call calls ih =>
    obtain ⟨rest, asked, left⟩ := serves.ask call
    obtain ⟨rest', asked', left'⟩ := serves'.ask call
    rw [answers, answers, asked, asked']
    exact congrArg _ (ih left left')

end SteadyStream

namespace Text

/-- A text in memory serves what is left of it. -/
instance : SteadyStream Text where
  Serves source text := source.rest = text
  next_nil {source} serves := by
    obtain ⟨rest⟩ := source
    subst serves
    exact ⟨⟨[]⟩, rfl, rfl⟩
  next_cons {source c text} serves := by
    obtain ⟨rest⟩ := source
    subst serves
    exact ⟨⟨text⟩, rfl, rfl⟩
  peek_head {source text} serves := by
    subst serves
    exact ⟨source, rfl, rfl⟩

theorem serves_ofString (text : String) :
    SteadyStream.Serves (Text.ofString text) text.toList := rfl

end Text

end GrammarCheck
