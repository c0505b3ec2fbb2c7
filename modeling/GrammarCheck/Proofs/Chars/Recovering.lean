import GrammarCheck.Proofs.Chars.FeedLines

/-! # Streams that recover

A stream recovers when a failed read loses no character, so that the read that is made again finds
what the failed one would have found. A script recovers, and so does a stream that keeps in step
with one.
-/

namespace GrammarCheck

open CharStream (ask Call)

variable {σ : Type} [CharStream σ] {fails : List Char → Prop}

/-- A source that serves a text fails at most so many times, where it may, and hands out the whole
text all the same. -/
structure CharStream.Recovers (fails : List Char → Prop) (serves : Nat → σ → List Char → Prop) :
    Prop where
  asked (call : Call) {failures : Nat} {source : σ} {text : List Char}
    (served : serves failures source text) :
    (∃ rest, ask call source = .ok text.head? rest ∧
        serves failures rest (call.leave text)) ∨
      ∃ failure fewer rest, ask call source = .error failure rest ∧ fails text ∧
        fewer < failures ∧ serves fewer rest text

/-- The items are the characters of the text with so many failed reads among them, each where a
read may fail. -/
inductive Script.Serves (fails : List Char → Prop) :
    Nat → List (Except IoFailure Char) → List Char → Prop
  | finish : Serves fails 0 [] []
  | char {failures : Nat} {items : List (Except IoFailure Char)} {text : List Char} (c : Char)
    (further : Serves fails failures items text) :
    Serves fails failures (.ok c :: items) (c :: text)
  | failure {failures : Nat} {items : List (Except IoFailure Char)} {text : List Char}
    (failure : IoFailure) (may : fails text) (further : Serves fails failures items text) :
    Serves fails (failures + 1) (.error failure :: items) text

/-- A stream in step with a script recovers. -/
theorem CharStream.Recovers.of_alike {related : σ → Script → Prop}
    (alike : ∀ call {source script}, related source script →
      Outcome.Alike related (ask call source) (ask call script)) :
    Recovers fails fun failures source text =>
      ∃ items, related source ⟨items⟩ ∧ Script.Serves fails failures items text where
  asked call failures source text served := by
    obtain ⟨items, same, serves⟩ := served
    have together := alike call same
    generalize ask call source = outcome at together
    cases serves with
    | finish =>
      cases call <;>
      · cases together with
        | ok _ states => exact .inl ⟨_, rfl, [], states, .finish⟩
    | char c further =>
      cases call with
      | next =>
        cases together with
        | ok _ states => exact .inl ⟨_, rfl, _, states, further⟩
      | peek =>
        cases together with
        | ok _ states => exact .inl ⟨_, rfl, _, states, .char c further⟩
    | failure failure may further =>
      cases call <;>
      · cases together with
        | error _ states => exact .inr ⟨_, _, _, rfl, may, Nat.lt_succ_self _, _, states, further⟩

/-- Decoded lines recover. -/
theorem Utf8Lines.recovers (fails : List Char → Prop) :
    CharStream.Recovers fails fun failures (lines : Utf8Lines) text =>
      ∃ items, lines.Reads items ∧ Script.Serves fails failures items text :=
  .of_alike (fun call {_ script} (reads : Utf8Lines.Reads _ script.items) => reads.ask call)

end GrammarCheck
