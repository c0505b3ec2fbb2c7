import GrammarCheck.Proofs.Chars.Steady
import GrammarCheck.Proofs.Mirroring

/-! # Streams that stop short

One stream trails another as long as it answers like that one, and it fails only where the other has
come to a place that it does not leave again. A text cut off behind some of its characters trails
the whole text, where that knows whether it was asked for more than these.
-/

namespace GrammarCheck

open Outcome (Mirrors)

/-- The first stream answers like the second, or it fails and the second is past the place of the
failure from then on. -/
structure CharStream.Trails {σ τ : Type} [CharStream σ] [CharStream τ] (sources : σ → τ → Prop)
    (past : IoFailure → τ → Prop) : Prop where
  next {left : σ} {right : τ} : sources left right →
    Mirrors (fun failure _ later => past failure later) Eq sources Eq (CharStream.next left)
      (CharStream.next right)
  peek {left : σ} {right : τ} : sources left right →
    Mirrors (fun failure _ later => past failure later) Eq sources Eq (CharStream.peek left)
      (CharStream.peek right)
  past_next {failure : IoFailure} {right : τ} : past failure right →
    past failure (CharStream.next right).state
  past_peek {failure : IoFailure} {right : τ} : past failure right →
    past failure (CharStream.peek right).state

/-- A text whose reads fail behind its last character. -/
structure CutText where
  rest : List Char
  failure : IoFailure

namespace CutText

def ofString (text : String) (count : Nat) (failure : IoFailure) : CutText :=
  ⟨text.toList.take count, failure⟩

def next (text : CutText) : Outcome IoFailure CutText (Option Char) :=
  match text.rest with
  | [] => .error text.failure text
  | c :: rest => .ok (some c) { text with rest }

def peek (text : CutText) : Outcome IoFailure CutText (Option Char) :=
  match text.rest with
  | [] => .error text.failure text
  | c :: _ => .ok (some c) text

instance : CharStream CutText where
  next := next
  peek := peek
  charsLeft text := text.rest.length
  next_le text := by obtain ⟨_ | _, _⟩ := text <;> simp [next]
  peek_le text := by obtain ⟨_ | _, _⟩ := text <;> simp [peek]
  next_lt {text rest c} success := by
    obtain ⟨_ | ⟨d, behind⟩, failure⟩ := text
    · contradiction
    · cases success
      exact Nat.lt_succ_self _

end CutText

/-- A text in two parts, and whether it was asked for more than the first. -/
structure SplitText where
  front : List Char
  back : List Char
  crossed : Bool := false

namespace SplitText

def ofString (text : String) (count : Nat) : SplitText :=
  { front := text.toList.take count, back := text.toList.drop count }

def next (text : SplitText) : Outcome IoFailure SplitText (Option Char) :=
  match text.front with
  | [] => .ok text.back.head? { text with back := text.back.tail, crossed := true }
  | c :: front => .ok (some c) { text with front }

def peek (text : SplitText) : Outcome IoFailure SplitText (Option Char) :=
  match text.front with
  | [] => .ok text.back.head? { text with crossed := true }
  | c :: _ => .ok (some c) text

instance : CharStream SplitText where
  next := next
  peek := peek
  charsLeft text := text.front.length + text.back.length
  next_le text := by obtain ⟨_ | _, _ | _, _⟩ := text <;> simp [next]
  peek_le text := by obtain ⟨_ | _, _, _⟩ := text <;> simp [peek]
  next_lt {text rest c} success := by
    obtain ⟨_ | ⟨d, front⟩, _ | ⟨e, back⟩, crossed⟩ := text <;> cases success <;> simp

/-- Together the two parts are what is served. -/
instance : SteadyStream SplitText where
  Serves source text := source.front ++ source.back = text
  next_nil {source} serves := by
    obtain ⟨front, back, crossed⟩ := source
    obtain ⟨rfl, rfl⟩ := List.append_eq_nil_iff.mp serves
    exact ⟨_, rfl, rfl⟩
  next_cons {source c text} serves := by
    obtain ⟨_ | ⟨d, front⟩, back, crossed⟩ := source
    · obtain rfl : back = c :: text := serves
      exact ⟨_, rfl, rfl⟩
    · obtain ⟨rfl, rfl⟩ := List.cons.inj serves
      exact ⟨_, rfl, rfl⟩
  peek_head {source text} serves := by
    obtain ⟨_ | ⟨d, front⟩, back, crossed⟩ := source
    · subst serves
      exact ⟨_, rfl, rfl⟩
    · subst serves
      exact ⟨_, rfl, rfl⟩

theorem serves_ofString (text : String) (count : Nat) :
    SteadyStream.Serves (ofString text count) text.toList :=
  List.take_append_drop count text.toList

/-- The reads of a text that is cut off fail once the whole text is asked for its second part. -/
theorem trails (failure : IoFailure) : CharStream.Trails
    (fun (cut : CutText) (whole : SplitText) =>
      cut = ⟨whole.front, failure⟩ ∧ whole.crossed = false)
    (fun cause whole => cause = failure ∧ whole.crossed = true) where
  next {cut whole} same := by
    obtain ⟨rfl, apart⟩ := same
    obtain ⟨_ | ⟨c, front⟩, back, crossed⟩ := whole
    · exact .halt ⟨rfl, rfl⟩
    · exact .ok rfl ⟨rfl, apart⟩
  peek {cut whole} same := by
    obtain ⟨rfl, apart⟩ := same
    obtain ⟨_ | ⟨c, front⟩, back, crossed⟩ := whole
    · exact .halt ⟨rfl, rfl⟩
    · exact .ok rfl ⟨rfl, apart⟩
  past_next {cause whole} past := by
    obtain ⟨_ | ⟨c, front⟩, back, crossed⟩ := whole
    · exact ⟨past.1, rfl⟩
    · exact past
  past_peek {cause whole} past := by
    obtain ⟨_ | ⟨c, front⟩, back, crossed⟩ := whole
    · exact ⟨past.1, rfl⟩
    · exact past

end SplitText

end GrammarCheck
