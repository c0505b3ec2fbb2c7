import GrammarCheck.Proofs.Chars.Steady
import GrammarCheck.Proofs.Mirroring

/-! # Scripted streams

A script says what a stream will answer: characters and failed reads, in order. A character stays
until it is taken, a failed read is over as soon as it was met. A stream that keeps in step with a
script answers every sequence of calls as the script does.
-/

namespace GrammarCheck

/-- The characters and failed reads still to come. -/
structure Script where
  items : List (Except IoFailure Char)

namespace Script

def next : Script → Outcome IoFailure Script (Option Char)
  | ⟨[]⟩ => .ok none ⟨[]⟩
  | ⟨.ok c :: items⟩ => .ok (some c) ⟨items⟩
  | ⟨.error failure :: items⟩ => .error failure ⟨items⟩

def peek : Script → Outcome IoFailure Script (Option Char)
  | ⟨[]⟩ => .ok none ⟨[]⟩
  | ⟨.ok c :: items⟩ => .ok (some c) ⟨.ok c :: items⟩
  | ⟨.error failure :: items⟩ => .error failure ⟨items⟩

instance : CharStream Script where
  next := next
  peek := peek
  charsLeft script := script.items.length
  next_le script := by obtain ⟨_ | ⟨_ | _, _⟩⟩ := script <;> simp [next]
  peek_le script := by obtain ⟨_ | ⟨_ | _, _⟩⟩ := script <;> simp [peek]
  next_lt {script rest c} success := by
    obtain ⟨_ | ⟨_ | _, _⟩⟩ := script <;> cases success
    exact Nat.lt_succ_self _

/-- Taken one after the other the items come in order, and then the end for ever. -/
theorem answers_next (items : List (Except IoFailure Char)) (calls : Nat) :
    CharStream.answers (List.replicate calls .next) (Script.mk items) =
      (items.map (Except.map some) ++ List.replicate calls (Except.ok none)).take calls := by
  induction calls generalizing items with
  | zero => rfl
  | succ calls ih =>
    have longer (results : List (Except IoFailure (Option Char))) :
        (results ++ List.replicate calls (Except.ok none)).take calls =
          (results ++ List.replicate (calls + 1) (Except.ok none)).take calls := by
      simp only [List.take_append, List.take_replicate]
      congr 2
      omega
    rw [List.replicate_succ, CharStream.answers]
    obtain _ | ⟨failure | c, items⟩ := items
    · exact congrArg (_ :: ·) (ih [])
    · exact congrArg (_ :: ·) ((ih items).trans (longer _))
    · exact congrArg (_ :: ·) ((ih items).trans (longer _))

end Script

/-- Streams that stay in step answer all calls alike. -/
theorem CharStream.answers_eq_of_alike {σ τ : Type} [CharStream σ] [CharStream τ]
    {related : σ → τ → Prop}
    (alike : ∀ call {left right}, related left right →
      Outcome.Alike related (ask call left) (ask call right))
    (calls : List Call) {left : σ} {right : τ} (start : related left right) :
    answers calls left = answers calls right := by
  induction calls generalizing left right with
  | nil => rfl
  | cons call calls ih =>
    have together := alike call start
    rw [answers, answers, together.result_eq, ih together.states]

end GrammarCheck
