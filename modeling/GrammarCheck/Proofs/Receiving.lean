import GrammarCheck.Receiver

/-! # Receivers that take everything

What a receiver has become is decided by the diagnostics that it was handed, in their order. One
that never fails takes them all.
-/

namespace GrammarCheck

namespace Receiver

variable {ρ : Type} [Receiver ρ]

def deliver (diagnostics : List Diagnostic) (receiver : ρ) : ρ :=
  diagnostics.foldl (fun receiver diagnostic => (receive diagnostic receiver).state) receiver

/-- The receiver takes every diagnostic, whatever it took before. -/
def Unfailing (receiver : ρ) : Prop :=
  ∀ taken diagnostic, ∃ after, receive diagnostic (deliver taken receiver) = .ok () after

variable {receiver : ρ}

theorem deliver_concat (taken : List Diagnostic) (diagnostic : Diagnostic) :
    deliver (taken ++ [diagnostic]) receiver =
      (receive diagnostic (deliver taken receiver)).state := by
  rw [deliver, List.foldl_append]
  rfl

theorem Unfailing.receive_eq (unfailing : Unfailing receiver) (taken : List Diagnostic)
    (diagnostic : Diagnostic) : receive diagnostic (deliver taken receiver) =
      .ok () (deliver (taken ++ [diagnostic]) receiver) := by
  obtain ⟨after, received⟩ := unfailing taken diagnostic
  rw [deliver_concat, received, Outcome.state_ok]

end Receiver

namespace Collector

variable {collector : Collector}

theorem receive_of_unlimited (unlimited : collector.limit? = none) (diagnostic : Diagnostic) :
    Receiver.receive diagnostic collector =
      .ok () { collector with diagnostics := collector.diagnostics ++ [diagnostic] } :=
  if_pos (by rw [hasRoom, unlimited])

/-- Without a limit a collector keeps all that it is handed, in order. -/
theorem deliver_eq (unlimited : collector.limit? = none) (diagnostics : List Diagnostic) :
    Receiver.deliver diagnostics collector =
      { collector with diagnostics := collector.diagnostics ++ diagnostics } := by
  induction diagnostics generalizing collector with
  | nil => simp [Receiver.deliver]
  | cons diagnostic diagnostics ih =>
    rw [Receiver.deliver, List.foldl_cons, receive_of_unlimited unlimited,
      Outcome.state_ok]
    refine (ih ?_).trans ?_
    · exact unlimited
    · rw [List.append_assoc, List.singleton_append]

theorem unfailing (unlimited : collector.limit? = none) : Receiver.Unfailing collector := by
  intro taken diagnostic
  rw [deliver_eq unlimited]
  refine ⟨_, receive_of_unlimited ?_ diagnostic⟩
  exact unlimited

end Collector

end GrammarCheck
