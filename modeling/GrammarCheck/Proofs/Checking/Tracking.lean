import GrammarCheck.Proofs.Checking.Lockstep

/-! # Checks of streams that show the same tokens

Where one token stream tracks another, checks of the two report the same and end alike. The streams
may keep different records of their events.
-/

namespace GrammarCheck

open Outcome (Alike)

/-- A stream that offers the tokens of another shows the same token, and while it shows it, drops
it and then shows the next. -/
structure TokenStream.Tracks {σ τ : Type} [TokenStream σ] [TokenStream τ]
    (offers shows : σ → τ → Prop) : Prop where
  offers_of_shows {left : σ} {right : τ} : shows left right → offers left right
  peek {left : σ} {right : τ} : offers left right →
    Alike shows (TokenStream.peek left) (TokenStream.peek right)
  drop {left : σ} {right : τ} : shows left right →
    Alike shows (TokenStream.drop left) (TokenStream.drop right)
  note {left : σ} {right : τ} (event : Event) : shows left right →
    shows (TokenStream.note event left) (TokenStream.note event right)

namespace Checker

variable {σ τ ρ : Type} {offers shows : σ → τ → Prop} {left : Checker σ ρ} {right : Checker τ ρ}
  {goal : Goal} {goals : List Goal}

/-- Two checkers agree on all but their tokens, and these are related. -/
structure Alike (related : σ → τ → Prop) (left : Checker σ ρ) (right : Checker τ ρ) : Prop where
  tokens : related left.tokens right.tokens
  receiver_eq : left.receiver = right.receiver
  lastReported_eq : left.lastReported = right.lastReported
  reportCount_eq : left.reportCount = right.reportCount
  depth_eq : left.depth = right.depth

end Checker

namespace TokenStream.Tracks

variable {σ τ ρ : Type} [TokenStream σ] [TokenStream τ] [Receiver ρ] {offers shows : σ → τ → Prop}
  (tracks : TokenStream.Tracks offers shows) {left : Checker σ ρ} {right : Checker τ ρ}

/-- A stream keeps in step with the one that it tracks, where the receivers are the same. -/
def lockstep (ρ : Type) [Receiver ρ] : Lockstep σ τ ρ ρ where
  tokens := Eq
  offers := offers
  shows := shows
  receivers receiver count receiver' count' := receiver = receiver' ∧ count = count'
  halted _ _ _ _ _ := False
  corresponds := .eq
  offers_of_shows := tracks.offers_of_shows
  note alike showing := by
    rw [alike.eq]
    exact tracks.note _ showing
  peek offering _ := (tracks.peek offering).mirrors .refl fun _ => rfl
  drop showing _ := (tracks.drop showing).mirrors .refl fun _ => rfl
  receive _ same alike := by
    obtain ⟨rfl, rfl⟩ := same
    rw [alike.eq]
    exact .refl _ (fun _ => rfl) (fun _ => ⟨rfl, rfl⟩) fun _ => rfl
  kept := .never

/-- A stream keeps in step with the one that it tracks, where the receivers do the same. -/
def lockstepWith {ρ' : Type} [Receiver ρ'] {related : ρ → ρ' → Prop}
    (received : ∀ (diagnostic : Diagnostic) {receiver : ρ} {receiver' : ρ'},
      related receiver receiver' → Alike related (Receiver.receive diagnostic receiver)
        (Receiver.receive diagnostic receiver')) : Lockstep σ τ ρ ρ' where
  tokens := Eq
  offers := offers
  shows := shows
  receivers receiver count receiver' count' := related receiver receiver' ∧ count = count'
  halted _ _ _ _ _ := False
  corresponds := .eq
  offers_of_shows := tracks.offers_of_shows
  note alike showing := by
    rw [alike.eq]
    exact tracks.note _ showing
  peek offering _ := (tracks.peek offering).mirrors .refl fun _ => rfl
  drop showing _ := (tracks.drop showing).mirrors .refl fun _ => rfl
  receive {_ _ _ _ diagnostic _} _ same alike := by
    obtain ⟨states, rfl⟩ := same
    rw [alike.eq]
    exact ((received _ states).mono fun states => ⟨states, rfl⟩).mirrors (fun _ => rfl)
      fun _ => rfl
  kept := .never

theorem relates (alike : left.Alike offers right) :
    (tracks.lockstep ρ).Relates offers left right where
  tokens := alike.tokens
  receivers := ⟨alike.receiver_eq, alike.reportCount_eq⟩
  reported := by
    rintro first _ rfl
    rw [alike.lastReported_eq]
  depth_eq := alike.depth_eq

theorem alike_of_relates (relates : (tracks.lockstep ρ).Relates offers left right) :
    left.Alike offers right where
  tokens := relates.tokens
  receiver_eq := relates.receivers.1
  lastReported_eq := Option.ext fun _ => relates.reported rfl
  reportCount_eq := relates.receivers.2
  depth_eq := relates.depth_eq

/-- Operations in step without a halt are alike. -/
theorem alike_of_agree {α : Type} {values : α → α → Prop} {first : Outcome Failure (Checker σ ρ) α}
    {second : Outcome Failure (Checker τ ρ) α}
    (agree : (tracks.lockstep ρ).Agree offers values first second)
    (value_eq : ∀ {value value'}, values value value' → value = value') :
    Alike (Checker.Alike offers) first second :=
  .of_mirrors (agree.imp tracks.alike_of_relates) id Failure.Alike.eq value_eq

end TokenStream.Tracks

namespace Checker

variable {σ τ ρ : Type} {offers shows : σ → τ → Prop} {left : Checker σ ρ} {right : Checker τ ρ}
  {goal : Goal} {goals : List Goal}

variable [TokenStream σ] [TokenStream τ] [Receiver ρ] (tracks : TokenStream.Tracks offers shows)

include tracks

theorem alike_step (alike : left.Alike offers right) :
    Outcome.Alike (Alike offers) (left.step goal) (right.step goal) :=
  tracks.alike_of_agree ((tracks.relates alike).step (Goal.Alike.refl goal)) Goal.eq_of_alike

theorem exists_step_ok {pushed : List Goal} {next : Checker σ ρ} (alike : left.Alike offers right)
    (stepped : left.step goal = .ok pushed next) :
    ∃ next', right.step goal = .ok pushed next' ∧ next.Alike offers next' := by
  have steps : Outcome.Alike (Alike offers) (left.step goal) (right.step goal) :=
    alike_step tracks alike
  rw [stepped] at steps
  exact steps.exists_ok

theorem exists_step_error {failure : Failure} {next : Checker σ ρ}
    (alike : left.Alike offers right) (failed : left.step goal = .error failure next) :
    ∃ next', right.step goal = .error failure next' ∧ next.Alike offers next' := by
  have steps : Outcome.Alike (Alike offers) (left.step goal) (right.step goal) :=
    alike_step tracks alike
  rw [failed] at steps
  exact steps.exists_error

/-- Runs over streams that track each other end alike. -/
theorem alike_run (alike : left.Alike offers right) :
    Outcome.Alike (Alike offers) (left.run goals) (right.run goals) :=
  have same : List.Forall₂ (Goal.Alike Eq) goals goals :=
    List.forall₂_same.mpr fun goal _ => Goal.Alike.refl goal
  tracks.alike_of_agree ((tracks.relates alike).run same) id

end Checker

end GrammarCheck
