import GrammarCheck.Proofs.Chars.Recovering
import GrammarCheck.Proofs.Lexing.Looking
import GrammarCheck.Proofs.Lexing.Resumable
import GrammarCheck.Proofs.Lexing.Together
import GrammarCheck.Proofs.Lexing.Turns

/-! # Cursors over streams that recover

Over a stream that recovers a cursor is read like one over the text itself, until a read fails. Then
it stays on the character that it was on, and if the token can be started over there nothing of it
is lost.
-/

namespace GrammarCheck

open Chars CharStream

variable {σ : Type} [CharStream σ] {fails : List Char → Prop} {serves : Nat → σ → List Char → Prop}

namespace Cursor

/-- The cursor faces the text: it is on the first character, and the stream serves what follows,
with so many failed reads at most. -/
structure Faces (serves : Nat → σ → List Char → Prop) (cursor : Cursor σ) (failures : Nat)
    (text : List Char) : Prop where
  held : cursor.released = false
  spot_eq : cursor.spot = Spot.ofHead text.head?
  lineEnded_eq : cursor.lineEnded = text.head?.any isLineEnd
  served : serves failures cursor.source (afterFirst text)

variable {cursor : Cursor σ} {failures : Nat} {shown : Bool} {c : Char} {text : List Char}
  {source : σ}

/-- Behind a carriage return its line feed is taken. -/
private theorem pairLineFeed_of_recovers (recovers : Recovers fails serves)
    (served : serves failures source text) (sound : c = '\r' → ¬ fails text) :
    ∃ rest, pairLineFeed c source = .ok () rest ∧ serves failures rest (afterFirst (c :: text)) := by
  rw [pairLineFeed_eq]
  by_cases carriage : c = '\r'
  · subst carriage
    have asks (call : Call) {source : σ} (served : serves failures source text) :
        ∃ rest, ask call source = .ok text.head? rest ∧ serves failures rest (call.leave text) :=
      (recovers.asked call served).resolve_right fun ⟨_, _, _, _, failed, _⟩ => sound rfl failed
    obtain ⟨rest, shown, served⟩ := asks .peek served
    have shown : CharStream.peek source = .ok text.head? rest := shown
    rw [if_pos rfl, shown, Outcome.andThen_ok]
    by_cases feed : text.head? = some '\n'
    · obtain ⟨behind, taken, served⟩ := asks .next served
      have taken : CharStream.next rest = .ok text.head? behind := taken
      obtain ⟨text, rfl⟩ := List.head?_eq_some_iff.mp feed
      exact ⟨behind, by rw [if_pos feed, taken, Outcome.map], served⟩
    · exact ⟨rest, if_neg feed, by rwa [afterFirst_cons fun _ => feed]⟩
  · exact ⟨source, if_neg carriage, by rwa [afterFirst_cons fun same => absurd same carriage]⟩

/-- A cursor that has not come to the end moves on to what its stream serves, or stays where it
is. -/
theorem move_of_recovers (recovers : Recovers fails serves) (held : cursor.released = false)
    (unfinished : cursor.spot ≠ .finish) (served : serves failures cursor.source text)
    (sound : ∀ behind, text = '\r' :: behind → ¬ fails behind) :
    (∃ next, cursor.move = .ok text.head? next ∧ next.Faces serves failures text) ∨
      ∃ cause fewer source, cursor.move = .error (.io cause) { cursor.count with source } ∧
        fails text ∧ fewer < failures ∧ serves fewer source text := by
  rw [move_eq, if_neg (by simp [held]), if_neg unfinished]
  obtain ⟨rest, taken, served⟩ | ⟨cause, fewer, rest, failed, may, less, served⟩ :=
    recovers.asked .next served
  · have taken : CharStream.next cursor.source = .ok text.head? rest := taken
    rw [taken, Outcome.lift, Outcome.andThen_ok]
    left
    cases text with
    | nil => exact ⟨_, rfl, by simpa [note] using held, rfl, cursor.lineEnded_count, served⟩
    | cons c text =>
      have single : c = '\r' → ¬ fails text := fun carriage => sound text (by rw [carriage])
      obtain ⟨behind, paired, served⟩ := pairLineFeed_of_recovers recovers served single
      refine ⟨_, by rw [List.head?_cons, enter, paired]; rfl, ?_⟩
      split
      · exact ⟨by simpa [note] using held, rfl, rfl, served⟩
      · exact ⟨by simpa using held, rfl, rfl, served⟩
  · have failed : CharStream.next cursor.source = .error cause rest := failed
    rw [failed]
    exact .inr ⟨cause, fewer, rest, rfl, may, less, served⟩

/-- A cursor on a character moves to the next one, or stays. Where no read fails behind a line end,
it stays only on a character within a line, and as if it had come there just now. -/
theorem Faces.move (recovers : Recovers fails serves)
    (faces : cursor.Faces serves failures (c :: text))
    (sound : ∀ {d behind}, isLineEnd d = true → d :: behind <:+ c :: text → ¬ fails behind) :
    (∃ next, cursor.move = .ok (afterFirst (c :: text)).head? next ∧
        next.Faces serves failures (afterFirst (c :: text))) ∨
      ∃ cause fewer next, cursor.move = .error (.io cause) next ∧ fails text ∧ fewer < failures ∧
        next.Faces serves fewer (c :: text) := by
  have here : cursor.spot = .char c := faces.spot_eq
  have unfinished : cursor.spot ≠ .finish := by simp [here]
  have behind := afterFirst_suffix (c :: text)
  obtain moved | ⟨cause, fewer, source, moved, failed, less, served⟩ :=
    move_of_recovers recovers faces.held unfinished faces.served fun rest same => by
      rw [same] at behind
      exact sound rfl behind
  · exact .inl moved
  · right
    have solid : isLineEnd c = false := by
      apply Bool.eq_false_iff.mpr
      intro ends
      obtain ⟨d, ends, within⟩ := exists_lineEnd_suffix ends text
      exact sound ends within failed
    have single : c = '\r' → text.head? ≠ some '\n' := by
      rintro rfl
      exact absurd solid (by decide)
    rw [afterFirst_cons single] at failed served
    refine ⟨cause, fewer, _, moved, failed, less, by simpa using faces.held, ?_, ?_, ?_⟩
    · exact (spot_count cursor).trans here
    · exact (lineEnded_count cursor).trans solid.symm
    · rwa [afterFirst_cons single]

/-- Both cursors face the same part of the text, and the second is at a position in it. -/
def Abreast (serves : Nat → σ → List Char → Prop) (failures : Nat) (text : List Char)
    (left : Cursor σ) (right : Cursor Text) : Prop :=
  ∃ position ahead, right.StandsAt position ahead ∧ left.Faces serves failures ahead ∧
    ahead <:+ text

/-- A read failed behind the character that the first cursor is on. The second went on. -/
def Stuck (fails : List Char → Prop) (serves : Nat → σ → List Char → Prop) (failures : Nat)
    (text : List Char) (failure : Failure) (left : Cursor σ) (right : Cursor Text) : Prop :=
  (∃ cause, failure = .io cause) ∧ ∃ c behind fewer, left.Faces serves fewer (c :: behind) ∧
    fewer < failures ∧ fails behind ∧ c :: behind <:+ text ∧
      ∃ position ahead, right.StandsAt position ahead ∧ ahead <:+ behind

private theorem StandsAt.exists_move {right : Cursor Text} {position : Position}
    (stands : right.StandsAt position text) :
    ∃ c? next place, right.move = .ok c? next ∧ next.StandsAt place (afterFirst text) := by
  cases text with
  | nil => exact ⟨_, _, _, stands.move_at_end, stands⟩
  | cons c text =>
    obtain ⟨next, moved, there⟩ := stands.move
    exact ⟨_, _, _, moved, there⟩

/-- A cursor over a stream that recovers is read like one over the text itself, until a read
fails. -/
theorem together_of_recovers (recovers : Recovers fails serves)
    (sound : ∀ {d behind}, isLineEnd d = true → d :: behind <:+ text → ¬ fails behind) :
    Together (Abreast serves failures text) (Stuck fails serves failures text) where
  spot_eq := by
    rintro left right ⟨position, ahead, stands, faces, -⟩
    rw [faces.spot_eq, stands.spot_eq]
  lineEnded_eq := by
    rintro left right ⟨position, ahead, stands, faces, -⟩
    rw [faces.lineEnded_eq, stands.lineEnded_eq]
  move := by
    rintro left right c ⟨position, ahead, stands, faces, within⟩ here
    obtain ⟨ahead, rfl⟩ : ∃ rest, ahead = c :: rest := by
      apply stands.exists_cons
      rw [stands.spot_eq, ← faces.spot_eq, here]
    obtain ⟨next', moved', there⟩ := stands.move
    rw [moved']
    obtain ⟨next, moved, facing⟩ | ⟨cause, fewer, next, moved, failed, less, facing⟩ :=
      faces.move recovers fun ends inside => sound ends (inside.trans within)
    · rw [moved]
      exact .ok rfl ⟨_, _, there, facing, (afterFirst_suffix _).trans within⟩
    · rw [moved]
      exact .halt ⟨⟨cause, rfl⟩, c, ahead, fewer, facing, less, failed, within, _, _, there,
        afterFirst_cons_suffix c ahead⟩
  kept failure left :=
    { move := by
        rintro right ⟨cause, c, behind, fewer, faces, less, failed, within, position, ahead, stands,
          past⟩
        obtain ⟨c?, next, place, moved, there⟩ := stands.exists_move
        rw [moved]
        exact ⟨cause, c, behind, fewer, faces, less, failed, within, place, _, there,
          (afterFirst_suffix _).trans past⟩
      note := by
        rintro right event ⟨cause, c, behind, fewer, faces, less, failed, within, position, ahead,
          stands, past⟩
        exact ⟨cause, c, behind, fewer, faces, less, failed, within, position, ahead,
          stands.note event, past⟩ }

private theorem StandsAt.unique {cursor : Cursor Text} {position place : Position}
    {ahead rest : List Char}
    (stands : cursor.StandsAt position ahead) (there : cursor.StandsAt place rest)
    (within : ahead <:+ text) (inside : rest <:+ text) : ahead = rest := by
  have head : ahead.head? = rest.head? := by rw [← stands.char?_eq, there.char?_eq]
  have behind : afterFirst ahead = afterFirst rest := stands.serves.symm.trans there.serves
  obtain suffix | suffix := List.suffix_or_suffix_of_suffix within inside
  · exact eq_of_suffix suffix head behind
  · exact (eq_of_suffix suffix head.symm behind.symm).symm

private theorem exists_standsAt (text : List Char) :
    ∃ (cursor : Cursor Text) (position : Position), cursor.StandsAt position text :=
  ⟨⟨⟨afterFirst text⟩, false, "", 0, 0, .ofHead text.head?, text.head?.any isLineEnd, []⟩, _,
    rfl, rfl, rfl, rfl, rfl⟩

/-- Where the text itself is read up to `rest`, the stream that recovers is as well, or the cursor
stays on a character in front of it behind which a read failed. -/
theorem Faces.nextToken_of_read (recovers : Recovers fails serves)
    (faces : cursor.Faces serves failures text) (resumable : Resumable fails shown text)
    {right next : Cursor Text} {position place : Position} {token : Token} {rest : List Char}
    (stands : right.StandsAt position text) (read : right.nextToken = .ok token next)
    (there : next.StandsAt place rest) (within : rest <:+ text) :
    (∃ token' next', cursor.nextToken = .ok token' next' ∧ token'.SameWord token ∧
        next'.Faces serves failures rest) ∨
      ∃ cause fewer next' c behind, cursor.nextToken = .error (.io cause) next' ∧
        next'.Faces serves fewer (c :: behind) ∧ fewer < failures ∧ fails behind ∧
        c :: behind <:+ text ∧ rest <:+ behind := by
  have mirrors := (together_of_recovers recovers resumable.not_fails).nextToken
    ⟨position, text, stands, faces, List.suffix_rfl⟩
  rw [read] at mirrors
  generalize cursor.nextToken = outcome at mirrors
  cases mirrors with
  | ok same abreast =>
    obtain ⟨_, ahead, stands', facing, inside⟩ := abreast
    obtain rfl := stands'.unique there inside within
    exact .inl ⟨_, _, rfl, same, facing⟩
  | halt stuck =>
    obtain ⟨⟨cause, rfl⟩, c, behind, fewer, facing, less, failed, inside, _, ahead, stands', past⟩ :=
      stuck
    have further := (past.trans (List.suffix_cons c behind)).trans inside
    obtain rfl := stands'.unique there further within
    exact .inr ⟨cause, fewer, _, c, behind, rfl, facing, less, failed, inside, past⟩

/-- The first of the tokens is read, and the others follow. Or a read fails, and the cursor stays
where the token can be started over. Before a token was shown that is on a blank, and it can be
started over behind the blank too. -/
theorem Faces.nextToken (recovers : Recovers fails serves)
    (faces : cursor.Faces serves failures text) {tokens : Tokens}
    (recoverable : tokens.Recoverable fails shown text) :
    (∃ token next, cursor.nextToken = .ok token next ∧ token.SameWord tokens.first ∧
        next.released = false ∧ (tokens.front ≠ [] → ∃ behind, next.Faces serves failures behind ∧
          tokens.rest.Recoverable fails true behind)) ∨
      ∃ cause fewer next c behind, cursor.nextToken = .error (.io cause) next ∧
        fewer < failures ∧ next.Faces serves fewer (c :: behind) ∧
        tokens.Recoverable fails shown (c :: behind) ∧
        (shown = false → isBlank c = true ∧ tokens.Recoverable fails shown behind) := by
  obtain ⟨right, position, stands⟩ := exists_standsAt text
  obtain ⟨resumable, follow⟩ := recoverable
  cases resumable with
  | finish resumableGap =>
    have resume {later : List Char} (goesOn : ResumableGap fails shown later []) :
        tokens.Recoverable fails shown later :=
      ⟨.finish goesOn, follow.resume resumableGap goesOn nofun⟩
    obtain ⟨gap, split, isGap⟩ := resumableGap.exists_gap
    rw [List.append_nil] at split
    obtain rfl := split
    have empty := follow.front_of_gap isGap
    obtain ⟨there, read, stops⟩ := stands.nextToken_of_gap isGap
    obtain ⟨token', next, read', same, facing⟩ |
      ⟨cause, fewer, next, c, behind, failed, facing, less, may, within, -⟩ :=
      faces.nextToken_of_read recovers (.finish resumableGap) stands read stops List.nil_suffix
    · refine .inl ⟨token', next, read', ?_, facing.held, fun more => absurd empty more⟩
      rw [Tokens.first, empty]
      exact same
    · obtain ⟨goesOn, fresh⟩ := resumableGap.startsOver may within fun past => by simp at past
      exact .inr ⟨cause, fewer, next, c, behind, failed, less, facing, resume goesOn,
        fun unshown => (fresh unshown).imp_right resume⟩
  | @token _ kind d _ body rest resumableGap spells whole tail =>
    have resume {later : List Char} (goesOn : ResumableGap fails shown later (d :: (body ++ rest))) :
        tokens.Recoverable fails shown later :=
      ⟨.token goesOn spells whole tail, follow.resume resumableGap goesOn (solid_of_spells spells)⟩
    obtain ⟨gap, rfl, isGap⟩ := resumableGap.exists_gap
    obtain ⟨first, follows⟩ := follow.first_of_spells isGap spells
    obtain ⟨there, read, stops⟩ := stands.nextToken_of_spells isGap spells
    have within : rest <:+ gap ++ (d :: body ++ rest) :=
      (List.suffix_append _ _).trans (List.suffix_append _ _)
    obtain ⟨token', next, read', same, facing⟩ |
      ⟨cause, fewer, next, c, behind, failed, facing, less, may, inside, past⟩ :=
      faces.nextToken_of_read recovers (.token resumableGap spells whole tail) stands read stops
        within
    · exact .inl ⟨token', next, read', same.trans first.symm, facing.held,
        fun _ => ⟨rest, facing, tail, follows⟩⟩
    · -- The token was not read to its end, so the failure is not behind it.
      obtain ⟨goesOn, fresh⟩ := resumableGap.startsOver may inside fun further => by
        refine (whole.place may further).resolve_right fun beyond => ?_
        have shorter := (beyond.trans past).length_le
        rw [List.length_cons] at shorter
        omega
      exact .inr ⟨cause, fewer, next, c, behind, failed, less, facing, resume goesOn,
        fun unshown => (fresh unshown).imp_right resume⟩

end Cursor

end GrammarCheck
