import GrammarCheck.Proofs.Lexing.LineEnds

/-! # Places where a token can be started over

A read that fails gives up the token or the comment that was being read, and what is read next
starts at the character under the cursor. So nothing is lost where that character is a blank, or the
first of a token or a comment. Before any token was shown the cursor moves on first, and then only a
blank may be passed over.
-/

namespace GrammarCheck

open Chars

section Definitions

variable (fails : List Char → Prop)

/-- No read fails within the lexeme or comment or right behind it. But one may fail behind its first
character, with `body` behind that, if a token was shown before. -/
def Whole (shown : Bool) (body rest : List Char) : Prop :=
  ∀ back, back <:+ body → fails (back ++ rest) → shown = true ∧ back = body

/-- The text is a gap in front of `rest`, and where a read fails in the gap it can be gone on
with. Behind a line end no read fails. -/
inductive ResumableGap (shown : Bool) : List Char → List Char → Prop
  | nil (rest : List Char) : ResumableGap shown rest rest
  | blank {c : Char} {text rest : List Char} (blank : isBlank c = true)
    (tail : ResumableGap shown text rest) : ResumableGap shown (c :: text) rest
  | lineEnd {c : Char} {text rest : List Char} (ends : isLineEnd c = true) (sound : ¬ fails text)
    (tail : ResumableGap shown text rest) : ResumableGap shown (c :: text) rest
  | comment {body text rest : List Char} (inside : ∀ c ∈ body, isLineEnd c = false)
    (ended : EndsLine text) (whole : Whole fails shown body text)
    (tail : ResumableGap shown text rest) : ResumableGap shown ('#' :: (body ++ text)) rest

/-- Wherever a read of the text fails, the token that it was made for can be started over. -/
inductive Resumable : Bool → List Char → Prop
  | finish {shown : Bool} {text : List Char} (isGap : ResumableGap fails shown text []) :
    Resumable shown text
  | token {shown : Bool} {kind : Token.Kind} {c : Char} {text body rest : List Char}
    (isGap : ResumableGap fails shown text (c :: (body ++ rest)))
    (spells : kind.Spells (c :: body) rest) (whole : Whole fails shown body rest)
    (tail : Resumable true rest) : Resumable shown text

end Definitions

variable {fails : List Char → Prop} {shown : Bool} {c d : Char} {text body rest behind : List Char}

/-- A failed read among the characters of a lexeme or a comment stands right behind the first of
them, and every other one is further behind. -/
theorem Whole.place (whole : Whole fails shown body rest) (failed : fails behind)
    (within : c :: behind <:+ d :: (body ++ rest)) :
    shown = true ∧ c :: behind = d :: (body ++ rest) ∨ c :: behind <:+ rest := by
  obtain same | further := List.suffix_cons_iff.mp within
  · obtain ⟨-, rfl⟩ := List.cons.inj same
    exact .inl ⟨(whole body List.suffix_rfl failed).1, same⟩
  refine .inr ?_
  obtain past | ⟨before, split⟩ :=
    List.suffix_or_suffix_of_suffix further (List.suffix_append body rest)
  · exact past
  cases before with
  | nil =>
    rw [← split]
    exact List.suffix_rfl
  | cons e back =>
    obtain ⟨rfl, rfl⟩ : e = c ∧ back ++ rest = behind := List.cons.inj split
    obtain ⟨front, joined⟩ := further
    have parts : front ++ e :: back = body := by
      rw [← List.cons_append, ← List.append_assoc] at joined
      exact List.append_cancel_right joined
    have suffix : back <:+ body := by
      rw [← parts]
      exact (List.suffix_cons e back).trans (List.suffix_append _ _)
    obtain ⟨-, rfl⟩ := whole back suffix failed
    have lengths := congrArg List.length parts
    rw [List.length_append, List.length_cons] at lengths
    omega

/-- A line end that does not stand in front stands behind. -/
private theorem suffix_of_lineEnd {front : List Char} (solid : ∀ c ∈ front, isLineEnd c = false)
    (ends : isLineEnd d = true) (within : d :: behind <:+ front ++ rest) : d :: behind <:+ rest := by
  induction front with
  | nil => exact within
  | cons c front ih =>
    obtain same | within := List.suffix_cons_iff.mp within
    · obtain ⟨rfl, -⟩ := List.cons.inj same
      rw [solid _ (List.mem_cons_self ..)] at ends
      contradiction
    · exact ih (fun c member => solid c (List.mem_cons_of_mem _ member)) within

namespace ResumableGap

theorem exists_gap (isGap : ResumableGap fails shown text rest) :
    ∃ gap, text = gap ++ rest ∧ Gap gap rest := by
  induction isGap with
  | nil rest => exact ⟨[], rfl, .nil rest⟩
  | @blank c _ _ blank _ ih =>
    obtain ⟨gap, rfl, isGap⟩ := ih
    exact ⟨c :: gap, rfl, .blank blank isGap⟩
  | @lineEnd c _ _ ends _ _ ih =>
    obtain ⟨gap, rfl, isGap⟩ := ih
    exact ⟨c :: gap, rfl, .lineEnd ends isGap⟩
  | @comment body _ rest inside ended _ _ ih =>
    obtain ⟨gap, rfl, isGap⟩ := ih
    refine ⟨'#' :: (body ++ gap), ?_, .comment inside ended isGap⟩
    rw [List.cons_append, List.append_assoc]

/-- Behind a line end no read fails if none does further on. -/
theorem not_fails (isGap : ResumableGap fails shown text rest) (ends : isLineEnd d = true)
    (further : ∀ {behind}, d :: behind <:+ rest → ¬ fails behind)
    (within : d :: behind <:+ text) : ¬ fails behind := by
  induction isGap with
  | nil rest => exact further within
  | blank blank _ ih =>
    obtain same | within := List.suffix_cons_iff.mp within
    · obtain ⟨rfl, -⟩ := List.cons.inj same
      rw [not_isBlank_of_isLineEnd ends] at blank
      contradiction
    · exact ih further within
  | lineEnd _ sound _ ih =>
    obtain same | within := List.suffix_cons_iff.mp within
    · obtain ⟨-, rfl⟩ := List.cons.inj same
      exact sound
    · exact ih further within
  | @comment body _ _ inside _ _ _ ih =>
    have solid : ∀ c ∈ '#' :: body, isLineEnd c = false := List.forall_mem_cons.mpr ⟨rfl, inside⟩
    exact ih further (suffix_of_lineEnd solid ends within)

/-- Where a read fails in the gap the gap can be gone on with from the character under the cursor.
Before a token was shown that is a blank, and the gap can also be gone on with behind it. -/
theorem place (isGap : ResumableGap fails shown text rest) (failed : fails behind)
    (within : c :: behind <:+ text) :
    (ResumableGap fails shown (c :: behind) rest ∧
        (shown = false → isBlank c = true ∧ ResumableGap fails shown behind rest)) ∨
      c :: behind <:+ rest := by
  induction isGap with
  | nil rest => exact .inr within
  | blank blank tail ih =>
    obtain same | within := List.suffix_cons_iff.mp within
    · obtain ⟨rfl, rfl⟩ := List.cons.inj same
      exact .inl ⟨.blank blank tail, fun _ => ⟨blank, tail⟩⟩
    · exact ih within
  | lineEnd ends sound tail ih =>
    obtain same | within := List.suffix_cons_iff.mp within
    · obtain ⟨-, rfl⟩ := List.cons.inj same
      exact absurd failed sound
    · exact ih within
  | comment inside ended whole tail ih =>
    obtain ⟨started, same⟩ | within := whole.place failed within
    · rw [same]
      exact .inl ⟨.comment inside ended whole tail, fun fresh => by simp [fresh] at started⟩
    · exact ih within

/-- Where a read fails in front of a place where a token starts, the gap can be gone on with to this
place. -/
theorem startsOver (isGap : ResumableGap fails shown text rest) (failed : fails behind)
    (within : c :: behind <:+ text)
    (further : c :: behind <:+ rest → shown = true ∧ c :: behind = rest) :
    ResumableGap fails shown (c :: behind) rest ∧
      (shown = false → isBlank c = true ∧ ResumableGap fails shown behind rest) := by
  obtain goesOn | past := isGap.place failed within
  · exact goesOn
  · obtain ⟨started, same⟩ := further past
    rw [same]
    exact ⟨.nil rest, fun fresh => by simp [fresh] at started⟩

end ResumableGap

/-- Behind a line end no read fails. -/
theorem Resumable.not_fails (resumable : Resumable fails shown text) (ends : isLineEnd d = true)
    (within : d :: behind <:+ text) : ¬ fails behind := by
  induction resumable generalizing behind with
  | finish isGap => exact isGap.not_fails ends (fun within => by simp at within) within
  | token isGap spells _ _ ih =>
    refine isGap.not_fails ends (fun within => ih ?_) within
    exact suffix_of_lineEnd (not_isLineEnd_of_spells spells) ends within

/-- The text has these tokens, as far as kinds and texts go, and another gap may stand in front. -/
def Tokens.Follow (tokens : Tokens) (text : List Char) : Prop :=
  ∃ position gap front rest, text = front ++ rest ∧ Gap front rest ∧ Gap gap rest ∧ Solid rest ∧
    Lexed position (gap ++ rest) tokens

namespace Tokens.Follow

variable {tokens : Tokens} {gap : List Char}

theorem of_lexed {position : Position} (lexed : Lexed position text tokens) :
    tokens.Follow text := by
  cases lexed with
  | finish isGap =>
    have whole := (List.append_nil text).symm
    refine ⟨position, text, text, [], whole, isGap, isGap, nofun, ?_⟩
    rw [← whole]
    exact .finish isGap
  | token isGap spells tail =>
    exact ⟨position, _, _, _, rfl, isGap, isGap, solid_of_spells spells, .token isGap spells tail⟩

/-- The tokens are those of the text behind the gap. -/
theorem exists_lexed (follow : tokens.Follow (gap ++ rest)) (isGap : Gap gap rest)
    (solid : Solid rest) :
    ∃ position other, Gap other rest ∧ Lexed position (other ++ rest) tokens := by
  obtain ⟨position, other, front, rest', same, isFront, isOther, solid', lexed⟩ := follow
  obtain ⟨rfl, rfl⟩ := isGap.unique isFront solid solid' same
  exact ⟨position, other, isOther, lexed⟩

/-- Where a gap is gone on with the tokens behind it still follow. -/
theorem resume {later : List Char} (follow : tokens.Follow text)
    (resumable : ResumableGap fails shown text rest) (goesOn : ResumableGap fails shown later rest)
    (solid : Solid rest) : tokens.Follow later := by
  obtain ⟨gap, rfl, isGap⟩ := resumable.exists_gap
  obtain ⟨front, rfl, isFront⟩ := goesOn.exists_gap
  obtain ⟨position, other, isOther, lexed⟩ := follow.exists_lexed isGap solid
  exact ⟨position, other, front, rest, rfl, isFront, isOther, solid, lexed⟩

theorem front_of_gap (follow : tokens.Follow text) (isGap : Gap text []) : tokens.front = [] := by
  rw [← List.append_nil text] at follow
  obtain ⟨position, other, isOther, lexed⟩ := follow.exists_lexed isGap nofun
  rw [List.append_nil] at lexed
  rw [lexed.of_gap isOther]

/-- A lexeme behind a gap is the first of the tokens. -/
theorem first_of_spells {kind : Token.Kind} (follow : tokens.Follow (gap ++ (text ++ behind)))
    (isGap : Gap gap (text ++ behind)) (spells : kind.Spells text behind) :
    tokens.first.word = (kind, String.ofList text) ∧ tokens.rest.Follow behind := by
  obtain ⟨position, other, isOther, lexed⟩ := follow.exists_lexed isGap (solid_of_spells spells)
  obtain ⟨head, tail⟩ := lexed.of_token isOther spells
  rw [Tokens.first, List.headD_eq_head?_getD, head, Option.getD_some]
  exact ⟨rfl, of_lexed tail⟩

end Tokens.Follow

/-- The tokens follow in the text, and each of them can be started over where a read fails. -/
structure Tokens.Recoverable (fails : List Char → Prop) (shown : Bool) (tokens : Tokens)
    (text : List Char) : Prop where
  resumable : Resumable fails shown text
  follow : tokens.Follow text

end GrammarCheck
