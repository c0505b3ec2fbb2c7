import GrammarCheck.Proofs.Lexing.Layout
import GrammarCheck.Proofs.Lexing.TokenPlaces

/-! # Texts joined at a line feed

Behind a line feed a text starts anew: its tokens are those that it has by itself, counted on from
the lines in front of it.
-/

namespace GrammarCheck

open Chars

namespace Chars

/-- A line feed ends a logical line, by itself or with the carriage return in front of it, and what
stands behind it has the logical characters that it has alone. -/
theorem exists_logical_append_feed (front : List Char) : ∃ others c, isLineEnd c = true ∧
    ∀ back, logical (front ++ '\n' :: back) = others ++ c :: logical back := by
  fun_induction logical front with
  | case1 => exact ⟨[], '\n', rfl, fun back => logical_cons (by simp)⟩
  | case2 rest ih =>
    obtain ⟨others, c, ends, split⟩ := ih
    exact ⟨'\r' :: others, c, ends, fun back => congrArg ('\r' :: ·) (split back)⟩
  | case3 d rest single ih =>
    by_cases pair : d = '\r' ∧ rest = []
    · obtain ⟨rfl, rfl⟩ := pair
      exact ⟨[], '\r', rfl, fun back => rfl⟩
    · obtain ⟨others, c, ends, split⟩ := ih
      refine ⟨d :: others, c, ends, fun back => ?_⟩
      rw [List.cons_append, logical_cons, split, List.cons_append]
      rintro rfl
      cases rest with
      | nil => exact absurd ⟨rfl, rfl⟩ pair
      | cons e rest =>
        rw [List.cons_append, List.head?_cons]
        rintro ⟨⟩
        exact single _ rfl rfl

end Chars

namespace Position

private theorem after_append_feed (position : Position) (front back : List Char) :
    position.after (front ++ '\n' :: back) = (position.after (front ++ ['\n'])).after back := by
  obtain ⟨others, c, -, split⟩ := exists_logical_append_feed front
  rw [after, after, after, split, split, List.foldl_append, List.foldl_append]
  rfl

/-- Behind a line feed a line starts, and every line end in front of it counts. -/
theorem after_feed (position : Position) (front : List Char) : position.after (front ++ ['\n']) =
    ⟨position.source, position.line + (logical (front ++ ['\n'])).countP isLineEnd, 1⟩ := by
  obtain ⟨others, c, ends, split⟩ := exists_logical_append_feed front
  have source := position.source_after (front ++ ['\n'])
  have line := position.line_foldl_past (logical (front ++ ['\n']))
  rw [← line, ← source, after]
  have column : ((logical (front ++ ['\n'])).foldl past position).column = 1 := by
    rw [split, List.foldl_append, List.foldl_cons, past, if_pos ends]
    rfl
  rw [← column]

/-- A gap and a lexeme are counted one after the other. -/
theorem after_gap_lexeme (position : Position) {lexeme rest : List Char}
    (apart : (lexeme ++ rest).head? ≠ some '\n') (solid : ∀ c ∈ lexeme, isLineEnd c = false)
    (gap : List Char) : position.after (gap ++ (lexeme ++ rest)) =
      ((position.after gap).right lexeme.length).after rest := by
  rw [after, logical_append apart, List.foldl_append]
  exact after_append_of_solid _ solid rest

end Position

/-- Whether a gap fits is decided by the character behind it. -/
private theorem Gap.of_head? {gap rest rest' : List Char} (isGap : Gap gap rest)
    (same : rest.head? = rest'.head?) : Gap gap rest' := by
  induction isGap with
  | nil rest => exact .nil rest'
  | blank blank _ ih => exact .blank blank (ih same)
  | lineEnd ends _ ih => exact .lineEnd ends (ih same)
  | comment inside ended _ ih =>
    refine .comment inside (fun c head => ended c ?_) (ih same)
    rwa [List.head?_append, same, ← List.head?_append]

/-- A gap up to the end of a text is one up to a line feed there, and may go on behind it. -/
theorem Gap.append_feed {gap more rest : List Char} (isGap : Gap gap []) (isGap' : Gap more rest) :
    Gap (gap ++ '\n' :: more) rest := by
  generalize nothing : ([] : List Char) = rest' at isGap
  induction isGap with
  | nil _ => exact .lineEnd rfl isGap'
  | blank blank _ ih => exact .blank blank (ih nothing)
  | lineEnd ends _ ih => exact .lineEnd ends (ih nothing)
  | @comment body gap rest' inside ended _ ih =>
    subst nothing
    rw [List.cons_append, List.append_assoc]
    refine .comment inside (fun c head => ?_) (ih rfl)
    rw [List.append_nil] at ended
    cases gap with
    | nil =>
      obtain rfl := Option.some.inj head
      rfl
    | cons d gap => exact ended c head

namespace Lexed

variable {position : Position} {text text' : List Char} {tokens tokens' : Tokens}

/-- A text that a line feed opens has the tokens that it has alone, in lines further on. -/
theorem append_feed (lexed : Lexed position text tokens)
    (lexed' : Lexed (position.after (text ++ ['\n'])) text' tokens') :
    Lexed position (text ++ '\n' :: text') ⟨tokens.front ++ tokens'.front, tokens'.finish⟩ := by
  induction lexed with
  | @finish position gap isGap =>
    -- The gap at the end of the first text goes on into the second.
    cases lexed' with
    | @finish _ more isGap' =>
      rw [← Position.after_append_feed]
      exact .finish (isGap.append_feed isGap')
    | @token _ finish more lexeme behind kind front isGap' spells tail =>
      rw [← Position.after_append_feed] at tail ⊢
      rw [← List.cons_append, ← List.append_assoc]
      exact .token (isGap.append_feed isGap') spells tail
  | @token position finish gap lexeme behind kind front isGap spells tail ih =>
    have solid := not_isLineEnd_of_spells spells
    obtain ⟨c, body, rfl, -⟩ := firstLexeme_of_spells spells
    have apart (rest : List Char) : ((c :: body) ++ rest).head? ≠ some '\n' := by
      rintro ⟨⟩
      exact absurd (solid '\n' (List.mem_cons_self ..)) (by decide)
    rw [List.append_assoc, List.append_assoc, Position.after_gap_lexeme _ (apart _) solid] at lexed'
    rw [List.append_assoc, List.append_assoc]
    refine .token (isGap.of_head? rfl) (spells.of_lineEnd fun d head => ?_) (ih lexed')
    cases behind with
    | nil =>
      obtain rfl := Option.some.inj head
      exact .inr rfl
    | cons e behind => exact .inl head

end Lexed

end GrammarCheck
