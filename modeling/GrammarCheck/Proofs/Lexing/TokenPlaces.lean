import GrammarCheck.Proofs.Lexing.Listing

/-! # Tokens stand where they say

The position of a token is the line and the column at which the logical lines of the text hold the
text of the token. The end stands behind the last line.
-/

namespace GrammarCheck

open Chars

private theorem splitOnP_append_of_solid {front : List Char}
    (solid : ∀ c ∈ front, isLineEnd c = false)
    (back : List Char) :
    (front ++ back).splitOnP isLineEnd = (back.splitOnP isLineEnd).modifyHead (front ++ ·) := by
  induction front with
  | nil =>
    rw [List.nil_append]
    cases split : back.splitOnP isLineEnd <;> rfl
  | cons c front ih =>
    have inner := ih fun d member => solid d (List.mem_cons_of_mem _ member)
    have here := solid c (List.mem_cons_self ..)
    rw [List.cons_append, List.splitOnP_cons_eq_if_modifyHead, here, inner]
    cases back.splitOnP isLineEnd <;> rfl

/-- Among the lines the position is the place where `ahead` starts and goes on to the end. -/
structure Position.Marks (position : Position) (lines : List (List Char)) (ahead : List Char) :
    Prop where
  line_pos : 0 < position.line
  column_pos : 0 < position.column
  split : ∃ line later, lines.drop (position.line - 1) = line :: later ∧
    position.column - 1 ≤ line.length ∧
    ahead.splitOnP isLineEnd = line.drop (position.column - 1) :: later

namespace Position.Marks

variable {position : Position} {lines : List (List Char)}

theorem start (source : String) (text : List Char) :
    Marks ⟨source, 1, 1⟩ (text.splitOnP isLineEnd) text := by
  obtain ⟨line, later, same⟩ := List.exists_cons_of_ne_nil (List.splitOnP_ne_nil isLineEnd text)
  exact ⟨Nat.one_pos, Nat.one_pos, line, later, same, Nat.zero_le _, same⟩

/-- Behind a character the next place is marked. -/
theorem past {c : Char} {ahead : List Char} (marks : position.Marks lines (c :: ahead)) :
    (position.past c).Marks lines ahead := by
  obtain ⟨linePos, columnPos, line, later, here, bound, same⟩ := marks
  rw [List.splitOnP_cons_eq_if_modifyHead] at same
  unfold Position.past
  cases ends : isLineEnd c with
  | true =>
    -- The rest of this line is empty, and the next line is the first of what follows.
    rw [ends, if_pos rfl] at same
    obtain ⟨-, following⟩ := List.cons.inj same
    obtain ⟨next, rest, opened⟩ :=
      List.exists_cons_of_ne_nil (List.splitOnP_ne_nil isLineEnd ahead)
    refine ⟨Nat.succ_pos _, Nat.one_pos, next, rest, ?_, Nat.zero_le _, opened⟩
    have later_eq : lines.drop (position.line - 1 + 1) = later := by
      rw [← List.drop_drop, here]
      rfl
    rw [← opened, following, ← later_eq]
    congr 1
    simp only [↓reduceIte]
    omega
  | false =>
    rw [ends, if_neg (by simp)] at same
    obtain ⟨next, rest, opened⟩ :=
      List.exists_cons_of_ne_nil (List.splitOnP_ne_nil isLineEnd ahead)
    rw [opened, List.modifyHead_cons] at same
    obtain ⟨tail, rfl⟩ := List.cons.inj same
    have inside : position.column - 1 < line.length := by
      apply Nat.lt_of_not_le
      intro past
      rw [List.drop_of_length_le past] at tail
      contradiction
    refine ⟨linePos, Nat.succ_pos _, line, rest, here, ?_, ?_⟩
    · simp only [Bool.false_eq_true, ↓reduceIte]
      omega
    · rw [opened]
      congr 1
      have next_eq := congrArg List.tail tail
      rw [List.tail_cons, List.tail_drop] at next_eq
      rw [next_eq]
      congr 1
      simp only [Bool.false_eq_true, ↓reduceIte]
      omega

private theorem foldl_past {before ahead : List Char}
    (marks : position.Marks lines (before ++ ahead)) :
    (before.foldl Position.past position).Marks lines ahead := by
  induction before generalizing position with
  | nil => exact marks
  | cons c before ih => exact ih marks.past

/-- What stands at a marked place within its line is a slice of that line. -/
theorem slice {front back : List Char} (marks : position.Marks lines (front ++ back))
    (solid : ∀ c ∈ front, isLineEnd c = false) :
    ∃ line, lines[position.line - 1]? = some line ∧
      (line.drop (position.column - 1)).take front.length = front := by
  obtain ⟨-, -, line, later, here, -, same⟩ := marks
  refine ⟨line, ?_, ?_⟩
  · rw [← List.head?_drop, here]
    rfl
  · rw [splitOnP_append_of_solid solid] at same
    obtain ⟨next, rest, opened⟩ :=
      List.exists_cons_of_ne_nil (List.splitOnP_ne_nil isLineEnd back)
    rw [opened, List.modifyHead_cons] at same
    rw [← (List.cons.inj same).1, List.take_left]

/-- The place behind all lines. -/
theorem at_end (marks : position.Marks lines []) :
    ∃ front last, lines = front ++ [last] ∧ position.line = front.length + 1 ∧
      position.column = last.length + 1 := by
  obtain ⟨linePos, columnPos, line, later, here, bound, same⟩ := marks
  obtain ⟨tail, rfl⟩ := List.cons.inj same
  have covered := List.drop_eq_nil_iff.mp tail.symm
  have lengths := congrArg List.length here
  rw [List.length_drop, List.length_singleton] at lengths
  refine ⟨lines.take (position.line - 1), line, ?_, ?_, by omega⟩
  · rw [← here, List.take_append_drop]
  · rw [List.length_take]
    omega

end Position.Marks

/-- A lexeme lies within one line. -/
theorem not_isLineEnd_of_spells {kind : Token.Kind} {text behind : List Char}
    (spells : kind.Spells text behind) : ∀ c ∈ text, isLineEnd c = false := by
  by_cases punctuation : ∃ c, kind.spelling? = some c
  · obtain ⟨c, spelled⟩ := punctuation
    obtain rfl := spelling_of_spells spelled spells
    simpa using not_isLineEnd_of_isSolid (classes_of_spelling spelled).1
  cases kind with
  | endOfInput => exact spells.elim
  | identifier =>
    obtain ⟨⟨c, body, rfl, start, inside⟩, -⟩ := spells
    exact List.forall_mem_cons.mpr ⟨not_isLineEnd_of_isSolid (isSolid_of_isWordStart start),
      fun d member => not_isLineEnd_of_isWordRest (inside d member)⟩
  | literal =>
    obtain ⟨quote, body, rfl, isQuote, inside⟩ := spells
    have solid := not_isLineEnd_of_isSolid (isSolid_of_isQuote isQuote)
    simp only [List.mem_cons, List.mem_append, List.not_mem_nil, or_false]
    rintro d (rfl | member | rfl)
    · exact solid
    · exact (inside d member).2
    · exact solid
  | unterminatedLiteral =>
    obtain ⟨⟨quote, body, rfl, isQuote, inside⟩, -⟩ := spells
    exact List.forall_mem_cons.mpr ⟨not_isLineEnd_of_isSolid (isSolid_of_isQuote isQuote),
      fun d member => (inside d member).2⟩
  | unknown =>
    obtain ⟨c, rfl, stray⟩ := spells
    have solid : isSolid c = true := by
      simp only [isStray, Bool.and_eq_true] at stray
      exact stray.1.1.1
    simpa using not_isLineEnd_of_isSolid solid
  | period | bar | assign | opening _ | closing _ => exact absurd ⟨_, rfl⟩ punctuation

/-- The token has a line and a column, and there the lines hold its text. -/
def Token.StandsIn (token : Token) (lines : List (List Char)) : Prop :=
  0 < token.position.line ∧ 0 < token.position.column ∧
    ∃ line, lines[token.position.line - 1]? = some line ∧
      (line.drop (token.position.column - 1)).take token.text.length = token.text.toList

namespace Lexed

variable {position : Position} {text : List Char} {tokens : Tokens}

/-- From a marked place on, every token and the end stand where they say. -/
theorem standsIn {lines : List (List Char)} (lexed : Lexed position text tokens)
    (marks : position.Marks lines (logical text)) :
    (∀ token ∈ tokens.front, token.StandsIn lines ∧
      ∀ c ∈ token.text.toList, isLineEnd c = false) ∧ tokens.finish.Marks lines [] := by
  induction lexed with
  | @finish position gap isGap =>
    refine ⟨by simp, ?_⟩
    exact Position.Marks.foldl_past (by rwa [List.append_nil])
  | @token position finish gap lexeme behind kind front isGap spells tail ih =>
    have solid := not_isLineEnd_of_spells spells
    have apart : (lexeme ++ behind).head? ≠ some '\n' := by
      intro feed
      exact absurd (solid_of_spells spells _ feed) (by decide)
    rw [logical_append apart, logical_append_of_solid solid] at marks
    have here : (position.after gap).Marks lines _ := marks.foldl_past
    have further := here.foldl_past
    rw [Position.foldl_past_of_solid _ solid] at further
    obtain ⟨line, inLines, slice⟩ := here.slice solid
    obtain ⟨others, last⟩ := ih further
    refine ⟨List.forall_mem_cons.mpr ⟨⟨?_, by simpa using solid⟩, others⟩, last⟩
    exact ⟨here.line_pos, here.column_pos, line, inLines, by simpa using slice⟩

end Lexed

/-- Every listed token but the end stands in the logical lines where it says, and no line end is in
it. The end stands behind the last of the lines. -/
theorem listing_stands_in_logicalLines (text name : String) :
    ∃ (tokens : List Token) (finish : Position),
      (Lexer.start (Text.ofString text) name 0 0).toList.1 =
        (tokens ++ [Token.atEnd finish]).map .ok ∧
      (∀ token ∈ tokens, token.StandsIn (logicalLines text.toList) ∧
        ∀ c ∈ token.text.toList, isLineEnd c = false) ∧
      ∃ front last, logicalLines text.toList = front ++ [last] ∧
        finish.line = front.length + 1 ∧ finish.column = last.length + 1 := by
  obtain ⟨tokens, lexed, unread⟩ :=
    Lexer.exists_unread_start (Text.serves_ofString text) name 0 0
  obtain ⟨stand, last⟩ := lexed.standsIn (Position.Marks.start name (logical text.toList))
  have listed := Lexer.toList_of_offers (.inl unread) rfl
  exact ⟨tokens.front, tokens.finish, listed, stand, last.at_end⟩

end GrammarCheck
