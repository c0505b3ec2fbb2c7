import GrammarCheck.Lexer.Lexeme
import GrammarCheck.Proofs.Lexing.LexicalGrammar

/-! # The first lexeme of a text

The first character of a lexeme decides its class, and its class where it ends. So the lexical
grammar allows one lexeme at a solid place and none elsewhere.
-/

namespace GrammarCheck

open Chars

/-- Words start in ASCII. -/
private theorem toNat_le_of_isWordStart {c : Char} (start : isWordStart c = true) :
    c.val.toNat ≤ 122 := by
  obtain letter | underscore := (Bool.or_eq_true _ _).mp start
  · obtain upper | lower := (Bool.or_eq_true _ _).mp letter
    · have bound : c.val ≤ 90 := (of_decide_eq_true upper).2
      exact Nat.le_trans (UInt32.le_iff_toNat_le.mp bound) (by decide)
    · have bound : c.val ≤ 122 := of_decide_eq_true ((Bool.and_eq_true _ _).mp lower).2
      exact UInt32.le_iff_toNat_le.mp bound
  · obtain rfl := of_decide_eq_true underscore
    decide

theorem isSolid_of_isWordStart {c : Char} (start : isWordStart c = true) : isSolid c = true := by
  by_contra notSolid
  have broken : isLineEnd c = true ∨ isBlank c = true ∨ isCommentStart c = true := by
    simpa only [isSolid, Bool.not_eq_true', Bool.not_eq_false, Bool.or_eq_true, or_assoc]
      using notSolid
  rcases broken with ends | blank | comment
  · simp only [isLineEnd, Bool.or_eq_true, decide_eq_true_eq, or_assoc] at ends
    rcases ends with rfl | rfl | rfl | rfl | rfl | rfl | rfl <;> exact absurd start (by decide)
  · simp only [isBlank, Bool.or_eq_true, Bool.and_eq_true, decide_eq_true_eq, or_assoc] at blank
    rcases blank with rfl | rfl | rfl | rfl | ⟨low, _⟩ | rfl | rfl | rfl
    case inr.inr.inr.inr.inl =>
      have high := toNat_le_of_isWordStart start
      rw [Char.le_def, UInt32.le_iff_toNat_le] at low
      have bound : 8192 ≤ c.val.toNat := low
      omega
    all_goals exact absurd start (by decide)
  · simp only [isCommentStart, decide_eq_true_eq] at comment
    subst comment
    exact absurd start (by decide)

theorem isSolid_of_isQuote {c : Char} (quote : isQuote c = true) : isSolid c = true := by
  simp only [isQuote, Bool.or_eq_true, decide_eq_true_eq] at quote
  rcases quote with rfl | rfl <;> decide

theorem not_isLineEnd_of_isSolid {c : Char} (solid : isSolid c = true) : isLineEnd c = false := by
  cases ends : isLineEnd c with
  | false => rfl
  | true => simp [isSolid, ends] at solid

theorem not_isLineEnd_of_isWordRest {c : Char} (rest : isWordRest c = true) :
    isLineEnd c = false := by
  rcases (Bool.or_eq_true _ _).mp rest with start | digit
  · exact not_isLineEnd_of_isSolid (isSolid_of_isWordStart start)
  · cases ends : isLineEnd c with
    | false => rfl
    | true =>
      simp only [isLineEnd, Bool.or_eq_true, decide_eq_true_eq, or_assoc] at ends
      rcases ends with rfl | rfl | rfl | rfl | rfl | rfl | rfl <;> exact absurd digit (by decide)

private theorem not_isWordStart_of_isQuote {c : Char} (quote : isQuote c = true) :
    isWordStart c = false := by
  simp only [isQuote, Bool.or_eq_true, decide_eq_true_eq] at quote
  rcases quote with rfl | rfl <;> decide

/-- A character that spells punctuation is solid, and of no other class. -/
theorem classes_of_spelling {kind : Token.Kind} {c : Char} (spelled : kind.spelling? = some c) :
    isSolid c = true ∧ isWordStart c = false ∧ isQuote c = false := by
  rcases kind with _ | _ | _ | _ | _ | _ | ⟨_ | _ | _⟩ | ⟨_ | _ | _⟩ | _ | _ <;>
    simp only [Token.Kind.spelling?, Bracket.openChar, Bracket.closeChar, Option.some.injEq,
      reduceCtorEq] at spelled <;>
    subst spelled <;> decide

private theorem spells_of_spelling {kind : Token.Kind} {c : Char}
    (spelled : kind.spelling? = some c)
    (rest : List Char) : kind.Spells [c] rest := by
  cases kind <;> first | cases spelled; done | exact ⟨c, rfl, spelled⟩

theorem spelling_of_spells {kind : Token.Kind} {c : Char} {text rest : List Char}
    (spelled : kind.spelling? = some c) (spells : kind.Spells text rest) : text = [c] := by
  cases kind <;> first
    | cases spelled; done
    | obtain ⟨d, rfl, other⟩ := spells
      rw [Option.some.inj (spelled.symm.trans other)]

/-- The lexeme that starts with `c` where `rest` stands behind `c`. -/
def firstLexeme (c : Char) (rest : List Char) : Token.Kind × List Char :=
  if isWordStart c then (.identifier, c :: rest.takeWhile isWordRest)
  else if isQuote c then
    let body := rest.takeWhile fun d => Cursor.withinLiteral c d (isLineEnd d)
    if (rest.dropWhile fun d => Cursor.withinLiteral c d (isLineEnd d)).head? = some c then
      (.literal, c :: (body ++ [c]))
    else (.unterminatedLiteral, c :: body)
  else ((Token.Kind.ofChar? c).getD .unknown, [c])

theorem withinLiteral_iff {quote c : Char} :
    Cursor.withinLiteral quote c (isLineEnd c) = true ↔ c ≠ quote ∧ isLineEnd c = false := by
  simp [Cursor.withinLiteral]

private theorem not_withinLiteral_quote (quote : Char) :
    Cursor.withinLiteral quote quote (isLineEnd quote) = false := by
  simp [Cursor.withinLiteral]

section Quoted

variable {quote : Char} {body behind : List Char} (isQuote : isQuote quote = true)
  (inside : ∀ d ∈ body, Cursor.withinLiteral quote d (isLineEnd d) = true)

include isQuote inside

/-- A quotation with its mark behind it is a literal. -/
theorem firstLexeme_closed :
    firstLexeme quote (body ++ quote :: behind) = (.literal, quote :: (body ++ [quote])) := by
  have stop : ∀ d ∈ (quote :: behind).head?,
      Cursor.withinLiteral quote d (isLineEnd d) = false := by
    rintro d ⟨⟩
    exact not_withinLiteral_quote quote
  rw [firstLexeme, if_neg (by simp [not_isWordStart_of_isQuote isQuote]), if_pos isQuote,
    takeWhile_append_of_stop inside stop, dropWhile_append_of_stop inside stop]
  simp

/-- A quotation with another end is an unterminated literal. -/
theorem firstLexeme_unclosed (unclosed : behind.head? ≠ some quote) (ended : EndsLine behind) :
    firstLexeme quote (body ++ behind) = (.unterminatedLiteral, quote :: body) := by
  have stop : ∀ d ∈ behind.head?, Cursor.withinLiteral quote d (isLineEnd d) = false := by
    intro d head
    simp [Cursor.withinLiteral, ended d head]
  rw [firstLexeme, if_neg (by simp [not_isWordStart_of_isQuote isQuote]), if_pos isQuote,
    takeWhile_append_of_stop inside stop, dropWhile_append_of_stop inside stop]
  simp [unclosed]

end Quoted

/-- Behind a quotation stands its mark, or the line ends. -/
theorem endsLine_of_not_withinLiteral {quote : Char} {rest : List Char}
    (unclosed : (rest.dropWhile fun d => Cursor.withinLiteral quote d (isLineEnd d)).head? ≠
      some quote) :
    EndsLine (rest.dropWhile fun d => Cursor.withinLiteral quote d (isLineEnd d)) := by
  intro d head
  have stopped := not_of_head?_dropWhile head
  have notQuote : d ≠ quote := by
    rintro rfl
    exact unclosed head
  simpa [Cursor.withinLiteral, notQuote] using stopped

/-- At a solid place the first lexeme fits. -/
theorem spells_firstLexeme {c : Char} (solid : isSolid c = true) (rest : List Char) :
    ∃ behind, c :: rest = (firstLexeme c rest).2 ++ behind ∧
      (firstLexeme c rest).1.Spells (firstLexeme c rest).2 behind := by
  unfold firstLexeme
  split
  · next start =>
    refine ⟨rest.dropWhile isWordRest, by simp, ⟨c, _, rfl, start, ?_⟩, ?_⟩
    · intro d member
      exact List.mem_takeWhile_imp member
    · exact fun d head => not_of_head?_dropWhile head
  split
  · next quote =>
    have split := (rest.takeWhile_append_dropWhile
      (p := fun d => Cursor.withinLiteral c d (isLineEnd d))).symm
    have inside : Quotation c (rest.takeWhile fun d => Cursor.withinLiteral c d (isLineEnd d)) :=
      ⟨quote, fun d member => withinLiteral_iff.mp (by simpa using List.mem_takeWhile_imp member)⟩
    dsimp only
    split
    · next closed =>
      obtain ⟨behind, closing⟩ := List.head?_eq_some_iff.mp closed
      refine ⟨behind, ?_, c, _, rfl, inside⟩
      rw [closing] at split
      simpa using split
    · next unclosed =>
      exact ⟨_, congrArg (c :: ·) split, ⟨c, _, rfl, inside⟩,
        endsLine_of_not_withinLiteral unclosed⟩
  · next notStart notQuote =>
    refine ⟨rest, rfl, ?_⟩
    cases read : Token.Kind.ofChar? c with
    | none => exact ⟨c, rfl, by simp [isStray, solid, notStart, notQuote, read]⟩
    | some kind => exact spells_of_spelling ((Token.Kind.ofChar?_eq_some_iff c kind).mp read) rest

/-- A lexeme starts with a solid character and is the first lexeme there. -/
theorem firstLexeme_of_spells {kind : Token.Kind} {text behind : List Char}
    (spells : kind.Spells text behind) :
    ∃ c body, text = c :: body ∧ isSolid c = true ∧
      firstLexeme c (body ++ behind) = (kind, text) := by
  by_cases punctuation : ∃ c, kind.spelling? = some c
  · obtain ⟨c, spelled⟩ := punctuation
    obtain rfl := spelling_of_spells spelled spells
    obtain ⟨solid, notStart, notQuote⟩ := classes_of_spelling spelled
    refine ⟨c, [], rfl, solid, ?_⟩
    simp [firstLexeme, notStart, notQuote, (Token.Kind.ofChar?_eq_some_iff c kind).mpr spelled]
  cases kind with
  | endOfInput => exact spells.elim
  | identifier =>
    obtain ⟨⟨c, body, rfl, start, inside⟩, stop⟩ := spells
    refine ⟨c, body, rfl, isSolid_of_isWordStart start, ?_⟩
    rw [firstLexeme, if_pos start, takeWhile_append_of_stop inside stop]
  | literal =>
    obtain ⟨quote, body, rfl, isQuote, inside⟩ := spells
    refine ⟨quote, body ++ [quote], rfl, isSolid_of_isQuote isQuote, ?_⟩
    rw [List.append_assoc, List.singleton_append]
    exact firstLexeme_closed isQuote fun d member => withinLiteral_iff.mpr (inside d member)
  | unterminatedLiteral =>
    obtain ⟨⟨quote, body, rfl, isQuote, inside⟩, ended⟩ := spells
    refine ⟨quote, body, rfl, isSolid_of_isQuote isQuote, ?_⟩
    have unclosed : behind.head? ≠ some quote := by
      intro head
      have solid := isSolid_of_isQuote isQuote
      rw [not_isSolid_of_isLineEnd (ended quote head)] at solid
      exact Bool.false_ne_true solid
    exact firstLexeme_unclosed isQuote (fun d member => withinLiteral_iff.mpr (inside d member))
      unclosed ended
  | unknown =>
    obtain ⟨c, rfl, stray⟩ := spells
    have parts : ((isSolid c = true ∧ isWordStart c = false) ∧ isQuote c = false) ∧
        Token.Kind.ofChar? c = none := by
      simpa [isStray] using stray
    obtain ⟨⟨⟨solid, notStart⟩, notQuote⟩, notSpelling⟩ := parts
    refine ⟨c, [], rfl, solid, ?_⟩
    simp [firstLexeme, notStart, notQuote, notSpelling]
  | period | bar | assign | opening _ | closing _ => exact absurd ⟨_, rfl⟩ punctuation

/-- At one place at most one lexeme fits. -/
theorem spells_unique {kind kind' : Token.Kind} {text text' behind behind' : List Char}
    (spells : kind.Spells text behind) (spells' : kind'.Spells text' behind')
    (same : text ++ behind = text' ++ behind') :
    kind = kind' ∧ text = text' ∧ behind = behind' := by
  obtain ⟨c, body, rfl, -, first⟩ := firstLexeme_of_spells spells
  obtain ⟨c', body', rfl, -, first'⟩ := firstLexeme_of_spells spells'
  obtain ⟨rfl, rest⟩ : c = c' ∧ body ++ behind = body' ++ behind' := List.cons.inj same
  rw [rest, first'] at first
  obtain ⟨rfl, texts⟩ := Prod.mk.inj first
  obtain rfl := List.tail_eq_of_cons_eq texts
  exact ⟨rfl, rfl, List.append_cancel_left rest⟩

/-- A lexeme starts at a solid place. -/
theorem solid_of_spells {kind : Token.Kind} {text behind : List Char}
    (spells : kind.Spells text behind) : Solid (text ++ behind) := by
  obtain ⟨c, body, rfl, solid, -⟩ := firstLexeme_of_spells spells
  rintro d ⟨⟩
  exact solid

/-- Where a gap goes on to the end of the text there is no lexeme. -/
theorem Gap.ne_of_spells {last gap text behind : List Char} {kind : Token.Kind}
    (isLast : Gap last []) (isGap : Gap gap (text ++ behind)) (spells : kind.Spells text behind) :
    last ≠ gap ++ (text ++ behind) := by
  intro same
  have nothing := (isLast.unique isGap nofun (solid_of_spells spells)
    ((List.append_nil last).trans same)).2
  obtain ⟨_, _, rfl, -⟩ := firstLexeme_of_spells spells
  contradiction

end GrammarCheck
