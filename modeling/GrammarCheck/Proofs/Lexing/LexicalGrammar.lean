import GrammarCheck.Chars.Class
import GrammarCheck.Token.Kind
import Mathlib.Data.List.TakeWhile

/-! # The lexical grammar

A text is gaps and lexemes in turn. A gap is blanks, line ends and comments, and what a lexeme is
depends on its own characters and on the one behind it. At every place at most one gap and at most
one lexeme fit, so a text has one reading.
-/

namespace GrammarCheck

open Chars

/-- A line end stands here, or nothing does. -/
def EndsLine (text : List Char) : Prop :=
  ∀ c ∈ text.head?, isLineEnd c = true

/-- A run of blanks, line ends and comments in front of `rest`. A comment goes on to the end of its
line or of the text. -/
inductive Gap : List Char → List Char → Prop
  | nil (rest : List Char) : Gap [] rest
  | blank {c : Char} {gap rest : List Char} (blank : isBlank c = true) (tail : Gap gap rest) :
    Gap (c :: gap) rest
  | lineEnd {c : Char} {gap rest : List Char} (ends : isLineEnd c = true) (tail : Gap gap rest) :
    Gap (c :: gap) rest
  | comment {body gap rest : List Char} (inside : ∀ c ∈ body, isLineEnd c = false)
    (ended : EndsLine (gap ++ rest)) (tail : Gap gap rest) : Gap ('#' :: (body ++ gap)) rest

/-- The character starts no gap. -/
def isSolid (c : Char) : Bool :=
  !(isLineEnd c || isBlank c || isCommentStart c)

/-- No gap goes on here. -/
def Solid (text : List Char) : Prop :=
  ∀ c ∈ text.head?, isSolid c = true

/-- The character is of none of the lexical classes. -/
def isStray (c : Char) : Bool :=
  isSolid c && !isWordStart c && !isQuote c && (Token.Kind.ofChar? c).isNone

/-- A quotation mark and what stands behind it in its line, up to the next such mark. -/
def Quotation (quote : Char) (body : List Char) : Prop :=
  isQuote quote = true ∧ ∀ c ∈ body, c ≠ quote ∧ isLineEnd c = false

/-- The text is a lexeme of the kind where `rest` stands behind it. -/
def Token.Kind.Spells (kind : Token.Kind) (text rest : List Char) : Prop :=
  match kind with
  | .endOfInput => False
  | .identifier =>
    (∃ c body, text = c :: body ∧ isWordStart c = true ∧ ∀ d ∈ body, isWordRest d = true) ∧
      ∀ c ∈ rest.head?, isWordRest c = false
  | .literal => ∃ quote body, text = quote :: (body ++ [quote]) ∧ Quotation quote body
  | .unterminatedLiteral =>
    (∃ quote body, text = quote :: body ∧ Quotation quote body) ∧ EndsLine rest
  | .unknown => ∃ c, text = [c] ∧ isStray c = true
  | .period | .bar | .assign | .opening _ | .closing _ => ∃ c, text = [c] ∧ kind.spelling? = some c

section Boundary

variable {p : Char → Bool} {front back : List Char}

/-- A run of characters goes on to the first one that does not belong to it. -/
theorem takeWhile_append_of_stop (inside : ∀ c ∈ front, p c = true)
    (stop : ∀ c ∈ back.head?, p c = false) : (front ++ back).takeWhile p = front := by
  rw [List.takeWhile_append_of_pos inside]
  cases back with
  | nil => simp
  | cons c back => simp [stop c rfl]

theorem dropWhile_append_of_stop (inside : ∀ c ∈ front, p c = true)
    (stop : ∀ c ∈ back.head?, p c = false) : (front ++ back).dropWhile p = back := by
  rw [List.dropWhile_append_of_pos inside]
  cases back with
  | nil => rfl
  | cons c back => simp [stop c rfl]

theorem not_of_head?_dropWhile {text : List Char} {c : Char}
    (head : c ∈ (text.dropWhile p).head?) : p c = false := by
  have stopped := List.head?_dropWhile_not p text
  rw [Option.mem_def.mp head] at stopped
  simpa using stopped

end Boundary

private theorem not_isSolid_of_isBlank {c : Char} (blank : isBlank c = true) :
    isSolid c = false := by
  simp [isSolid, blank]

theorem not_isSolid_of_isLineEnd {c : Char} (ends : isLineEnd c = true) : isSolid c = false := by
  simp [isSolid, ends]

namespace Gap

/-- A gap that is not empty starts with a character that is not solid. -/
private theorem not_isSolid_head {c : Char} {gap rest : List Char} (isGap : Gap (c :: gap) rest) :
    isSolid c = false := by
  cases isGap with
  | blank blank _ => exact not_isSolid_of_isBlank blank
  | lineEnd ends _ => exact not_isSolid_of_isLineEnd ends
  | comment _ _ _ => rfl

/-- In front of a solid place nothing is a gap. -/
theorem eq_nil_of_solid {gap rest : List Char} (isGap : Gap gap rest)
    (solid : Solid (gap ++ rest)) : gap = [] := by
  cases gap with
  | nil => rfl
  | cons c gap =>
    have := solid c rfl
    rw [isGap.not_isSolid_head] at this
    contradiction

private theorem tail_of_not_comment {c : Char} {gap rest : List Char} (isGap : Gap (c :: gap) rest)
    (notComment : c ≠ '#') : Gap gap rest := by
  cases isGap with
  | blank _ tail => exact tail
  | lineEnd _ tail => exact tail
  | comment _ _ _ => exact absurd rfl notComment

private theorem comment_inv {gap rest : List Char} (isGap : Gap ('#' :: gap) rest) :
    ∃ body tail, gap = body ++ tail ∧ (∀ c ∈ body, isLineEnd c = false) ∧
      EndsLine (tail ++ rest) ∧ Gap tail rest := by
  cases isGap with
  | blank blank _ => exact absurd blank (by decide)
  | lineEnd ends _ => exact absurd ends (by decide)
  | comment inside ended tail => exact ⟨_, _, rfl, inside, ended, tail⟩

/-- In front of a solid place every character that is not solid belongs to the gap. -/
theorem exists_tail_of_not_isSolid {c : Char} {behind gap rest : List Char}
    (notSolid : isSolid c = false) (solid : Solid rest) (same : c :: behind = gap ++ rest) :
    ∃ tail, gap = c :: tail ∧ behind = tail ++ rest := by
  cases gap with
  | nil =>
    obtain rfl : c :: behind = rest := same
    rw [solid c rfl] at notSolid
    contradiction
  | cons d tail =>
    obtain ⟨rfl, behind_eq⟩ := List.cons.inj same
    exact ⟨tail, rfl, behind_eq⟩

/-- Two gaps at one place that both end at solid places are the same. -/
theorem unique {gap rest gap' rest' : List Char} (isGap : Gap gap rest) (isGap' : Gap gap' rest')
    (solid : Solid rest) (otherSolid : Solid rest') (same : gap ++ rest = gap' ++ rest') :
    gap = gap' ∧ rest = rest' := by
  induction isGap generalizing gap' with
  | nil rest =>
    rw [List.nil_append] at same
    obtain rfl := isGap'.eq_nil_of_solid (same ▸ solid)
    exact ⟨rfl, same⟩
  | blank blank _ ih =>
    obtain ⟨gap', rfl, behind⟩ :=
      exists_tail_of_not_isSolid (not_isSolid_of_isBlank blank) otherSolid same
    have tail' := isGap'.tail_of_not_comment (by rintro rfl; exact absurd blank (by decide))
    obtain ⟨rfl, rfl⟩ := ih tail' solid behind
    exact ⟨rfl, rfl⟩
  | lineEnd ends _ ih =>
    obtain ⟨gap', rfl, behind⟩ :=
      exists_tail_of_not_isSolid (not_isSolid_of_isLineEnd ends) otherSolid same
    have tail' := isGap'.tail_of_not_comment (by rintro rfl; exact absurd ends (by decide))
    obtain ⟨rfl, rfl⟩ := ih tail' solid behind
    exact ⟨rfl, rfl⟩
  | @comment body gap rest inside ended _ ih =>
    obtain ⟨gap', rfl, whole⟩ := exists_tail_of_not_isSolid rfl otherSolid same
    obtain ⟨body', gap', rfl, inside', ended', tail'⟩ := isGap'.comment_inv
    have behind : body ++ (gap ++ rest) = body' ++ (gap' ++ rest') := by
      rwa [← List.append_assoc, ← List.append_assoc]
    -- Both comments end at the first line end, so their bodies agree.
    have bodies := congrArg (List.takeWhile (!isLineEnd ·)) behind
    rw [takeWhile_append_of_stop (by simpa using inside) (by simpa [EndsLine] using ended),
      takeWhile_append_of_stop (by simpa using inside') (by simpa [EndsLine] using ended')]
      at bodies
    subst bodies
    obtain ⟨rfl, rfl⟩ := ih tail' solid (List.append_cancel_left behind)
    exact ⟨rfl, rfl⟩

end Gap

end GrammarCheck
