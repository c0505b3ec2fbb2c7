import GrammarCheck.Proofs.Lexing.Lexed
import Mathlib.Data.List.Forall2

/-! # Layout

Trivia are blanks, line ends and comments that end within them. A text in which each lexeme is
followed by a line end can be laid out with any trivia: it has the same lexemes.
-/

namespace GrammarCheck

open Chars

/-- Blanks, line ends, and comments with the line end behind them. -/
inductive Trivia : List Char → Prop
  | nil : Trivia []
  | blank {c : Char} {trivia : List Char} (blank : isBlank c = true) (tail : Trivia trivia) :
    Trivia (c :: trivia)
  | lineEnd {c : Char} {trivia : List Char} (ends : isLineEnd c = true) (tail : Trivia trivia) :
    Trivia (c :: trivia)
  | comment {c : Char} {body trivia : List Char} (inside : ∀ d ∈ body, isLineEnd d = false)
    (ends : isLineEnd c = true) (tail : Trivia trivia) : Trivia ('#' :: (body ++ c :: trivia))

/-- Trivia are a gap, whatever stands behind them. -/
theorem Trivia.gap {trivia : List Char} (isTrivia : Trivia trivia) (rest : List Char) :
    Gap trivia rest := by
  induction isTrivia with
  | nil => exact .nil rest
  | blank blank _ ih => exact .blank blank ih
  | lineEnd ends _ ih => exact .lineEnd ends ih
  | comment inside ends _ ih =>
    refine .comment inside ?_ (.lineEnd ends ih)
    rintro d ⟨⟩
    exact ends

/-- Trivia that open with a line end, so that every lexeme can stand in front of them. -/
structure Separator (trivia : List Char) : Prop where
  isTrivia : Trivia trivia
  opens : trivia.head?.any isLineEnd = true

theorem Separator.isLineEnd_head {trivia : List Char} (separator : Separator trivia)
    (rest : List Char) : EndsLine (trivia ++ rest) := by
  intro c head
  have opens := separator.opens
  cases trivia with
  | nil => contradiction
  | cons d trivia =>
    obtain rfl := Option.some.inj head
    exact opens

/-- A lexeme is still one if a line end takes the place of what stands behind it. -/
theorem Token.Kind.Spells.of_lineEnd {kind : Token.Kind} {text rest behind : List Char}
    (spells : kind.Spells text rest)
    (ahead : ∀ c ∈ behind.head?, c ∈ rest.head? ∨ isLineEnd c = true) :
    kind.Spells text behind := by
  cases kind with
  | identifier =>
    refine ⟨spells.1, fun c head => ?_⟩
    obtain same | ends := ahead c head
    · exact spells.2 c same
    · cases inside : isWordRest c with
      | false => rfl
      | true =>
        rw [not_isLineEnd_of_isWordRest inside] at ends
        contradiction
  | unterminatedLiteral =>
    refine ⟨spells.1, fun c head => ?_⟩
    obtain same | ends := ahead c head
    · exact spells.2 c same
    · exact ends
  | endOfInput | literal | unknown | period | bar | assign | opening | closing => exact spells

/-- The texts of tokens, each with its trivia behind it. -/
def layOut (pieces : List (Token × List Char)) : List Char :=
  pieces.flatMap fun piece => piece.1.text.toList ++ piece.2

@[simp] theorem layOut_cons (token : Token) (trivia : List Char)
    (pieces : List (Token × List Char)) :
    layOut ((token, trivia) :: pieces) = token.text.toList ++ (trivia ++ layOut pieces) := by
  rw [layOut, List.flatMap_cons, List.append_assoc]
  rfl

/-- A text laid out from the tokens of another has tokens of the same kinds with the same texts. -/
theorem Lexed.exists_layOut {position place : Position} {text lead : List Char} {tokens : Tokens}
    (lexed : Lexed position text tokens) (leading : Trivia lead) {pieces : List (Token × List Char)}
    (written : pieces.map Prod.fst = tokens.front)
    (separated : ∀ piece ∈ pieces, Separator piece.2) :
    ∃ tokens', Lexed place (lead ++ layOut pieces) tokens' ∧
      List.Forall₂ (fun token token' => token.kind = token'.kind ∧ token.text = token'.text)
        tokens.front tokens'.front := by
  induction lexed generalizing place lead pieces with
  | finish _ =>
    obtain rfl := List.map_eq_nil_iff.mp written
    refine ⟨_, .finish ?_, .nil⟩
    rw [layOut, List.flatMap_nil, List.append_nil]
    exact leading.gap []
  | token _ spells _ ih =>
    obtain ⟨⟨token, trivia⟩, pieces, rfl, rfl, others⟩ := List.map_eq_cons_iff.mp written
    obtain ⟨separator, separated⟩ := List.forall_mem_cons.mp separated
    obtain ⟨tokens', tail, same⟩ := ih separator.isTrivia others separated
    rw [layOut_cons, String.toList_ofList]
    refine ⟨_, .token (leading.gap _) (spells.of_lineEnd fun c head => .inr ?_) tail,
      .cons ⟨rfl, rfl⟩ same⟩
    exact separator.isLineEnd_head _ c head

end GrammarCheck
