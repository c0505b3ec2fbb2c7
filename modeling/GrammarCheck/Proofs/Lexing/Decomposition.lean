import GrammarCheck.Proofs.Lexing.Listing

/-! # Lossless lexing

A text is cut into gaps and lexemes, with a gap in last place, in exactly one way. The listing of a
lexer is this cut: no character is lost, taken twice or shared, and each kind is the only one that
fits its lexeme.
-/

namespace GrammarCheck

/-- A lexeme with the gap in front of it. -/
structure Lexeme where
  gap : List Char
  kind : Token.Kind
  text : List Char
  deriving DecidableEq, Repr

namespace Lexeme

/-- The characters of lexemes with their gaps, and of the last gap. -/
def spell : List Lexeme → List Char → List Char
  | [], last => last
  | lexeme :: lexemes, last => lexeme.gap ++ (lexeme.text ++ spell lexemes last)

/-- Every gap and every lexeme fits where it stands. -/
def Fit : List Lexeme → List Char → Prop
  | [], last => Gap last []
  | lexeme :: lexemes, last =>
    Gap lexeme.gap (lexeme.text ++ spell lexemes last) ∧
      lexeme.kind.Spells lexeme.text (spell lexemes last) ∧ Fit lexemes last

variable {lexemes lexemes' : List Lexeme} {last last' : List Char}

/-- Equal texts are cut in equal ways. -/
theorem Fit.unique (fit : Fit lexemes last) (fit' : Fit lexemes' last')
    (same : spell lexemes last = spell lexemes' last') : lexemes = lexemes' ∧ last = last' := by
  -- Both cuts start with the one gap and the one lexeme that fit there, or with neither.
  induction lexemes generalizing lexemes' with
  | nil =>
    cases lexemes' with
    | nil => exact ⟨rfl, same⟩
    | cons lexeme' lexemes' =>
      obtain ⟨isGap', spells', _⟩ := fit'
      exact absurd same (Gap.ne_of_spells fit isGap' spells')
  | cons lexeme lexemes ih =>
    obtain ⟨isGap, spells, fit⟩ := fit
    cases lexemes' with
    | nil =>
      exact absurd same.symm (Gap.ne_of_spells fit' isGap spells)
    | cons lexeme' lexemes' =>
      obtain ⟨isGap', spells', fit'⟩ := fit'
      obtain ⟨gap, rest⟩ :=
        isGap.unique isGap' (solid_of_spells spells) (solid_of_spells spells') same
      obtain ⟨kind, text, behind⟩ := spells_unique spells spells' rest
      obtain ⟨rfl, rfl⟩ := ih fit fit' behind
      cases lexeme
      cases lexeme'
      simp_all

/-- A lexeme of a cut is of the one kind that fits it. -/
theorem Fit.kind_eq_iff (fit : Fit lexemes last) {front back : List Lexeme} {lexeme : Lexeme}
    (place : lexemes = front ++ lexeme :: back) (kind : Token.Kind) :
    lexeme.kind = kind ↔ kind.Spells lexeme.text (spell back last) := by
  subst place
  induction front with
  | nil =>
    obtain ⟨_, spells, _⟩ := fit
    constructor
    · rintro rfl
      exact spells
    · exact fun spells' => (spells_unique spells spells' rfl).1
  | cons _ front ih => exact ih fit.2.2

end Lexeme

/-- A way to cut a text into gaps and lexemes. -/
structure Decomposition (text : List Char) where
  lexemes : List Lexeme
  last : List Char
  spell_eq : Lexeme.spell lexemes last = text
  fit : Lexeme.Fit lexemes last

namespace Decomposition

theorem unique {text : List Char} (cut other : Decomposition text) : other = cut := by
  obtain ⟨lexemes, last, same, fit⟩ := cut
  obtain ⟨lexemes', last', same', fit'⟩ := other
  obtain ⟨rfl, rfl⟩ := fit'.unique fit (same'.trans same.symm)
  rfl

end Decomposition

/-- The tokens of a text are the lexemes of a cut. -/
theorem Lexed.exists_decomposition {position : Position} {text : List Char} {tokens : Tokens}
    (lexed : Lexed position text tokens) :
    ∃ cut : Decomposition text,
      tokens.front.map (fun token => (token.kind, token.text)) =
        cut.lexemes.map fun lexeme => (lexeme.kind, String.ofList lexeme.text) := by
  induction lexed with
  | finish isGap => exact ⟨⟨[], _, rfl, isGap⟩, rfl⟩
  | @token position finish gap text behind kind front isGap spells tail ih =>
    obtain ⟨⟨lexemes, last, rfl, fit⟩, texts⟩ := ih
    refine ⟨⟨⟨gap, kind, text⟩ :: lexemes, last, rfl, isGap, spells, fit⟩, ?_⟩
    rw [List.map_cons, List.map_cons, texts]

/-- Listing the tokens of a text cuts it as the lexical grammar does, and in no other way can it be
cut. Behind the lexemes the end is listed, once. -/
theorem listing_is_the_decomposition (text name : String) :
    ∃ (cut : Decomposition text.toList) (tokens : List Token) (finish : Position),
      (Lexer.start (Text.ofString text) name 0 0).toList.1 =
        (tokens ++ [Token.atEnd finish]).map .ok ∧
      tokens.map (fun token => (token.kind, token.text)) =
        cut.lexemes.map (fun lexeme => (lexeme.kind, String.ofList lexeme.text)) ∧
      (∀ front lexeme back, cut.lexemes = front ++ lexeme :: back → ∀ kind,
        lexeme.kind = kind ↔ kind.Spells lexeme.text (Lexeme.spell back cut.last)) ∧
      ∀ other : Decomposition text.toList, other = cut := by
  obtain ⟨tokens, lexed, unread⟩ :=
    Lexer.exists_unread_start (Text.serves_ofString text) name 0 0
  obtain ⟨cut, texts⟩ := lexed.exists_decomposition
  have listed := Lexer.toList_of_offers (.inl unread) rfl
  exact ⟨cut, tokens.front, tokens.finish, listed, texts,
    fun _ _ _ place kind => cut.fit.kind_eq_iff place kind, cut.unique⟩

end GrammarCheck
