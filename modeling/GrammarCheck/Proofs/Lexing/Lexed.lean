import GrammarCheck.Proofs.Lexing.Reading
import GrammarCheck.Proofs.Tokens

/-! # The tokens of a text

The lexical grammar and the counting of positions fix the tokens of a text. A lexer over a stream
that serves the text shows just these, in order, and then the end.
-/

namespace GrammarCheck

/-- From the position on, the text has these tokens and ends where they say. -/
inductive Lexed : Position → List Char → Tokens → Prop
  | finish {position : Position} {gap : List Char} (isGap : Gap gap []) :
    Lexed position gap ⟨[], position.after gap⟩
  | token {position finish : Position} {gap text behind : List Char} {kind : Token.Kind}
    {front : List Token} (isGap : Gap gap (text ++ behind)) (spells : kind.Spells text behind)
    (tail : Lexed ((position.after gap).right text.length) behind ⟨front, finish⟩) :
    Lexed position (gap ++ (text ++ behind))
      ⟨⟨position.after gap, kind, String.ofList text⟩ :: front, finish⟩

namespace Lexed

variable {position finish : Position} {gap text behind : List Char} {kind : Token.Kind}
  {tokens : Tokens}

/-- A text that is one gap has no token but its end. -/
theorem of_gap (isGap : Gap text []) (lexed : Lexed position text tokens) :
    tokens = ⟨[], position.after text⟩ := by
  cases lexed with
  | finish _ => rfl
  | token isGap' spells _ => exact absurd rfl (isGap.ne_of_spells isGap' spells)

/-- A lexeme behind a gap is the first token. -/
theorem of_token (isGap : Gap gap (text ++ behind)) (spells : kind.Spells text behind)
    (lexed : Lexed position (gap ++ (text ++ behind)) tokens) :
    tokens.front.head? = some ⟨position.after gap, kind, String.ofList text⟩ ∧
      Lexed ((position.after gap).right text.length) behind tokens.rest := by
  have solid := solid_of_spells spells
  generalize whole : gap ++ (text ++ behind) = ahead at lexed
  cases lexed with
  | finish isGap' => exact absurd whole.symm (isGap'.ne_of_spells isGap spells)
  | token isGap' spells' tail =>
    obtain ⟨rfl, same⟩ := isGap.unique isGap' solid (solid_of_spells spells') whole
    obtain ⟨rfl, rfl, rfl⟩ := spells_unique spells spells' same
    exact ⟨rfl, tail⟩

/-- A text has one list of tokens. -/
theorem unique {tokens' : Tokens} (lexed : Lexed position text tokens)
    (lexed' : Lexed position text tokens') : tokens' = tokens := by
  induction lexed generalizing tokens' with
  | finish isGap => exact lexed'.of_gap isGap
  | token isGap spells _ ih =>
    obtain ⟨head, tail⟩ := lexed'.of_token isGap spells
    obtain ⟨_ | ⟨token, front⟩, finish⟩ := tokens'
    · contradiction
    · obtain rfl := Option.some.inj head
      obtain ⟨rfl, rfl⟩ := Tokens.mk.inj (ih tail)
      rfl

/-- No token in front of the end is an end itself. -/
theorem ne_endOfInput (lexed : Lexed position text tokens) :
    ∀ token ∈ tokens.front, token.kind ≠ .endOfInput := by
  induction lexed with
  | finish _ => simp
  | token _ spells _ ih =>
    refine List.forall_mem_cons.mpr ⟨?_, ih⟩
    rintro rfl
    exact spells

end Lexed

variable {σ : Type} [CharStream σ] [SteadyStream σ]

namespace Cursor.StandsAt

variable {cursor : Cursor σ} {position : Position} {text : List Char}

theorem note (stands : cursor.StandsAt position text) (event : Event) :
    (cursor.note event).StandsAt position text :=
  ⟨stands.held, stands.position_eq, stands.spot_eq, stands.lineEnded_eq, stands.serves⟩

/-- Every text in front of a cursor has tokens. -/
theorem exists_lexed (stands : cursor.StandsAt position text) :
    ∃ tokens, Lexed position text tokens := by
  induction bound : text.length using Nat.strongRecOn generalizing text cursor position with
  | ind length ih =>
  subst bound
  obtain ⟨_, isGap, _⟩ | ⟨gap, lexeme, behind, kind, next, rfl, isGap, spells, _, there⟩ :=
    stands.nextToken
  · exact ⟨_, .finish isGap⟩
  · obtain ⟨c, body, rfl, -⟩ := firstLexeme_of_spells spells
    obtain ⟨tokens, tail⟩ := ih behind.length (by simp; omega) there rfl
    exact ⟨_, .token isGap spells tail⟩

/-- Behind a gap that goes on to the end of the text the end is read. -/
theorem nextToken_of_gap (stands : cursor.StandsAt position text) (isGap : Gap text []) :
    ∃ next, cursor.nextToken = .ok ⟨position.after text, .endOfInput, ""⟩ next ∧
      next.StandsAt (position.after text) [] := by
  obtain ⟨next, -, read, there⟩ | ⟨gap, lexeme, behind, kind, next, same, other, spells, -, -⟩ :=
    stands.nextToken
  · exact ⟨next, read, there⟩
  · exact absurd same (isGap.ne_of_spells other spells)

/-- A lexeme behind a gap is read. -/
theorem nextToken_of_spells {gap lexeme behind : List Char} {kind : Token.Kind}
    (stands : cursor.StandsAt position (gap ++ (lexeme ++ behind)))
    (isGap : Gap gap (lexeme ++ behind)) (spells : kind.Spells lexeme behind) :
    ∃ next, cursor.nextToken = .ok ⟨position.after gap, kind, String.ofList lexeme⟩ next ∧
      next.StandsAt ((position.after gap).right lexeme.length) behind := by
  obtain ⟨next, last, -⟩ | ⟨gap', lexeme', behind', kind', next, same, isGap', spells', read, there⟩ :=
    stands.nextToken
  · exact absurd rfl (last.ne_of_spells isGap spells)
  · obtain ⟨rfl, lexemes⟩ :=
      isGap.unique isGap' (solid_of_spells spells) (solid_of_spells spells') same
    obtain ⟨rfl, rfl, rfl⟩ := spells_unique spells spells' lexemes
    exact ⟨next, read, there⟩

/-- A cursor reads the first token of a text, and behind it stands in front of the others. -/
theorem nextToken_of_lexed {tokens : Tokens} (stands : cursor.StandsAt position text)
    (lexed : Lexed position text tokens) :
    ∃ next, cursor.nextToken = .ok tokens.first next ∧ next.released = false ∧
      (tokens.front ≠ [] → ∃ place behind, next.StandsAt place behind ∧
        Lexed place behind tokens.rest) := by
  cases lexed with
  | finish isGap =>
    obtain ⟨next, read, there⟩ := stands.nextToken_of_gap isGap
    exact ⟨next, read, there.held, fun more => absurd rfl more⟩
  | token isGap spells tail =>
    obtain ⟨next, read, there⟩ := stands.nextToken_of_spells isGap spells
    exact ⟨next, read, there.held, fun _ => ⟨_, _, there, tail⟩⟩

end Cursor.StandsAt

end GrammarCheck
