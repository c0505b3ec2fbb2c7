import GrammarCheck.Proofs.Chars.Decoding
import GrammarCheck.Proofs.Checking.TextCheck
import GrammarCheck.Proofs.Lexing.LineEnds

/-! # Sources that agree

A check depends on nothing but the tokens of its text. So it ends alike for two sources of one text,
and for two texts that have the same tokens.
-/

namespace GrammarCheck

/-- The diagnostics of a text are those of its check, if that does not fail. -/
private theorem diagnosticsOf_eq_map (text name : String) : diagnosticsOf text name =
    (check (Text.ofString text) name ({} : Collector)).result.map fun _ =>
      (check (Text.ofString text) name ({} : Collector)).state.receiver.diagnostics := by
  rw [diagnosticsOf]
  cases check (Text.ofString text) name ({} : Collector) <;> rfl

namespace SameTokens

open SteadyStream (Serves)

variable {σ τ : Type} [CharStream σ] [SteadyStream σ] [CharStream τ] [SteadyStream τ]
  {source : σ} {other : τ} {text text' : List Char}

/-- Lexers over texts with the same tokens list the same. -/
theorem toList_eq (same : SameTokens text text') (serves : Serves source text)
    (serves' : Serves other text') (name : String) (line column : Nat) :
    (Lexer.start source name line column).toList.1 =
      (Lexer.start other name line column).toList.1 := by
  obtain ⟨tokens, lexed, listed, -⟩ := exists_start_alike serves name line column Discard.mk
  obtain ⟨tokens', lexed', listed', -⟩ := exists_start_alike serves' name line column Discard.mk
  obtain rfl := same lexed lexed'
  rw [listed, listed']

/-- Checks of texts with the same tokens return the same and hand over the same diagnostics. -/
theorem check_eq {ρ : Type} [Receiver ρ] (same : SameTokens text text')
    (serves : Serves source text) (serves' : Serves other text') (name : String) (receiver : ρ) :
    (check source name receiver).result = (check other name receiver).result ∧
      (check source name receiver).state.receiver = (check other name receiver).state.receiver := by
  obtain ⟨tokens, lexed, -, alike⟩ := exists_check_alike serves name receiver
  obtain ⟨tokens', lexed', -, alike'⟩ := exists_check_alike serves' name receiver
  obtain rfl := same lexed lexed'
  exact ⟨alike.result_eq.trans alike'.result_eq.symm, alike.states.trans alike'.states.symm⟩

/-- Texts with the same tokens have the same diagnostics. -/
theorem diagnosticsOf_eq {text text' : String} (same : SameTokens text.toList text'.toList)
    (name : String) : diagnosticsOf text name = diagnosticsOf text' name := by
  obtain ⟨results, receivers⟩ := same.check_eq (Text.serves_ofString text)
    (Text.serves_ofString text') name ({} : Collector)
  rw [diagnosticsOf_eq_map, diagnosticsOf_eq_map, results, receivers]

end SameTokens

/-- Bytes that are read in blocks and decoded line by line answer every call like the text that they
encode, less its byte order mark. They have the same tokens and are checked with the same result. -/
theorem decoded_lines_agree_with_the_text (text : String) {capacity : Nat}
    (positive : 0 < capacity) :
    let lines := Utf8Lines.ofFeed capacity (Feed.ofBytes text.toUTF8.data.toList)
    let chars : Text := ⟨withoutMark text.toList⟩
    (∀ calls, CharStream.answers calls lines = CharStream.answers calls chars) ∧
      (∀ name line column, (Lexer.start lines name line column).toList.1 =
        (Lexer.start chars name line column).toList.1) ∧
      ∀ {ρ : Type} [Receiver ρ] (name : String) (receiver : ρ),
        (check lines name receiver).result = (check chars name receiver).result ∧
        (check lines name receiver).state.receiver =
          (check chars name receiver).state.receiver := by
  intro lines chars
  have serves : SteadyStream.Serves lines (withoutMark text.toList) :=
    Utf8Lines.serves_ofFeed text positive
  have serves' : SteadyStream.Serves chars (withoutMark text.toList) := rfl
  have same := SameTokens.refl (withoutMark text.toList)
  exact ⟨serves.answers_eq serves', same.toList_eq serves serves', same.check_eq serves serves'⟩

theorem decoded_lines_of_a_marked_text :
    let lines :=
      Utf8Lines.ofFeed 2 (Feed.ofBytes "\ufeffA = \"\u00e9\r\n\ufeff".toUTF8.data.toList)
    let chars : Text := ⟨['A', ' ', '=', ' ', '"', '\u00e9', '\r', '\n', '\ufeff']⟩
    0 < 2 ∧
      (∀ calls, CharStream.answers calls lines = CharStream.answers calls chars) ∧
      (∀ name line column, (Lexer.start lines name line column).toList.1 =
        (Lexer.start chars name line column).toList.1) ∧
      ∀ {ρ : Type} [Receiver ρ] (name : String) (receiver : ρ),
        (check lines name receiver).result = (check chars name receiver).result ∧
        (check lines name receiver).state.receiver =
          (check chars name receiver).state.receiver :=
  ⟨by decide, decoded_lines_agree_with_the_text "\ufeffA = \"\u00e9\r\n\ufeff" (by decide)⟩

/-- Which line end stands between the lines of a text shows neither in its tokens, with their
places, nor in its diagnostics. -/
theorem line_ends_do_not_matter {lines : List String}
    (solid : ∀ line ∈ lines, ∀ c ∈ line.toList, Chars.isLineEnd c = false)
    {lineEnd lineEnd' : String} (member : lineEnd ∈ lineEnds) (member' : lineEnd' ∈ lineEnds) :
    let text := lineEnd.intercalate lines
    let text' := lineEnd'.intercalate lines
    (∀ name line column, (Lexer.start (Text.ofString text) name line column).toList.1 =
        (Lexer.start (Text.ofString text') name line column).toList.1) ∧
      ∀ name, diagnosticsOf text name = diagnosticsOf text' name := by
  intro text text'
  have solid' : ∀ line ∈ lines.map String.toList, ∀ c ∈ line, Chars.isLineEnd c = false :=
    List.forall_mem_map.mpr solid
  have same : SameTokens text.toList text'.toList := by
    apply SameTokens.of_logicalLines
    cases lines with
    | nil => rfl
    | cons line later =>
      have nonempty : (line :: later).map String.toList ≠ [] := nofun
      rw [String.toList_intercalate, String.toList_intercalate,
        logicalLines_intercalate solid' nonempty member,
        logicalLines_intercalate solid' nonempty member']
  exact ⟨same.toList_eq (Text.serves_ofString text) (Text.serves_ofString text'),
    same.diagnosticsOf_eq⟩

theorem line_ends_of_an_unclosed_literal :
    let lines := ["S = 'x # y", "", "T = ( y # |", " ;"]
    let text := "\u2028".intercalate lines
    let text' := "\r\n".intercalate lines
    (∀ line ∈ lines, ∀ c ∈ line.toList, Chars.isLineEnd c = false) ∧
      "\u2028" ∈ lineEnds ∧ "\r\n" ∈ lineEnds ∧
      (∀ name line column, (Lexer.start (Text.ofString text) name line column).toList.1 =
        (Lexer.start (Text.ofString text') name line column).toList.1) ∧
      ∀ name, diagnosticsOf text name = diagnosticsOf text' name := by
  intro lines text text'
  have all : lines.all (fun line => line.toList.all fun c => !Chars.isLineEnd c) = true := by
    decide +kernel
  have solid : ∀ line ∈ lines, ∀ c ∈ line.toList, Chars.isLineEnd c = false := by
    simpa only [List.all_eq_true, Bool.not_eq_true'] using all
  exact ⟨solid, by decide, by decide, line_ends_do_not_matter solid (by decide) (by decide)⟩

end GrammarCheck
