import GrammarCheck.Diagnostic
import GrammarCheck.Proofs.Lexing.LexicalGrammar

/-! # Reading back what is rendered

A number ends at the first character that is no digit, so the line and the column of a position can
be read back from the line that reports a diagnostic. Behind them the kinds that were wanted are
told by their first characters, and the words that end their list are none of these, so the whole
diagnostic can be read back.
-/

namespace GrammarCheck

section Numbers

variable {m n : Nat} {front back : List Char}

theorem isDigit_of_mem_repr : ∀ c ∈ n.repr.toList, c.isDigit = true := by
  intro c member
  rw [Nat.toList_repr] at member
  exact Nat.isDigit_of_mem_toDigits (Nat.succ_pos 9) (Nat.le_refl 10) member

/-- A number is all that stands in front of the first character that is no digit. -/
private theorem repr_append_cancel {c d : Char} (stop : c.isDigit = false)
    (stop' : d.isDigit = false)
    (same : m.repr.toList ++ c :: front = n.repr.toList ++ d :: back) :
    m = n ∧ c :: front = d :: back := by
  have digits := congrArg (List.takeWhile Char.isDigit) same
  rw [takeWhile_append_of_stop isDigit_of_mem_repr (by simpa using stop),
    takeWhile_append_of_stop isDigit_of_mem_repr (by simpa using stop')] at digits
  have numbers := congrArg (Nat.ofDigitChars 10 · 0) digits
  simp only [Nat.toList_repr, Nat.ofDigitChars_ten_toDigits] at numbers
  obtain rfl : m = n := numbers
  exact ⟨rfl, List.append_cancel_left same⟩

end Numbers

theorem Position.toList_render (position : Position) : position.render.toList =
    position.source.toList ++ '(' :: (position.line.repr.toList ++
      ',' :: ' ' :: (position.column.repr.toList ++ [')'])) := by
  simp [render]

/-- Positions in one text are told apart by their rendering, whatever stands behind it. -/
theorem Position.render_append_cancel {first second : Position} {front back : List Char}
    (source : first.source = second.source)
    (same : first.render.toList ++ front = second.render.toList ++ back) :
    first = second ∧ front = back := by
  obtain ⟨name, line, column⟩ := first
  obtain ⟨_, line', column'⟩ := second
  obtain rfl : name = _ := source
  simp only [toList_render, List.append_assoc, List.cons_append, List.nil_append] at same
  have fields := List.tail_eq_of_cons_eq (List.append_cancel_left same)
  obtain ⟨rfl, behind⟩ := repr_append_cancel (by decide) (by decide) fields
  have column := List.tail_eq_of_cons_eq (List.tail_eq_of_cons_eq behind)
  obtain ⟨rfl, closed⟩ := repr_append_cancel (by decide) (by decide) column
  exact ⟨rfl, List.tail_eq_of_cons_eq closed⟩

/-- The line of a diagnostic tells where in its text it stands. -/
theorem Diagnostic.position_eq_of_render {first second : Diagnostic}
    (source : first.position.source = second.position.source)
    (same : first.render = second.render) : first.position = second.position := by
  have lines := congrArg String.toList same
  simp only [render, String.toList_append, List.append_assoc] at lines
  exact (Position.render_append_cancel source lines).1

namespace Token.Kind

def all : List Token.Kind :=
  [endOfInput, unknown, unterminatedLiteral, period, bar, assign, opening .paren, opening .square,
    opening .curly, closing .paren, closing .square, closing .curly, identifier, literal]

theorem mem_all (kind : Token.Kind) : kind ∈ all := by
  rcases kind with _ | _ | _ | _ | _ | _ | ⟨_ | _ | _⟩ | ⟨_ | _ | _⟩ | _ | _ <;> decide

private theorem three_le_length_description (kind : Token.Kind) :
    3 ≤ kind.description.toList.length := by
  have every : ∀ kind ∈ all, 3 ≤ kind.description.toList.length := by decide +kernel
  exact every kind kind.mem_all

/-- What a kind is called in a message is told by its first three characters. -/
private theorem description_take_injective {kind kind' : Token.Kind}
    (same : kind.description.toList.take 3 = kind'.description.toList.take 3) : kind = kind' := by
  have every : ∀ kind ∈ all, ∀ kind' ∈ all,
      kind.description.toList.take 3 = kind'.description.toList.take 3 → kind = kind' := by
    decide +kernel
  exact every kind kind.mem_all kind' kind'.mem_all same

/-- Kinds are told apart by their descriptions, whatever stands behind them. -/
theorem description_append_cancel {kind kind' : Token.Kind} {front back : List Char}
    (same : kind.description.toList ++ front = kind'.description.toList ++ back) :
    kind = kind' ∧ front = back := by
  have starts := congrArg (List.take 3) same
  rw [List.take_append_of_le_length kind.three_le_length_description,
    List.take_append_of_le_length kind'.three_le_length_description] at starts
  obtain rfl := description_take_injective starts
  exact ⟨rfl, List.append_cancel_left same⟩

/-- No description can be taken for the words behind the last of them. -/
private theorem description_append_ne_found (kind : Token.Kind) (front back : List Char) :
    kind.description.toList ++ front ≠ "found ".toList ++ back := by
  intro same
  have starts := congrArg (List.take 3) same
  rw [List.take_append_of_le_length kind.three_le_length_description,
    List.take_append_of_le_length (by decide)] at starts
  have every : ∀ kind ∈ all, kind.description.toList.take 3 ≠ "found ".toList.take 3 := by
    decide +kernel
  exact every kind kind.mem_all starts

end Token.Kind

namespace Diagnostic

/-- What stands behind the first of several alternatives. -/
def otherAlternatives : List Token.Kind → List Char
  | [] => []
  | [last] => ' ' :: 'o' :: 'r' :: ' ' :: last.description.toList
  | kind :: second :: others =>
    ',' :: ' ' :: (kind.description.toList ++ otherAlternatives (second :: others))

private theorem toList_alternatives_cons (kind : Token.Kind) (others : List Token.Kind) :
    (alternatives ((kind :: others).map Token.Kind.description)).toList =
      kind.description.toList ++ otherAlternatives others := by
  induction others generalizing kind with
  | nil => simp [alternatives, otherAlternatives]
  | cons second others ih =>
    cases others with
    | nil => simp [alternatives, otherAlternatives]
    | cons third others =>
      have behind := ih second
      simp only [List.map_cons] at behind
      simp [alternatives, otherAlternatives, behind]

/-- Behind the first alternative it can be seen where the list ends. -/
private theorem otherAlternatives_append_cancel {others others' : List Token.Kind}
    {front back : List Char}
    (same : otherAlternatives others ++ ',' :: ' ' :: ("found ".toList ++ front) =
      otherAlternatives others' ++ ',' :: ' ' :: ("found ".toList ++ back)) :
    others = others' ∧ front = back := by
  -- A comma is followed by a description or by the words that end the list, and no description
  -- can be taken for these.
  have apart {kind : Token.Kind} {rest front back : List Char}
      (same : ',' :: ' ' :: (kind.description.toList ++ rest) ++ front =
        ',' :: ' ' :: ("found ".toList ++ back)) : False := by
    rw [List.cons_append, List.cons_append, List.append_assoc] at same
    have words := List.tail_eq_of_cons_eq (List.tail_eq_of_cons_eq same)
    exact kind.description_append_ne_found _ _ words
  induction others generalizing others' with
  | nil =>
    rcases others' with _ | ⟨kind', _ | ⟨second', others'⟩⟩
    · simpa [otherAlternatives] using same
    · simp [otherAlternatives] at same
    · exact (apart same.symm).elim
  | cons kind others ih =>
    rcases others with _ | ⟨second, others⟩ <;>
      rcases others' with _ | ⟨kind', _ | ⟨second', others'⟩⟩
    · simp [otherAlternatives] at same
    · simp only [otherAlternatives, List.cons_append, List.cons.injEq, true_and] at same
      obtain ⟨rfl, behind⟩ := Token.Kind.description_append_cancel same
      simpa using behind
    · simp [otherAlternatives] at same
    · exact (apart same).elim
    · simp [otherAlternatives] at same
    · simp only [otherAlternatives, List.cons_append, List.append_assoc, List.cons.injEq,
        true_and] at same
      obtain ⟨rfl, behind⟩ := Token.Kind.description_append_cancel same
      obtain ⟨others_eq, text⟩ := ih behind
      exact ⟨congrArg (kind :: ·) others_eq, text⟩

private theorem toList_message_cons (found : Token) (kind : Token.Kind) (others : List Token.Kind) :
    (message ⟨found, kind :: others⟩).toList =
      "expected ".toList ++ (kind.description.toList ++ (otherAlternatives others ++
        ',' :: ' ' :: ("found ".toList ++ found.description.toList))) := by
  have list := toList_alternatives_cons kind others
  simp only [message]
  rw [String.toList_append, String.toList_append, String.toList_append, list]
  simp

/-- What a diagnostic wants and how it shows what was found can be read back from its message. -/
theorem of_message_eq {first second : Diagnostic} (wants : first.expected ≠ [])
    (wants' : second.expected ≠ []) (same : first.message = second.message) :
    first.expected = second.expected ∧ first.found.description = second.found.description := by
  obtain ⟨found, _ | ⟨kind, others⟩⟩ := first
  · contradiction
  obtain ⟨found', _ | ⟨kind', others'⟩⟩ := second
  · contradiction
  have messages := congrArg String.toList same
  rw [toList_message_cons, toList_message_cons] at messages
  have kinds := List.append_cancel_left messages
  obtain ⟨rfl, behind⟩ := Token.Kind.description_append_cancel kinds
  obtain ⟨rfl, shown⟩ := otherAlternatives_append_cancel behind
  exact ⟨rfl, String.toList_injective shown⟩

end Diagnostic

namespace Token

/-- The text is of the form that lexing gives a token of this kind. -/
def WellFormed (token : Token) : Prop :=
  match token.kind with
  | .endOfInput => token.text = ""
  | .unknown => ∃ c, token.text.toList = [c]
  | .identifier => ∃ c body, token.text.toList = c :: body ∧ Chars.isWordStart c = true ∧
      ∀ d ∈ body, Chars.isWordRest d = true
  | .literal => ∃ quote body, token.text.toList = quote :: (body ++ [quote]) ∧ Quotation quote body
  | .unterminatedLiteral =>
    ∃ quote body, token.text.toList = quote :: body ∧ Quotation quote body
  | .period | .bar | .assign | .opening _ | .closing _ =>
    ∃ c, token.text.toList = [c] ∧ token.kind.spelling? = some c

/-- A lexeme is of the form that its kind asks for. -/
theorem WellFormed.of_spells {kind : Kind} {text behind : List Char}
    (spells : kind.Spells text behind) (position : Position) :
    WellFormed ⟨position, kind, String.ofList text⟩ := by
  cases kind with
  | endOfInput => exact spells.elim
  | unknown =>
    obtain ⟨c, rfl, -⟩ := spells
    exact ⟨c, String.toList_ofList⟩
  | identifier =>
    obtain ⟨⟨c, body, rfl, start, inside⟩, -⟩ := spells
    exact ⟨c, body, String.toList_ofList, start, inside⟩
  | literal =>
    obtain ⟨quote, body, rfl, quoted⟩ := spells
    exact ⟨quote, body, String.toList_ofList, quoted⟩
  | unterminatedLiteral =>
    obtain ⟨⟨quote, body, rfl, quoted⟩, -⟩ := spells
    exact ⟨quote, body, String.toList_ofList, quoted⟩
  | period | bar | assign | opening _ | closing _ =>
    obtain ⟨c, rfl, spelling⟩ := spells
    exact ⟨c, String.toList_ofList, spelling⟩

/-- What a message shows of a token behind the description of its kind. -/
def shown (token : Token) : List Char :=
  match token.kind with
  | .unknown | .identifier => ' ' :: '\'' :: (token.text.toList ++ ['\''])
  | .unterminatedLiteral | .literal => ' ' :: token.text.toList
  | .endOfInput | .period | .bar | .assign | .opening _ | .closing _ => []

theorem WellFormed.toList_description {token : Token} (formed : token.WellFormed) :
    token.description.toList = token.kind.description.toList ++ token.shown := by
  obtain ⟨position, kind, text⟩ := token
  cases kind with
  | endOfInput | unknown | unterminatedLiteral | identifier | literal =>
    simp [description, Kind.description, shown]
  | period | bar | assign | opening _ | closing _ =>
    obtain ⟨c, spelled, spelling⟩ := formed
    cases spelling
    dsimp only at spelled
    simp [description, Kind.description, shown, spelled]

/-- A token is told by its place and by what a message shows of it. -/
theorem WellFormed.eq_of_description {token token' : Token} (formed : token.WellFormed)
    (formed' : token'.WellFormed) (place : token.position = token'.position)
    (same : token.description = token'.description) : token = token' := by
  have descriptions := congrArg String.toList same
  rw [formed.toList_description, formed'.toList_description] at descriptions
  obtain ⟨kinds, shown_eq⟩ := Kind.description_append_cancel descriptions
  obtain ⟨position, kind, text⟩ := token
  obtain ⟨_, _, text'⟩ := token'
  obtain rfl : position = _ := place
  obtain rfl : kind = _ := kinds
  suffices texts : text = text' by rw [texts]
  apply String.toList_injective
  cases kind with
  | endOfInput => rw [show text = "" from formed, show text' = "" from formed']
  | unknown | identifier | unterminatedLiteral | literal => simpa [shown] using shown_eq
  | period | bar | assign | opening _ | closing _ =>
    obtain ⟨c, spelled, spelling⟩ := formed
    obtain ⟨c', spelled', spelling'⟩ := formed'
    obtain rfl : c = c' := Option.some.inj (spelling.symm.trans spelling')
    exact spelled.trans spelled'.symm

end Token

/-- Of diagnostics in one text no two that want something read the same. -/
theorem rendering_is_unambiguous {first second : Diagnostic}
    (source : first.position.source = second.position.source)
    (wants : first.expected ≠ []) (wants' : second.expected ≠ [])
    (formed : first.found.WellFormed) (formed' : second.found.WellFormed) :
    first.render = second.render ↔ first = second := by
  constructor
  · intro same
    have lines := congrArg String.toList same
    simp only [Diagnostic.render, String.toList_append, List.append_assoc] at lines
    obtain ⟨place, behind⟩ := Position.render_append_cancel source lines
    have messages : first.message = second.message :=
      String.toList_injective (List.append_cancel_left behind)
    obtain ⟨expected, shown⟩ := Diagnostic.of_message_eq wants wants' messages
    have found := formed.eq_of_description formed' place shown
    exact congrArg₂ Diagnostic.mk found expected
  · rintro rfl
    rfl

theorem rendering_of_a_literal_like_a_message :
    let place : Position := ⟨"g", 2, 7⟩
    let first : Diagnostic := ⟨⟨place, .unterminatedLiteral, "\", found '.'"⟩, [.bar, .period]⟩
    let second : Diagnostic := ⟨⟨place, .literal, "\", found '.'\""⟩, [.bar, .bar, .period]⟩
    first.position.source = second.position.source ∧ first.expected ≠ [] ∧ second.expected ≠ [] ∧
      first.found.WellFormed ∧ second.found.WellFormed ∧
      (first.render = second.render ↔ first = second) ∧
      first.message = "expected '|' or '.', found unterminated literal \", found '.'" ∧
      second.message = "expected '|', '|' or '.', found literal \", found '.'\"" := by
  intro place first second
  have inside : Quotation '"' ", found '.'".toList := ⟨by decide, by simp [Chars.isLineEnd]⟩
  have formed : first.found.WellFormed := ⟨_, _, by simp [first], inside⟩
  have formed' : second.found.WellFormed := ⟨_, _, by simp [second], inside⟩
  refine ⟨rfl, by decide, by decide, formed, formed', ?_, ?_, ?_⟩
  · exact rendering_is_unambiguous rfl (by decide) (by decide) formed formed'
  · simp [first, Diagnostic.message, Diagnostic.alternatives, Token.Kind.description,
      Token.description]
  · simp [second, Diagnostic.message, Diagnostic.alternatives, Token.Kind.description,
      Token.description]

end GrammarCheck
