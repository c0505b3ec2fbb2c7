import GrammarCheck.Lexer.Lexeme
import GrammarCheck.Token.Stream

/-! # Lexers

A lexer holds one token of lookahead over a cursor. The first token is read when it is first asked
for. Once the end of the text is the lookahead it stays so.
-/

namespace GrammarCheck

/-- The tokens of a text, as far as they have been read. -/
structure Lexer (σ : Type) where
  cursor : Cursor σ
  lookahead : Option Token := none
  /-- The listing of tokens has given its last item. -/
  finished : Bool := false

namespace Lexer

variable {σ : Type}

def note (event : Event) (lexer : Lexer σ) : Lexer σ :=
  { lexer with cursor := lexer.cursor.note event }

/-- Lets go of the text. The lookahead stays readable. -/
def release (lexer : Lexer σ) : Lexer σ :=
  { lexer with cursor := lexer.cursor.release }

def unfinished (lexer : Lexer σ) : Bool :=
  match lexer.lookahead with
  | none => true
  | some token => token.kind != .endOfInput

variable [CharStream σ]

def tokensLeft (lexer : Lexer σ) : Nat :=
  lexer.cursor.charsLeft + lexer.unfinished.toNat

/-- Makes the token at the cursor the lookahead. -/
def loadToken (lexer : Lexer σ) : Outcome Failure (Lexer σ) Unit :=
  match lexer.cursor.nextToken with
  | .error failure cursor => .error failure { lexer with cursor }
  | .ok token cursor =>
    .ok () { lexer with cursor := cursor.note (.token token), lookahead := some token }

/-- Drops the lookahead and reads the next token. A failed read keeps the lookahead. -/
def drop (lexer : Lexer σ) : Outcome Failure (Lexer σ) Unit :=
  if lexer.cursor.released then .error .closed lexer
  else
    match lexer.lookahead with
    | none =>
      match lexer.cursor.move with
      | .error failure cursor => .error failure { lexer with cursor }
      | .ok _ cursor => { lexer with cursor }.loadToken
    | some token => if token.kind = .endOfInput then .ok () lexer else lexer.loadToken

/-- The lookahead, which the first call reads. -/
def peek (lexer : Lexer σ) : Outcome Failure (Lexer σ) Token :=
  match lexer.lookahead with
  | some token => .ok token lexer
  | none =>
    match lexer.drop with
    | .error failure next => .error failure next
    | .ok () next =>
      match next.lookahead with
      | some token => .ok token next
      | none => .error .closed next

@[simp] theorem tokensLeft_note (event : Event) (lexer : Lexer σ) :
    (lexer.note event).tokensLeft = lexer.tokensLeft := rfl

theorem tokensLeft_loadToken_le (lexer : Lexer σ) (unfinished : lexer.unfinished = true) :
    lexer.loadToken.state.tokensLeft ≤ lexer.tokensLeft := by
  have bound := lexer.cursor.charsLeft_nextToken_le
  unfold loadToken
  split
  · next read =>
    rw [read] at bound
    exact Nat.add_le_add_right bound _
  · next token cursor read =>
    rw [read] at bound
    have := Bool.toNat_le (token.kind != .endOfInput)
    simp only [Outcome.state_ok, tokensLeft, Cursor.charsLeft_note, unfinished] at *
    simp only [Lexer.unfinished, Bool.toNat_true]
    omega

theorem tokensLeft_loadToken_lt {lexer next : Lexer σ} (unfinished : lexer.unfinished = true)
    (success : lexer.loadToken = .ok () next) : next.tokensLeft < lexer.tokensLeft := by
  have bound := lexer.cursor.charsLeft_nextToken_le
  unfold loadToken at success
  split at success
  · cases success
  · next token cursor read =>
    cases success
    rw [read] at bound
    simp only [Outcome.state_ok, tokensLeft, Cursor.charsLeft_note, unfinished] at *
    simp only [Lexer.unfinished, Bool.toNat_true]
    by_cases ended : token.kind = .endOfInput
    · simp only [ended, bne_self_eq_false, Bool.toNat_false]
      omega
    · have smaller := Cursor.charsLeft_nextToken_lt read ended
      have := Bool.toNat_le (token.kind != .endOfInput)
      omega

theorem tokensLeft_drop_le (lexer : Lexer σ) :
    lexer.drop.state.tokensLeft ≤ lexer.tokensLeft := by
  unfold drop
  split
  · exact Nat.le_refl _
  split
  · next empty =>
    have moved := lexer.cursor.charsLeft_move_le
    have unfinished : lexer.unfinished = true := by simp [Lexer.unfinished, empty]
    split
    · next read =>
      rw [read] at moved
      exact Nat.add_le_add_right moved _
    · next cursor read =>
      rw [read] at moved
      exact Nat.le_trans (tokensLeft_loadToken_le { lexer with cursor } unfinished)
        (Nat.add_le_add_right moved _)
  · next token held =>
    split
    · exact Nat.le_refl _
    · next running =>
      exact tokensLeft_loadToken_le lexer (by simp [Lexer.unfinished, held, running])

/-- To drop a token before the end comes closer to it. -/
theorem tokensLeft_drop_lt {lexer next : Lexer σ} {token : Token}
    (held : lexer.lookahead = some token) (notEnd : token.kind ≠ .endOfInput)
    (success : lexer.drop = .ok () next) : next.tokensLeft < lexer.tokensLeft := by
  unfold drop at success
  split at success
  · cases success
  · simp only [held, notEnd, ↓reduceIte] at success
    exact tokensLeft_loadToken_lt (by simp [Lexer.unfinished, held, notEnd]) success

theorem tokensLeft_peek_le (lexer : Lexer σ) :
    lexer.peek.state.tokensLeft ≤ lexer.tokensLeft := by
  have bound := lexer.tokensLeft_drop_le
  unfold peek
  split
  · exact Nat.le_refl _
  · split
    · simp_all
    · next next moved =>
      rw [moved] at bound
      split <;> exact bound

/-- The token shown is the lookahead from then on. -/
theorem lookahead_of_peek {lexer next : Lexer σ} {token : Token}
    (success : lexer.peek = .ok token next) : next.lookahead = some token := by
  unfold peek at success
  split at success
  · next held =>
    cases success
    exact held
  · split at success
    · cases success
    · split at success
      · next held =>
        cases success
        exact held
      · cases success

instance : TokenStream (Lexer σ) where
  peek := peek
  drop := drop
  release := release
  note := note
  tokensLeft := tokensLeft
  peek_le := tokensLeft_peek_le
  drop_le := tokensLeft_drop_le
  drop_lt shown notEnd success :=
    tokensLeft_drop_lt (lookahead_of_peek shown) notEnd success
  note_eq := tokensLeft_note

/-- Lists the next token: each token once, the one that ends the input last. A failure is listed in
place of the token before it and ends the list. -/
def next (lexer : Lexer σ) : Option (Except Failure Token) × Lexer σ :=
  if lexer.finished then (none, lexer)
  else
    match lexer.peek with
    | .error failure rest => (some (.error failure), { rest with finished := true })
    | .ok token rest =>
      if token.kind = .endOfInput then (some (.ok token), { rest with finished := true })
      else
        match rest.drop with
        | .error failure rest => (some (.error failure), { rest with finished := true })
        | .ok () rest => (some (.ok token), rest)

theorem tokensLeft_next_lt {lexer rest : Lexer σ} {item : Except Failure Token}
    (listed : lexer.next = (some item, rest)) :
    rest.finished = true ∨ rest.tokensLeft < lexer.tokensLeft := by
  unfold next at listed
  split at listed
  · cases listed
  split at listed
  · cases listed
    exact .inl rfl
  · next token held shown =>
    have bound := lexer.tokensLeft_peek_le
    rw [shown] at bound
    split at listed
    · cases listed
      exact .inl rfl
    · next notEnd =>
      split at listed
      · cases listed
        exact .inl rfl
      · next after moved =>
        cases listed
        exact .inr (Nat.lt_of_lt_of_le
          (tokensLeft_drop_lt (lookahead_of_peek shown) notEnd moved) bound)

def toList (lexer : Lexer σ) : List (Except Failure Token) × Lexer σ :=
  if _finished : lexer.finished then ([], lexer)
  else
    match _listed : lexer.next with
    | (none, rest) => ([], rest)
    | (some item, rest) =>
      let (items, last) := rest.toList
      (item :: items, last)
termination_by if lexer.finished then 0 else lexer.tokensLeft + 1
decreasing_by
  simp only [_finished, Bool.false_eq_true, ↓reduceIte]
  rcases tokensLeft_next_lt _listed with finished | smaller
  · simp [finished]
  · split <;> omega

end Lexer

end GrammarCheck
