import GrammarCheck.Cursor

/-! # Lexemes

How one token is read at a cursor. Blanks, line ends and comments come before it and belong to no
token. The cursor ends on the first character behind the token.
-/

namespace GrammarCheck.Cursor

variable {σ : Type} [CharStream σ]

/-- Moves on while `keep` accepts the character under the cursor, told whether it ends a line, and
adds the characters passed to `text`. -/
def scanWhile (keep : Char → Bool → Bool) (text : String) (cursor : Cursor σ) :
    Outcome Failure (Cursor σ) String :=
  match _here : cursor.spot with
  | .char c =>
    if keep c cursor.lineEnded then
      match _moved : cursor.move with
      | .error failure next => .error failure next
      | .ok _ next => next.scanWhile keep (text.push c)
    else .ok text cursor
  | .start | .finish => .ok text cursor
termination_by cursor.charsLeft
decreasing_by exact charsLeft_move_lt _here _moved

theorem charsLeft_scanWhile_le (keep : Char → Bool → Bool) (text : String) (cursor : Cursor σ) :
    (cursor.scanWhile keep text).state.charsLeft ≤ cursor.charsLeft := by
  fun_induction scanWhile keep text cursor with
  | case1 text cursor c here kept failure next moved =>
    simpa [moved] using cursor.charsLeft_move_le
  | case2 text cursor c here kept c? next moved ih =>
    exact Nat.le_trans ih (Nat.le_of_lt (charsLeft_move_lt here moved))
  | case3 => exact Nat.le_refl _
  | case4 => exact Nat.le_refl _
  | case5 => exact Nat.le_refl _

/-- A scan that keeps its first character comes closer to the end. -/
theorem charsLeft_scanWhile_lt {keep : Char → Bool → Bool} {text taken : String}
    {cursor next : Cursor σ} {c : Char} (here : cursor.spot = .char c)
    (kept : keep c cursor.lineEnded = true)
    (success : cursor.scanWhile keep text = .ok taken next) :
    next.charsLeft < cursor.charsLeft := by
  unfold scanWhile at success
  split at success
  · next d there =>
    obtain rfl : c = d := by simpa [here] using there
    rw [if_pos kept] at success
    split at success
    · cases success
    · next after moved =>
      have bound := charsLeft_scanWhile_le keep (text.push c) after
      rw [success] at bound
      exact Nat.lt_of_le_of_lt bound (charsLeft_move_lt here moved)
  · simp_all
  · simp_all

/-- A comment goes on to the end of its line, which is not part of it. -/
def withinLine (_ : Char) (endsLine : Bool) : Bool := !endsLine

/-- A literal goes on to its closing quote or to the end of its line. -/
def withinLiteral (quote : Char) (c : Char) (endsLine : Bool) : Bool :=
  c != quote && !endsLine

theorem withinLine_of_solid {c : Char} {endsLine : Bool}
    (solid : ¬ (endsLine || Chars.isBlank c) = true) : withinLine c endsLine = true := by
  cases endsLine <;> simp_all [withinLine]

/-- Passes blanks, line ends and comments. -/
def skipGap (cursor : Cursor σ) : Outcome Failure (Cursor σ) Unit :=
  match _here : cursor.spot with
  | .char c =>
    if _skipped : cursor.lineEnded || Chars.isBlank c then
      match _moved : cursor.move with
      | .error failure next => .error failure next
      | .ok _ next => next.skipGap
    else if Chars.isCommentStart c then
      match _moved : cursor.scanWhile withinLine "" with
      | .error failure next => .error failure next
      | .ok _ next => next.skipGap
    else .ok () cursor
  | .start | .finish => .ok () cursor
termination_by cursor.charsLeft
decreasing_by
  · exact charsLeft_move_lt _here _moved
  · exact charsLeft_scanWhile_lt _here (withinLine_of_solid _skipped) _moved

theorem charsLeft_skipGap_le (cursor : Cursor σ) :
    cursor.skipGap.state.charsLeft ≤ cursor.charsLeft := by
  fun_induction skipGap cursor with
  | case1 cursor c here skipped failure next moved =>
    simpa [moved] using cursor.charsLeft_move_le
  | case2 cursor c here skipped c? next moved ih =>
    exact Nat.le_trans ih (Nat.le_of_lt (charsLeft_move_lt here moved))
  | case3 cursor c here solid comment failure next moved =>
    simpa [moved] using cursor.charsLeft_scanWhile_le withinLine ""
  | case4 cursor c here solid comment text next moved ih =>
    have smaller := charsLeft_scanWhile_lt here (withinLine_of_solid solid) moved
    exact Nat.le_trans ih (Nat.le_of_lt smaller)
  | case5 => exact Nat.le_refl _
  | case6 => exact Nat.le_refl _
  | case7 => exact Nat.le_refl _

/-- A token of the given kind and text that starts under the cursor. -/
def tokenHere (cursor : Cursor σ) (kind : Token.Kind) (text : String) : Token :=
  ⟨cursor.position, kind, text⟩

def readWord (cursor : Cursor σ) : Outcome Failure (Cursor σ) Token :=
  (cursor.scanWhile (fun c _ => Chars.isWordRest c) "").map (cursor.tokenHere .identifier)

/-- Reads a literal with both its quotes, or what there is of one that is cut off. -/
def readLiteral (quote : Char) (cursor : Cursor σ) : Outcome Failure (Cursor σ) Token :=
  match cursor.move with
  | .error failure next => .error failure next
  | .ok _ inside =>
    match inside.scanWhile (withinLiteral quote) (String.singleton quote) with
    | .error failure next => .error failure next
    | .ok text stop =>
      if stop.char? = some quote then
        stop.move.map fun _ => cursor.tokenHere .literal (text.push quote)
      else .ok (cursor.tokenHere .unterminatedLiteral text) stop

/-- Reads one character, punctuation or unknown. -/
def readSymbol (c : Char) (cursor : Cursor σ) : Outcome Failure (Cursor σ) Token :=
  cursor.move.map fun _ =>
    cursor.tokenHere ((Token.Kind.ofChar? c).getD .unknown) (String.singleton c)

def readToken (cursor : Cursor σ) : Outcome Failure (Cursor σ) Token :=
  match cursor.spot with
  | .char c =>
    if Chars.isWordStart c then cursor.readWord
    else if Chars.isQuote c then cursor.readLiteral c
    else cursor.readSymbol c
  | .start | .finish => .ok (cursor.tokenHere .endOfInput "") cursor

theorem charsLeft_readWord_le (cursor : Cursor σ) :
    cursor.readWord.state.charsLeft ≤ cursor.charsLeft := by
  simpa [readWord] using charsLeft_scanWhile_le _ _ cursor

theorem charsLeft_readLiteral_le (quote : Char) (cursor : Cursor σ) :
    (cursor.readLiteral quote).state.charsLeft ≤ cursor.move.state.charsLeft := by
  unfold readLiteral
  split
  · next moved => simp [moved]
  · next inside moved =>
    have scanned := charsLeft_scanWhile_le (withinLiteral quote) (String.singleton quote) inside
    simp only [moved, Outcome.state_ok]
    split
    · simp_all
    · next stop passed =>
      simp only [passed, Outcome.state_ok] at scanned
      split
      · exact Nat.le_trans (by simpa using stop.charsLeft_move_le) scanned
      · exact scanned

theorem charsLeft_readToken_le (cursor : Cursor σ) :
    cursor.readToken.state.charsLeft ≤ cursor.charsLeft := by
  unfold readToken
  split
  · next c here =>
    split
    · exact cursor.charsLeft_readWord_le
    split
    · exact Nat.le_trans (cursor.charsLeft_readLiteral_le c) cursor.charsLeft_move_le
    · simpa [readSymbol] using cursor.charsLeft_move_le
  · exact Nat.le_refl _
  · exact Nat.le_refl _

private theorem lt_of_move_ok {cursor next : Cursor σ} {c : Char} {c? : Option Char} {bound : Nat}
    (here : cursor.spot = .char c) (moved : cursor.move = .ok c? next)
    (le : bound ≤ cursor.move.state.charsLeft) : bound < cursor.charsLeft := by
  have smaller := charsLeft_move_lt here moved
  rw [moved, Outcome.state_ok] at le
  exact Nat.lt_of_le_of_lt le smaller

/-- A token other than the end takes at least its first character. -/
theorem charsLeft_readToken_lt {cursor next : Cursor σ} {token : Token}
    (success : cursor.readToken = .ok token next) (notEnd : token.kind ≠ .endOfInput) :
    next.charsLeft < cursor.charsLeft := by
  unfold readToken at success
  split at success
  · next c here =>
    split at success
    · next start =>
      unfold readWord at success
      cases scanned : cursor.scanWhile (fun c _ => Chars.isWordRest c) "" with
      | error failure after => simp [scanned, Outcome.map] at success
      | ok text after =>
        simp only [scanned, Outcome.map, Outcome.ok.injEq] at success
        rcases success with ⟨_, rfl⟩
        exact charsLeft_scanWhile_lt here (by simp [Chars.isWordRest, start]) scanned
    · have advanced : ∃ c? after, cursor.move = .ok c? after := by
        cases moved : cursor.move with
        | ok c? after => exact ⟨c?, after, rfl⟩
        | error failure after =>
          split at success <;> simp [readLiteral, readSymbol, moved, Outcome.map] at success
      obtain ⟨c?, after, moved⟩ := advanced
      split at success
      · have bound := cursor.charsLeft_readLiteral_le c
        rw [success] at bound
        exact lt_of_move_ok here moved bound
      · unfold readSymbol at success
        simp only [moved, Outcome.map, Outcome.ok.injEq] at success
        rcases success with ⟨_, rfl⟩
        exact charsLeft_move_lt here moved
  · simp only [Outcome.ok.injEq] at success
    exact absurd (success.1 ▸ rfl) notEnd
  · simp only [Outcome.ok.injEq] at success
    exact absurd (success.1 ▸ rfl) notEnd

/-- Reads the next token: what comes before it, then the token itself. -/
def nextToken (cursor : Cursor σ) : Outcome Failure (Cursor σ) Token :=
  match cursor.skipGap with
  | .error failure next => .error failure next
  | .ok () next => next.readToken

theorem charsLeft_nextToken_le (cursor : Cursor σ) :
    cursor.nextToken.state.charsLeft ≤ cursor.charsLeft := by
  have skipped := cursor.charsLeft_skipGap_le
  unfold nextToken
  split
  · simp_all
  · next next passed =>
    rw [passed] at skipped
    exact Nat.le_trans next.charsLeft_readToken_le skipped

theorem charsLeft_nextToken_lt {cursor next : Cursor σ} {token : Token}
    (success : cursor.nextToken = .ok token next) (notEnd : token.kind ≠ .endOfInput) :
    next.charsLeft < cursor.charsLeft := by
  have skipped := cursor.charsLeft_skipGap_le
  unfold nextToken at success
  split at success
  · cases success
  · next passed =>
    rw [passed] at skipped
    exact Nat.lt_of_lt_of_le (charsLeft_readToken_lt success notEnd) skipped

end GrammarCheck.Cursor
