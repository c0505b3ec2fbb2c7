import GrammarCheck.Proofs.Lexing.Standing

/-! # Reading a lexeme

From a position in front of a text a cursor passes the one gap that the lexical grammar allows
there and reads the one lexeme behind it. It stops on the character behind the lexeme.
-/

namespace GrammarCheck.Cursor.StandsAt

open Chars

variable {σ : Type} [CharStream σ] [SteadyStream σ] {cursor : Cursor σ} {position : Position}

/-- A scan that stops at line ends takes the characters it keeps, each one column wide. -/
theorem scanWhile (keep : Char → Bool → Bool) {p : Char → Bool}
    (keeps : ∀ c, keep c (isLineEnd c) = p c) (within : ∀ c, p c = true → isLineEnd c = false)
    {ahead : List Char} (stands : cursor.StandsAt position ahead) (text : String) :
    ∃ next, cursor.scanWhile keep text = .ok (text ++ String.ofList (ahead.takeWhile p)) next ∧
      next.StandsAt (position.right (ahead.takeWhile p).length) (ahead.dropWhile p) := by
  induction ahead generalizing cursor position text with
  | nil =>
    refine ⟨cursor, ?_, stands⟩
    simp [scanWhile_of_ne stands.spot_ne]
  | cons c ahead ih =>
    rw [scanWhile_char stands.spot_char, stands.lineEnded_char, keeps]
    cases kept : p c with
    | false => exact ⟨cursor, by simp [kept], by simpa [kept, Position.right] using stands⟩
    | true =>
      obtain ⟨middle, moved, there⟩ := stands.move_of_solid (within c kept)
      obtain ⟨next, scanned, stops⟩ := ih there (text.push c)
      refine ⟨next, ?_, ?_⟩
      · rw [if_pos rfl, moved, Outcome.andThen_ok, scanned, List.takeWhile_cons_of_pos kept,
          String.ofList_cons, ← String.append_assoc, String.append_singleton]
      · rw [List.takeWhile_cons_of_pos kept, List.dropWhile_cons_of_pos kept]
        simpa only [Position.right, List.length_cons, Nat.add_assoc, Nat.add_comm 1] using stops

/-- A blank or a line end in front of a gap makes the gap longer. -/
private theorem exists_longer_gap {c : Char} {ahead gap rest : List Char}
    (skipped : (isLineEnd c || isBlank c) = true) (same : afterFirst (c :: ahead) = gap ++ rest)
    (isGap : Gap gap rest) (position : Position) : ∃ longer, c :: ahead = longer ++ rest ∧
      Gap longer rest ∧ position.after longer = (position.past c).after gap := by
  have further {gap : List Char} (isGap : Gap gap rest) : Gap (c :: gap) rest := by
    rcases (Bool.or_eq_true _ _).mp skipped with ends | blank
    · exact .lineEnd ends isGap
    · exact .blank blank isGap
  by_cases pair : c = '\r' ∧ ahead.head? = some '\n'
  · obtain ⟨rfl, head⟩ := pair
    obtain ⟨ahead, rfl⟩ := List.head?_eq_some_iff.mp head
    exact ⟨'\r' :: '\n' :: gap, congrArg ('\r' :: '\n' :: ·) same, further (.lineEnd rfl isGap),
      position.after_pair gap⟩
  · have single : c = '\r' → ahead.head? ≠ some '\n' := fun carriage feed => pair ⟨carriage, feed⟩
    rw [afterFirst_cons single] at same
    refine ⟨c :: gap, congrArg (c :: ·) same, further isGap, Position.after_cons _ ?_⟩
    intro carriage feed
    apply single carriage
    rw [same, List.head?_append, feed, Option.some_or]

/-- A cursor passes a comment up to the end of its line. -/
theorem passComment {ahead : List Char} (stands : cursor.StandsAt position ('#' :: ahead)) :
    ∃ body tail text next, ahead = body ++ tail ∧ (∀ c ∈ body, isLineEnd c = false) ∧
      EndsLine tail ∧ cursor.scanWhile withinLine "" = .ok text next ∧
      next.StandsAt (position.right ('#' :: body).length) tail := by
  have inside : ∀ d, withinLine d (isLineEnd d) = !isLineEnd d := fun _ => rfl
  obtain ⟨next, scanned, there⟩ := stands.scanWhile withinLine inside (by simp) ""
  rw [List.takeWhile_cons_of_pos rfl, List.dropWhile_cons_of_pos rfl] at there
  refine ⟨_, _, _, next, ahead.takeWhile_append_dropWhile.symm, ?_, ?_, scanned, there⟩
  · intro c member
    simpa using List.mem_takeWhile_imp member
  · intro c head
    simpa using not_of_head?_dropWhile head

/-- A cursor passes a gap, and stops at a solid place. -/
theorem skipGap {ahead : List Char} (stands : cursor.StandsAt position ahead) :
    ∃ gap rest next, ahead = gap ++ rest ∧ Gap gap rest ∧ Solid rest ∧
      cursor.skipGap = .ok () next ∧ next.StandsAt (position.after gap) rest := by
  -- The gap may be a pair of characters or a whole comment longer than the one behind it.
  induction bound : ahead.length using Nat.strongRecOn generalizing ahead cursor position with
  | ind length ih =>
  subst bound
  cases ahead with
  | nil =>
    exact ⟨[], [], cursor, rfl, .nil _, nofun, skipGap_of_ne stands.spot_ne, stands⟩
  | cons c ahead =>
  rw [skipGap_char stands.spot_char, stands.lineEnded_char]
  cases skipped : isLineEnd c || isBlank c with
  | true =>
    obtain ⟨middle, moved, there⟩ := stands.move
    obtain ⟨gap, rest, next, same, isGap, solid, passed, stops⟩ :=
      ih _ (length_afterFirst_lt c ahead) there rfl
    obtain ⟨longer, whole, isLonger, place⟩ := exists_longer_gap skipped same isGap position
    refine ⟨longer, rest, next, whole, isLonger, solid, ?_, ?_⟩
    · simpa [moved] using passed
    · rwa [place]
  | false =>
  cases comment : isCommentStart c with
  | true =>
    obtain rfl : c = '#' := by simpa [isCommentStart] using comment
    obtain ⟨body, tail, text, middle, rfl, inside, ended, scanned, there⟩ := stands.passComment
    obtain ⟨gap, rest, next, rfl, isGap, solid, passed, stops⟩ :=
      ih tail.length (by simp only [List.length_cons, List.length_append]; omega) there rfl
    have inLine : ∀ c ∈ '#' :: body, isLineEnd c = false := List.forall_mem_cons.mpr ⟨rfl, inside⟩
    refine ⟨('#' :: body) ++ gap, rest, next, ?_, .comment inside ended isGap, solid, ?_, ?_⟩
    · rw [List.append_assoc]
      rfl
    · simpa [scanned] using passed
    · rwa [Position.after_append_of_solid position inLine]
  | false =>
    refine ⟨[], c :: ahead, cursor, rfl, .nil _, ?_, by simp, stands⟩
    rintro d ⟨⟩
    simp [isSolid, skipped, comment]

theorem char?_eq {text : List Char} (stands : cursor.StandsAt position text) :
    cursor.char? = text.head? := by
  rw [char?, stands.spot_eq]
  cases text <;> rfl

theorem tokenHere_eq {text : List Char} (stands : cursor.StandsAt position text)
    (kind : Token.Kind) (lexeme : String) :
    cursor.tokenHere kind lexeme = ⟨position, kind, lexeme⟩ := by
  rw [tokenHere, stands.position_eq]

private theorem readWord {c : Char} {ahead : List Char} (start : isWordStart c = true)
    (stands : cursor.StandsAt position (c :: ahead)) :
    ∃ next, cursor.readWord =
        .ok ⟨position, .identifier, String.ofList (c :: ahead.takeWhile isWordRest)⟩ next ∧
      next.StandsAt (position.right (c :: ahead.takeWhile isWordRest).length)
        (ahead.dropWhile isWordRest) := by
  have kept : isWordRest c = true := by simp [isWordRest, start]
  have within : ∀ d, isWordRest d = true → isLineEnd d = false := fun d rest =>
    not_isLineEnd_of_isWordRest rest
  obtain ⟨next, scanned, there⟩ :=
    stands.scanWhile (fun d _ => isWordRest d) (fun _ => rfl) within ""
  rw [List.takeWhile_cons_of_pos kept] at scanned there
  rw [List.dropWhile_cons_of_pos kept] at there
  refine ⟨next, ?_, there⟩
  rw [Cursor.readWord, scanned, Outcome.map, stands.tokenHere_eq, String.empty_append]

private theorem readLiteral {quote : Char} {ahead : List Char} (isQuote : isQuote quote = true)
    (stands : cursor.StandsAt position (quote :: ahead)) :
    ∃ next, cursor.readLiteral quote = .ok ⟨position, (firstLexeme quote ahead).1,
        String.ofList (firstLexeme quote ahead).2⟩ next ∧
      next.StandsAt (position.right (firstLexeme quote ahead).2.length)
        ((quote :: ahead).drop (firstLexeme quote ahead).2.length) := by
  have solid := not_isLineEnd_of_isSolid (isSolid_of_isQuote isQuote)
  obtain ⟨inside, entered, there⟩ := stands.move_of_solid solid
  obtain ⟨stop, scanned, stops⟩ := there.scanWhile (withinLiteral quote) (fun _ => rfl)
    (fun d within => (withinLiteral_iff.mp within).2) (String.singleton quote)
  have within : ∀ d ∈ ahead.takeWhile fun d => withinLiteral quote d (isLineEnd d),
      withinLiteral quote d (isLineEnd d) = true := by
    intro d member
    simpa using List.mem_takeWhile_imp member
  have ended := @endsLine_of_not_withinLiteral quote ahead
  have split := ahead.takeWhile_append_dropWhile
    (p := fun d => withinLiteral quote d (isLineEnd d))
  rw [Cursor.readLiteral, entered]
  dsimp only
  rw [scanned]
  dsimp only
  rw [stops.char?_eq]
  -- From here on only the two parts of the text matter, not how they were found.
  generalize ahead.takeWhile (fun d => withinLiteral quote d (isLineEnd d)) = body at *
  generalize ahead.dropWhile (fun d => withinLiteral quote d (isLineEnd d)) = behind at *
  subst split
  by_cases closed : behind.head? = some quote
  · obtain ⟨behind, rfl⟩ := List.head?_eq_some_iff.mp closed
    obtain ⟨next, left, ends⟩ := stops.move_of_solid solid
    rw [if_pos closed, left, firstLexeme_closed isQuote within]
    refine ⟨next, ?_, ?_⟩
    · rw [Outcome.map, stands.tokenHere_eq]
      simp [String.ofList_cons, String.ofList_append, ← String.append_singleton,
        String.append_assoc]
    · simpa [Position.right, Nat.add_assoc, Nat.add_comm, Nat.add_left_comm] using ends
  · rw [if_neg closed, firstLexeme_unclosed isQuote within closed (ended closed)]
    refine ⟨stop, ?_, ?_⟩
    · rw [stands.tokenHere_eq, String.ofList_cons]
    · simpa [Position.right, Nat.add_assoc, Nat.add_comm, Nat.add_left_comm] using stops

private theorem readSymbol {c : Char} {ahead : List Char} (solid : isSolid c = true)
    (stands : cursor.StandsAt position (c :: ahead)) :
    ∃ next, cursor.readSymbol c =
        .ok ⟨position, (Token.Kind.ofChar? c).getD .unknown, String.ofList [c]⟩ next ∧
      next.StandsAt (position.right 1) ahead := by
  obtain ⟨next, moved, there⟩ := stands.move_of_solid (not_isLineEnd_of_isSolid solid)
  refine ⟨next, ?_, there⟩
  rw [Cursor.readSymbol, moved, Outcome.map, stands.tokenHere_eq, String.singleton_eq_ofList]

/-- At a solid character a cursor reads the first lexeme and stops behind it. -/
theorem readToken {c : Char} {ahead : List Char} (solid : isSolid c = true)
    (stands : cursor.StandsAt position (c :: ahead)) :
    ∃ next, cursor.readToken = .ok ⟨position, (firstLexeme c ahead).1,
        String.ofList (firstLexeme c ahead).2⟩ next ∧
      next.StandsAt (position.right (firstLexeme c ahead).2.length)
        ((c :: ahead).drop (firstLexeme c ahead).2.length) := by
  rw [Cursor.readToken, stands.spot_char]
  dsimp only
  by_cases start : isWordStart c = true
  · obtain ⟨next, read, there⟩ := stands.readWord start
    have split := ahead.takeWhile_append_dropWhile (p := isWordRest)
    have behind : (c :: ahead).drop (c :: ahead.takeWhile isWordRest).length =
        ahead.dropWhile isWordRest := by
      rw [List.length_cons, List.drop_succ_cons]
      exact (congrArg (List.drop _) split).symm.trans List.drop_left
    rw [if_pos start, firstLexeme, if_pos start, behind]
    exact ⟨next, read, there⟩
  by_cases quote : isQuote c = true
  · rw [if_neg start, if_pos quote]
    exact stands.readLiteral quote
  · rw [if_neg start, if_neg quote, firstLexeme, if_neg start, if_neg quote]
    exact stands.readSymbol solid

/-- A token is read behind the gap in front of it, or the end of the text is. -/
theorem nextToken {ahead : List Char} (stands : cursor.StandsAt position ahead) :
    (∃ next, Gap ahead [] ∧
      cursor.nextToken = .ok ⟨position.after ahead, .endOfInput, ""⟩ next ∧
      next.StandsAt (position.after ahead) []) ∨
    (∃ gap text behind kind next, ahead = gap ++ (text ++ behind) ∧ Gap gap (text ++ behind) ∧
      kind.Spells text behind ∧
      cursor.nextToken = .ok ⟨position.after gap, kind, String.ofList text⟩ next ∧
      next.StandsAt ((position.after gap).right text.length) behind) := by
  obtain ⟨gap, rest, middle, rfl, isGap, solid, passed, there⟩ := stands.skipGap
  rw [Cursor.nextToken, passed]
  dsimp only
  cases rest with
  | nil =>
    rw [List.append_nil]
    refine .inl ⟨middle, isGap, ?_, there⟩
    rw [Cursor.readToken, there.spot_finish]
    dsimp only
    rw [there.tokenHere_eq]
  | cons c rest =>
    obtain ⟨next, read, ends⟩ := there.readToken (solid c rfl)
    obtain ⟨behind, split, spells⟩ := spells_firstLexeme (solid c rfl) rest
    rw [split] at isGap ends
    rw [List.drop_left] at ends
    exact .inr ⟨gap, _, behind, _, next, congrArg (gap ++ ·) split, isGap, spells, read, ends⟩

end GrammarCheck.Cursor.StandsAt
