import GrammarCheck.Proofs.Chars.FailedReads

/-! # Offsets between characters

What is left of a decoded line is told by an offset in its bytes. Lines are dropped, cut off by
failed reads and loaded again, and a mark in front of the first one is skipped. Still the offset is
always within its line and between two characters of it, so the line can be parted there. Taking a
character moves the offset from one such place to the next.
-/

namespace GrammarCheck.Utf8Lines

open CharStream (Call after ask)

variable {lines : Utf8Lines} {front : List Char}

namespace GoesOn

/-- What is left of the chunk stands behind the characters that end at the offset. -/
private theorem exists_parts (goesOn : lines.GoesOn front) : ∃ before,
    lines.chunk = String.ofList (before ++ front) ∧
      lines.offset = (String.ofList before).rawEndPos := by
  obtain ⟨before, chunk, offset⟩ := goesOn
  refine ⟨before, chunk, offset.trans ?_⟩
  rw [← utf8ByteSize_ofList]
  rfl

/-- A chunk can be parted at the offset. -/
theorem isValid (goesOn : lines.GoesOn front) : lines.offset.IsValid lines.chunk := by
  obtain ⟨before, chunk, offset⟩ := goesOn.exists_parts
  rw [chunk, String.ofList_append]
  exact String.Pos.Raw.isValid_iff_exists_append.mpr ⟨_, _, rfl, offset⟩

end GoesOn

/-- Whatever comes of the next line, the offset is at its start or behind the mark that opens it. -/
private theorem exists_goesOn_loadLine (lines : Utf8Lines) :
    ∃ front, lines.loadLine.state.GoesOn front := by
  unfold loadLine
  dsimp only
  split
  · exact ⟨_, goesOn_zero ..⟩
  · split
    · exact ⟨_, goesOn_zero ..⟩
    · exact ⟨_, goesOn_textStart ..⟩

/-- To look for a character leaves the offset where it is, or goes on with another line. -/
private theorem GoesOn.exists_goesOn_fill (goesOn : lines.GoesOn front) :
    ∃ front, lines.fill.state.GoesOn front := by
  fun_induction fill lines generalizing front with
  | case1 => exact ⟨front, goesOn⟩
  | case2 => exact ⟨front, goesOn⟩
  | case3 lines unfinished used failure rest failed =>
    have loaded := lines.exists_goesOn_loadLine
    rwa [failed] at loaded
  | case4 lines unfinished used rest loaded ih =>
    have behind := lines.exists_goesOn_loadLine
    rw [loaded] at behind
    obtain ⟨front, behind⟩ := behind
    exact ih behind

/-- To take what is shown moves the offset behind it. -/
theorem GoesOn.next_of_fill {filled : Utf8Lines} (goesOn : filled.GoesOn front)
    (ready : lines.fill = .ok () filled) : ∃ before,
      filled.chunk = String.ofList (before ++ front) ∧
      filled.offset = (String.ofList before).rawEndPos ∧
      lines.peek = .ok front.head? filled ∧
      lines.next = .ok front.head?
        { filled with offset := (String.ofList (before ++ front.take 1)).rawEndPos } := by
  obtain ⟨before, chunk, offset⟩ := goesOn.exists_parts
  have shown : lines.peek = .ok front.head? filled := by
    rw [peek, ready, ← goesOn.get?_eq]
  refine ⟨before, chunk, offset, shown, ?_⟩
  rw [next, shown]
  cases front with
  | nil =>
    rw [List.take_nil, List.append_nil, ← offset]
    rfl
  | cons c front =>
    have further : filled.offset + c = (String.ofList (before ++ [c])).rawEndPos := by
      rw [offset, String.ofList_append]
      apply String.Pos.Raw.ext
      simp
    rw [List.take_succ_cons, List.take_zero, ← further]
    rfl

/-- Where looking for a character fails, both calls do and leave the same behind. -/
private theorem calls_of_failed_fill {failure : IoFailure} {rest : Utf8Lines}
    (failed : lines.fill = .error failure rest) :
    lines.peek = .error failure rest ∧ lines.next = .error failure rest := by
  have shown : lines.peek = .error failure rest := by rw [peek, failed]
  exact ⟨shown, by rw [next, shown]⟩

/-- No call leaves the offset within a character. -/
private theorem GoesOn.exists_goesOn_ask (goesOn : lines.GoesOn front) (call : Call) :
    ∃ front, (ask call lines).state.GoesOn front := by
  obtain ⟨left, here⟩ := goesOn.exists_goesOn_fill
  cases filled : lines.fill with
  | error failure rest =>
    rw [filled] at here
    obtain ⟨shown, taken⟩ := calls_of_failed_fill filled
    have same : ask call lines = .error failure rest := by cases call <;> assumption
    exact ⟨left, same ▸ here⟩
  | ok _ rest =>
    rw [filled] at here
    obtain ⟨before, chunk, -, shown, taken⟩ := here.next_of_fill filled
    cases call with
    | peek =>
      have same : ask .peek lines = .ok left.head? rest := shown
      exact ⟨left, same ▸ here⟩
    | next =>
      have same : ask .next lines = _ := taken
      refine ⟨left.drop 1, before ++ left.take 1, ?_, ?_⟩
      · rw [same, List.append_assoc, List.take_append_drop]
        exact chunk
      · rw [same, ← utf8ByteSize_ofList]
        rfl

theorem GoesOn.exists_goesOn_after (goesOn : lines.GoesOn front) (calls : List Call) :
    ∃ front, (after calls lines).GoesOn front := by
  induction calls generalizing lines front with
  | nil => exact ⟨front, goesOn⟩
  | cons call calls ih =>
    obtain ⟨front, behind⟩ := goesOn.exists_goesOn_ask call
    exact ih behind

/-- Whatever the feed, the blocks, the failures and the calls, the offset is within the chunk and on
the boundary of a character. The next call finds there what is left of a chunk and shows its first
character, and to take that moves the offset to the boundary behind it. Or the call fails, and the
offset is on a boundary of what that leaves of the line. -/
theorem offset_stays_on_boundaries (capacity : Nat) (feed : Feed) (calls : List Call) :
    let lines := after calls (ofFeed capacity feed)
    (lines.offset ≤ lines.chunk.rawEndPos ∧ lines.offset.IsValid lines.chunk) ∧
      ((∃ filled before front, lines.fill = .ok () filled ∧
          filled.chunk = String.ofList (before ++ front) ∧
          filled.offset = (String.ofList before).rawEndPos ∧
          lines.peek = .ok front.head? filled ∧
          lines.next = .ok front.head?
            { filled with offset := (String.ofList (before ++ front.take 1)).rawEndPos }) ∨
        ∃ failure rest, lines.fill = .error failure rest ∧
          rest.offset ≤ rest.chunk.rawEndPos ∧ rest.offset.IsValid rest.chunk ∧
          lines.peek = .error failure rest ∧ lines.next = .error failure rest) := by
  intro lines
  have start : (ofFeed capacity feed).GoesOn [] := ⟨[], rfl, rfl⟩
  obtain ⟨front, goesOn⟩ := start.exists_goesOn_after calls
  have valid := goesOn.isValid
  refine ⟨⟨valid.le_rawEndPos, valid⟩, ?_⟩
  obtain ⟨left, here⟩ := goesOn.exists_goesOn_fill
  cases filled : lines.fill with
  | error failure rest =>
    rw [filled] at here
    have within := here.isValid
    exact .inr ⟨failure, rest, rfl, within.le_rawEndPos, within, calls_of_failed_fill filled⟩
  | ok _ rest =>
    rw [filled] at here
    obtain ⟨before, parts⟩ := here.next_of_fill filled
    exact .inl ⟨rest, before, left, rfl, parts⟩

end GrammarCheck.Utf8Lines
