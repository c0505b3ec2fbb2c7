import GrammarCheck.Bytes.Buffered
import GrammarCheck.Chars.Stream

/-! # UTF-8 text read line by line

A byte buffer becomes a character stream by decoding one line at a time. A line that is not UTF-8
is dropped and reported. A read that fails inside a line keeps what it has when that much is UTF-8,
so the characters before the failure are handed out by later calls. A byte order mark is skipped
where it opens the first line that was read without a failure.
-/

namespace GrammarCheck

/-- The mark that may open a text and is not part of it. -/
def byteOrderMark : Char := '\ufeff'

/-- Decoded text up to an offset, with the bytes that follow it. -/
structure Utf8Lines where
  buffer : Buffered
  /-- The line read last. -/
  chunk : String := ""
  /-- Where in `chunk` the next character starts. -/
  offset : String.Pos.Raw := 0
  /-- A line, or the end of the bytes, has been read without a failure. -/
  started : Bool := false
  /-- The end of the bytes has been read. -/
  exhausted : Bool := false

namespace Utf8Lines

def ofFeed (capacity : Nat) (feed : Feed) : Utf8Lines :=
  { buffer := { capacity, feed } }

def charsLeft (lines : Utf8Lines) : Nat :=
  lines.chunk.utf8ByteSize - lines.offset.byteIdx + lines.buffer.bytesLeft

/-- The offset of a line's first character: behind the byte order mark of the first line. -/
def textStart (started : Bool) (chunk : String) : String.Pos.Raw :=
  if !started && String.Pos.Raw.get? chunk 0 == some byteOrderMark then
    ⟨byteOrderMark.utf8Size⟩
  else 0

/-- Replaces the chunk by the next line of the buffer. -/
def loadLine (lines : Utf8Lines) : Outcome IoFailure Utf8Lines Unit :=
  let line := lines.buffer.readLine
  match String.fromUTF8? line.bytes.toByteArray with
  | none =>
    .error (line.failure?.getD .invalidUtf8)
      { lines with buffer := line.rest, chunk := "", offset := 0 }
  | some chunk =>
    match line.failure? with
    | some failure => .error failure { lines with buffer := line.rest, chunk, offset := 0 }
    | none =>
      .ok ()
        { buffer := line.rest
          chunk
          offset := textStart lines.started chunk
          started := true
          exhausted := line.bytes.isEmpty }

theorem utf8ByteSize_of_fromUTF8? {bytes : List UInt8} {chunk : String}
    (decoded : String.fromUTF8? bytes.toByteArray = some chunk) :
    chunk.utf8ByteSize = bytes.length := by
  unfold String.fromUTF8? at decoded
  split at decoded
  · cases decoded
    simp [String.fromUTF8]
  · cases decoded

theorem charsLeft_loadLine_le (lines : Utf8Lines) :
    lines.loadLine.state.charsLeft ≤ lines.buffer.bytesLeft := by
  have bound := lines.buffer.length_readLine_le
  unfold loadLine
  dsimp only
  split
  · simp only [charsLeft, Outcome.state_error, String.utf8ByteSize_empty]
    omega
  · next chunk decoded =>
    have size := utf8ByteSize_of_fromUTF8? decoded
    split <;> simp only [charsLeft, Outcome.state_error, Outcome.state_ok] <;> omega

/-- A line that was read without a failure has bytes, or it is the end. -/
theorem bytesLeft_loadLine_lt {lines loaded : Utf8Lines}
    (success : lines.loadLine = .ok () loaded) :
    loaded.exhausted = true ∨ loaded.buffer.bytesLeft < lines.buffer.bytesLeft := by
  have bound := lines.buffer.length_readLine_le
  unfold loadLine at success
  dsimp only at success
  split at success
  · cases success
  · split at success
    · cases success
    · cases success
      by_cases empty : lines.buffer.readLine.bytes = []
      · simp [empty]
      · have := List.length_pos_iff.mpr empty
        right
        dsimp only
        omega

/-- Loads lines until a character is at hand or the bytes have ended. -/
def fill (lines : Utf8Lines) : Outcome IoFailure Utf8Lines Unit :=
  if _finished : lines.exhausted = true then .ok () lines
  else if lines.offset < lines.chunk.rawEndPos then .ok () lines
  else
    match _loaded : lines.loadLine with
    | .error failure rest => .error failure rest
    | .ok () rest => fill rest
termination_by lines.buffer.bytesLeft + (if lines.exhausted then 0 else 1)
decreasing_by
  have smaller := bytesLeft_loadLine_lt _loaded
  have bound := charsLeft_loadLine_le lines
  simp only [_loaded, Outcome.state_ok, charsLeft] at bound
  rcases smaller with finished | smaller
  · simp only [finished, _finished, Bool.false_eq_true, ↓reduceIte]
    omega
  · simp only [_finished, Bool.false_eq_true, ↓reduceIte]
    split <;> omega

theorem charsLeft_fill_le (lines : Utf8Lines) : lines.fill.state.charsLeft ≤ lines.charsLeft := by
  fun_induction fill lines with
  | case1 => exact Nat.le_refl _
  | case2 => exact Nat.le_refl _
  | case3 lines unfinished used failure rest loaded =>
    have bound := charsLeft_loadLine_le lines
    rw [loaded] at bound
    simp only [Outcome.state_error, charsLeft] at *
    omega
  | case4 lines unfinished used rest loaded ih =>
    have bound := charsLeft_loadLine_le lines
    rw [loaded] at bound
    simp only [Outcome.state_ok, charsLeft] at *
    omega

def peek (lines : Utf8Lines) : Outcome IoFailure Utf8Lines (Option Char) :=
  match lines.fill with
  | .error failure rest => .error failure rest
  | .ok () rest => .ok (String.Pos.Raw.get? rest.chunk rest.offset) rest

def next (lines : Utf8Lines) : Outcome IoFailure Utf8Lines (Option Char) :=
  match lines.peek with
  | .error failure rest => .error failure rest
  | .ok none rest => .ok none rest
  | .ok (some c) rest => .ok (some c) { rest with offset := rest.offset + c }

private theorem size_utf8Encode_cons (c : Char) (cs : List Char) :
    (c :: cs).utf8Encode.size = c.utf8Size + cs.utf8Encode.size := by
  rw [List.utf8Encode_cons, ByteArray.size_append]
  simp [List.utf8Encode, String.length_utf8EncodeChar]

private theorem utf8GetAux?_bound {cs : List Char} {start offset : String.Pos.Raw} {c : Char}
    (found : String.Pos.Raw.utf8GetAux? cs start offset = some c) :
    offset.byteIdx + c.utf8Size ≤ start.byteIdx + cs.utf8Encode.size := by
  induction cs generalizing start with
  | nil =>
    change none = some c at found
    cases found
  | cons d cs ih =>
    rw [size_utf8Encode_cons]
    change (if start = offset then some d else String.Pos.Raw.utf8GetAux? cs (start + d) offset) =
      some c at found
    split at found
    · cases found
      subst start
      omega
    · have bound := ih found
      rw [String.Pos.Raw.byteIdx_add_char] at bound
      omega

/-- A character that a text has at an offset ends within the text. -/
theorem get?_bound {text : String} {offset : String.Pos.Raw} {c : Char}
    (found : String.Pos.Raw.get? text offset = some c) :
    offset.byteIdx + c.utf8Size ≤ text.utf8ByteSize := by
  have bound := utf8GetAux?_bound found
  rw [String.utf8Encode_toList, String.size_toByteArray] at bound
  simpa using bound

theorem charsLeft_peek_le (lines : Utf8Lines) : lines.peek.state.charsLeft ≤ lines.charsLeft := by
  have bound := lines.charsLeft_fill_le
  unfold peek
  split <;> simp_all

theorem charsLeft_next_lt {lines rest : Utf8Lines} {c : Char}
    (success : lines.next = .ok (some c) rest) : rest.charsLeft < lines.charsLeft := by
  have bound := lines.charsLeft_fill_le
  unfold next peek at success
  cases filled : lines.fill with
  | error failure after => simp [filled] at success
  | ok _ after =>
    rw [filled] at bound success
    dsimp only at success
    cases found : String.Pos.Raw.get? after.chunk after.offset with
    | none => simp [found] at success
    | some d =>
      simp only [found, Outcome.ok.injEq, Option.some.injEq] at success
      rcases success with ⟨rfl, rfl⟩
      have inside := get?_bound found
      have positive := d.utf8Size_pos
      simp only [charsLeft, Outcome.state_ok, String.Pos.Raw.byteIdx_add_char] at *
      omega

theorem charsLeft_next_le (lines : Utf8Lines) : lines.next.state.charsLeft ≤ lines.charsLeft := by
  cases taken : lines.next with
  | ok c? rest =>
    cases c? with
    | some c => exact Nat.le_of_lt (charsLeft_next_lt taken)
    | none =>
      have bound := lines.charsLeft_peek_le
      unfold next at taken
      split at taken <;> simp_all
  | error failure rest =>
    have bound := lines.charsLeft_peek_le
    unfold next at taken
    split at taken <;> simp_all

instance : CharStream Utf8Lines where
  next := next
  peek := peek
  charsLeft := charsLeft
  next_le := charsLeft_next_le
  peek_le := charsLeft_peek_le
  next_lt := charsLeft_next_lt

end Utf8Lines

end GrammarCheck
