import GrammarCheck.Chars.Utf8Lines
import GrammarCheck.Proofs.Chars.Encoding
import GrammarCheck.Proofs.Chars.Steady
import Mathlib.Logic.Basic

/-! # Decoded lines are the text

A buffer that gives out the bytes of a text serves the text, less the byte order mark that may open
it. Neither the blocks that the bytes are read in nor the lines that they are decoded in show.
-/

namespace GrammarCheck

def withoutMark : List Char → List Char
  | [] => []
  | c :: text => if c = byteOrderMark then text else c :: text

private theorem withoutMark_append {front : List Char} (back : List Char) (some : front ≠ []) :
    withoutMark (front ++ back) = withoutMark front ++ back := by
  cases front with
  | nil => contradiction
  | cons c front =>
    rw [List.cons_append, withoutMark, withoutMark]
    split <;> rfl

/-- The mark is in the first line, if it is in the text. -/
private theorem withoutMark_cutLine (text : List Char) :
    withoutMark (cutLine text).1 ++ (cutLine text).2 = withoutMark text := by
  by_cases last : (cutLine text).1 = []
  · rw [cutLine_eq_nil last]
    rfl
  · rw [← withoutMark_append _ last, cutLine_append]

namespace Buffered

private theorem capacity_refill (buffer : Buffered) :
    buffer.refill.state.capacity = buffer.capacity := by
  unfold refill
  split
  · split <;> rfl
  · rfl

theorem capacity_readLine (buffer : Buffered) :
    buffer.readLine.rest.capacity = buffer.capacity := by
  have same := buffer.capacity_refill
  fun_induction readLine buffer with
  | case1 buffer failure rest refilled
  | case2 buffer rest refilled line pending split
  | case3 buffer rest refilled split empty =>
    rwa [refilled] at same
  | case4 buffer rest refilled split nonempty further ih =>
    rw [refilled] at same
    exact (ih (capacity_refill _)).trans same

end Buffered

namespace Utf8Lines

variable {lines : Utf8Lines} {front back text : List Char}

/-- A chunk starts at its first character, or behind the mark if it is the first chunk. -/
theorem textStart_ofList (started : Bool) (text : List Char) :
    ∃ before, text = before ++ (if started then text else withoutMark text) ∧
      textStart started (String.ofList text) = ⟨(utf8Bytes before).length⟩ := by
  have head : String.Pos.Raw.get? (String.ofList text) 0 = text.head? :=
    get?_ofList_append [] text
  rw [textStart, head]
  cases started with
  | true => exact ⟨[], rfl, rfl⟩
  | false =>
    cases text with
    | nil => exact ⟨[], rfl, rfl⟩
    | cons c text =>
      by_cases mark : c = byteOrderMark
      · subst mark
        exact ⟨[byteOrderMark], rfl, rfl⟩
      · refine ⟨[], ?_, ?_⟩
        · simp [withoutMark, mark]
        · simp [mark]

/-- What is left of the chunk. The offset is that of the first character of `front`, or that of the
end of the chunk. -/
def GoesOn (lines : Utf8Lines) (front : List Char) : Prop :=
  ∃ before, lines.chunk = String.ofList (before ++ front) ∧
    lines.offset = ⟨(utf8Bytes before).length⟩

namespace GoesOn

theorem get?_eq (goesOn : lines.GoesOn front) :
    String.Pos.Raw.get? lines.chunk lines.offset = front.head? := by
  obtain ⟨before, chunk, offset⟩ := goesOn
  rw [chunk, offset]
  exact get?_ofList_append before front

/-- The chunk is used up just if nothing is left of it. -/
theorem offset_lt_iff (goesOn : lines.GoesOn front) :
    lines.offset < lines.chunk.rawEndPos ↔ front ≠ [] := by
  obtain ⟨before, chunk, offset⟩ := goesOn
  rw [chunk, offset, String.Pos.Raw.lt_iff, String.byteIdx_rawEndPos, utf8ByteSize_ofList,
    utf8Bytes_append, List.length_append, Ne, ← utf8Bytes_eq_nil, ← List.length_eq_zero_iff]
  dsimp only
  omega

/-- To move the offset behind a character takes that character. -/
theorem advance {c : Char} (goesOn : lines.GoesOn (c :: front)) :
    GoesOn { lines with offset := lines.offset + c } front := by
  obtain ⟨before, chunk, offset⟩ := goesOn
  refine ⟨before ++ [c], ?_, ?_⟩
  · rw [List.append_assoc]
    exact chunk
  · rw [offset, utf8Bytes_append, List.length_append, utf8Bytes_cons, utf8Bytes_nil,
      List.append_nil, String.length_utf8EncodeChar]
    rfl

end GoesOn

/-- A line is loaded as far as it can be read, unless it cannot be decoded. -/
theorem exists_loadLine_eq (lines : Utf8Lines) (positive : 0 < lines.buffer.capacity) :
    ∃ rest : Buffered, rest.toFeed = lines.buffer.toFeed.line.rest ∧ 0 < rest.capacity ∧
      lines.loadLine =
        match String.fromUTF8? lines.buffer.toFeed.line.bytes.toByteArray with
        | none =>
          .error (lines.buffer.toFeed.line.failure?.getD .invalidUtf8)
            { lines with buffer := rest, chunk := "", offset := 0 }
        | some chunk =>
          match lines.buffer.toFeed.line.failure? with
          | some failure => .error failure { lines with buffer := rest, chunk, offset := 0 }
          | none =>
            .ok ()
              { buffer := rest
                chunk
                offset := textStart lines.started chunk
                started := true
                exhausted := lines.buffer.toFeed.line.bytes.isEmpty } := by
  have line := lines.buffer.map_toFeed_readLine positive
  rw [← Buffered.capacity_readLine] at positive
  rw [← line]
  exact ⟨lines.buffer.readLine.rest, rfl, positive, rfl⟩

/-- The chunk goes on with `front`, and the bytes of `back` are still to be read. -/
structure Holds (lines : Utf8Lines) (front back : List Char) : Prop where
  positive : 0 < lines.buffer.capacity
  behind : ∃ before, lines.chunk = String.ofList (before ++ front) ∧
    lines.offset = ⟨(utf8Bytes before).length⟩
  bytes : lines.buffer.toFeed = Feed.ofBytes (utf8Bytes back)
  ended : lines.exhausted = true → back = []

/-- What the bytes of `back` will be read as. -/
def pending (lines : Utf8Lines) (back : List Char) : List Char :=
  if lines.started then back else withoutMark back

theorem pending_nil (lines : Utf8Lines) : lines.pending [] = [] :=
  ite_self _

namespace Holds

theorem goesOn (holds : lines.Holds front back) : lines.GoesOn front :=
  holds.behind

/-- To move the offset behind a character takes that character. -/
theorem advance {c : Char} (holds : lines.Holds (c :: front) back) :
    Holds { lines with offset := lines.offset + c } front back where
  positive := holds.positive
  behind := holds.goesOn.advance
  bytes := holds.bytes
  ended := holds.ended

/-- The next line takes the place of a chunk that is used up. -/
theorem loadLine (holds : lines.Holds [] back) :
    ∃ next front behind, lines.loadLine = .ok () next ∧ next.Holds front behind ∧
      front ++ next.pending behind = lines.pending back := by
  obtain ⟨buffer, rest, positive, loaded⟩ := lines.exists_loadLine_eq holds.positive
  rw [holds.bytes, line_utf8Bytes] at rest loaded
  dsimp only at loaded
  rw [fromUTF8?_utf8Bytes] at loaded
  obtain ⟨before, whole, start⟩ := textStart_ofList lines.started (cutLine back).1
  refine ⟨_, if lines.started then (cutLine back).1 else withoutMark (cutLine back).1,
    (cutLine back).2, loaded, ⟨positive, ⟨before, ?_, start⟩, rest, fun ended => ?_⟩, ?_⟩
  · rw [← whole]
  · rw [cutLine_eq_nil (utf8Bytes_eq_nil.mp (List.isEmpty_iff.mp ended))]
    rfl
  · change _ ++ (cutLine back).2 = lines.pending back
    rw [pending]
    split
    · exact cutLine_append back
    · exact withoutMark_cutLine back

end Holds

/-- The lines come to the text, front of the chunk first. -/
def Serves (lines : Utf8Lines) (text : List Char) : Prop :=
  ∃ front back, lines.Holds front back ∧ text = front ++ lines.pending back

/-- A filled chunk starts with the next character of the text. -/
theorem Serves.fill (serves : lines.Serves text) :
    ∃ next front back, lines.fill = .ok () next ∧ next.Holds front back ∧
      text = front ++ next.pending back ∧ front.head? = text.head? := by
  obtain ⟨front, back, holds, rfl⟩ := serves
  fun_induction Utf8Lines.fill lines generalizing front back with
  | case1 lines finished =>
    refine ⟨lines, front, back, rfl, holds, rfl, ?_⟩
    rw [holds.ended finished, pending_nil, List.append_nil]
  | case2 lines unfinished unused =>
    refine ⟨lines, front, back, rfl, holds, rfl, ?_⟩
    obtain ⟨c, front, rfl⟩ := List.exists_cons_of_ne_nil (holds.goesOn.offset_lt_iff.mp unused)
    rfl
  | case3 lines unfinished used failure rest failed =>
    obtain rfl := not_not.mp (mt holds.goesOn.offset_lt_iff.mpr used)
    obtain ⟨next, front, behind, loaded, -⟩ := holds.loadLine
    rw [loaded] at failed
    contradiction
  | case4 lines unfinished used rest loaded ih =>
    obtain rfl := not_not.mp (mt holds.goesOn.offset_lt_iff.mpr used)
    obtain ⟨next, front, behind, loaded', holds', same⟩ := holds.loadLine
    obtain ⟨-, rfl⟩ := Outcome.ok.inj (loaded'.symm.trans loaded)
    rw [List.nil_append, ← same]
    exact ih front behind holds'

/-- The next character of the text is shown. -/
theorem Serves.peek (serves : lines.Serves text) :
    ∃ next front back, lines.peek = .ok text.head? next ∧ next.Holds front back ∧
      text = front ++ next.pending back ∧ front.head? = text.head? := by
  obtain ⟨next, front, back, filled, holds, rfl, head⟩ := serves.fill
  refine ⟨next, front, back, ?_, holds, rfl, head⟩
  rw [Utf8Lines.peek, filled, ← head, ← holds.goesOn.get?_eq]

instance : SteadyStream Utf8Lines where
  Serves := Serves
  next_nil {lines} serves := by
    obtain ⟨next, front, back, shown, holds, same, -⟩ := serves.peek
    refine ⟨next, ?_, front, back, holds, same⟩
    change lines.next = _
    rw [Utf8Lines.next, shown]
    rfl
  next_cons {lines c text} serves := by
    obtain ⟨next, front, back, shown, holds, same, head⟩ := serves.peek
    obtain ⟨front, rfl⟩ := List.head?_eq_some_iff.mp head
    refine ⟨{ next with offset := next.offset + c }, ?_, front, back, holds.advance, ?_⟩
    · change lines.next = _
      rw [Utf8Lines.next, shown]
      rfl
    · exact (List.cons.inj same).2
  peek_head {lines text} serves := by
    obtain ⟨next, front, back, shown, holds, same, -⟩ := serves.peek
    exact ⟨next, shown, front, back, holds, same⟩

/-- The bytes of a text serve it, less its byte order mark, whatever the blocks. -/
theorem serves_ofFeed (text : String) {capacity : Nat} (positive : 0 < capacity) :
    SteadyStream.Serves (ofFeed capacity (Feed.ofBytes text.toUTF8.data.toList))
      (withoutMark text.toList) := by
  refine ⟨[], text.toList, ⟨positive, ⟨[], rfl, rfl⟩, ?_, nofun⟩, rfl⟩
  rw [data_toUTF8]
  rfl

end Utf8Lines

end GrammarCheck
