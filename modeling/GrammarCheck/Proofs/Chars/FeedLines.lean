import GrammarCheck.Proofs.Chars.Decoding
import GrammarCheck.Proofs.Chars.Scripted

/-! # Feeds whose reads fail

A feed is cut into lines by its line feeds and by the reads that fail. A line that can be decoded is
handed out, behind its failure if it has one, and of a line that cannot be decoded only the failure
is seen. A byte order mark is skipped where it opens the first sound line, one that was read without
a failure and can be decoded, and nowhere else.
-/

namespace GrammarCheck

namespace Feed

private theorem length_rest_line_le (feed : Feed) : feed.line.rest.length ≤ feed.length := by
  fun_induction line feed with
  | case1 => exact Nat.le_refl _
  | case2 failure rest => exact Nat.le_succ _
  | case3 rest => exact Nat.le_succ _
  | case4 byte rest goesOn further ih => exact Nat.le_succ_of_le ih

private theorem length_rest_line_lt (item : Except IoFailure UInt8) (feed : Feed) :
    (line (item :: feed)).rest.length < (item :: feed).length := by
  rw [line.eq_def]
  split
  · contradiction
  · next same =>
    cases same
    exact Nat.lt_succ_self _
  · next same =>
    cases same
    split
    · exact Nat.lt_succ_self _
    · exact Nat.lt_succ_of_le (length_rest_line_le _)

/-- A line with neither bytes nor a failure is the end of the feed. -/
private theorem eq_nil_of_line {feed : Feed} (empty : feed.line.bytes = [])
    (succeeded : feed.line.failure? = none) : feed = [] := by
  fun_cases line feed with
  | case1 => rfl
  | case2 => contradiction
  | case3 => contradiction
  | case4 byte rest goesOn further => simp [line, goesOn] at empty

/-- The lines of a feed, each as far as it can be read, to the end of the feed. -/
def lines : Feed → List (Line Unit)
  | [] => []
  | item :: feed =>
    (line (item :: feed)).map (fun _ => ()) :: lines (line (item :: feed)).rest
termination_by feed => feed.length
decreasing_by exact length_rest_line_lt _ _

namespace Line

variable {α : Type}

def text? (line : Line α) : Option (List Char) :=
  (String.fromUTF8? line.bytes.toByteArray).map String.toList

def sound (line : Line α) : Bool :=
  line.text?.isSome && line.failure?.isNone

/-- What comes of a line. -/
def handed (line : Line α) : List (Except IoFailure Char) :=
  match line.text? with
  | none => [.error (line.failure?.getD .invalidUtf8)]
  | some text => line.failure?.toList.map .error ++ text.map .ok

/-- A line that can be decoded is the encoding of its text. -/
theorem utf8Bytes_of_text? {line : Line α} {text : List Char} (decodes : line.text? = some text) :
    utf8Bytes text = line.bytes := by
  obtain ⟨chunk, decoded, rfl⟩ := Option.map_eq_some_iff.mp decodes
  exact utf8Bytes_of_fromUTF8? decoded

end Line

def skipMark : List (Except IoFailure Char) → List (Except IoFailure Char)
  | .ok c :: items => if c = byteOrderMark then items else .ok c :: items
  | items => items

/-- What comes of lines: all that is handed of them, less the mark in front of the first sound one,
unless there was a sound line before them. -/
def decoded (started : Bool) (lines : List (Line Unit)) : List (Except IoFailure Char) :=
  if started then lines.flatMap Line.handed
  else
    (lines.takeWhile fun line => !line.sound).flatMap Line.handed ++
      skipMark ((lines.dropWhile fun line => !line.sound).flatMap Line.handed)

variable {line : Line Unit} {lines : List (Line Unit)} {text : List Char}

private theorem skipMark_append {text : List Char} (some : text ≠ [])
    (items : List (Except IoFailure Char)) :
    skipMark (text.map .ok ++ items) = (withoutMark text).map .ok ++ items := by
  cases text with
  | nil => contradiction
  | cons c text =>
    rw [List.map_cons, List.cons_append, skipMark, withoutMark]
    split <;> rfl

theorem decoded_nil (started : Bool) : decoded started [] = [] := by
  cases started <;> rfl

private theorem decoded_of_unsound (unsound : line.sound = false) (started : Bool) :
    decoded started (line :: lines) = line.handed ++ decoded started lines := by
  cases started with
  | true => rfl
  | false => simp [decoded, unsound]

/-- A line that cannot be decoded is lost, and no mark is looked for. -/
private theorem decoded_of_undecodable (undecodable : line.text? = none) (started : Bool) :
    decoded started (line :: lines) =
      .error (line.failure?.getD .invalidUtf8) :: decoded started lines := by
  have unsound : line.sound = false := by simp [Line.sound, undecodable]
  rw [decoded_of_unsound unsound, Line.handed, undecodable]
  rfl

/-- A line that was cut off by a failure comes behind it as it is. -/
private theorem decoded_of_failed {failure : IoFailure} (decodes : line.text? = some text)
    (failed : line.failure? = some failure) (started : Bool) :
    decoded started (line :: lines) =
      .error failure :: (text.map .ok ++ decoded started lines) := by
  have unsound : line.sound = false := by simp [Line.sound, failed]
  rw [decoded_of_unsound unsound, Line.handed, decodes, failed]
  rfl

private theorem decoded_of_sound (decodes : line.text? = some text)
    (succeeded : line.failure? = none)
    (nonempty : text ≠ []) (started : Bool) : decoded started (line :: lines) =
      (if started then text else withoutMark text).map .ok ++ decoded true lines := by
  have handed : line.handed = text.map .ok := by simp [Line.handed, decodes, succeeded]
  have sound : line.sound = true := by simp [Line.sound, decodes, succeeded]
  cases started with
  | true => simp [decoded, handed]
  | false => simp [decoded, sound, handed, skipMark_append nonempty]

/-- Where no line starts with a mark there is none to leave out. -/
theorem skipMark_flatMap_handed {lines : List (Line Unit)}
    (unmarked : ∀ line ∈ lines, ∀ text ∈ line.text?, text.head? ≠ some byteOrderMark) :
    skipMark (lines.flatMap Line.handed) = lines.flatMap Line.handed := by
  induction lines with
  | nil => rfl
  | cons line lines ih =>
    obtain ⟨here, others⟩ := List.forall_mem_cons.mp unmarked
    rw [List.flatMap_cons, Line.handed]
    cases decodes : line.text? with
    | none => rfl
    | some text =>
      cases line.failure? with
      | some failure => rfl
      | none =>
        cases text with
        | nil => exact ih others
        | cons c text =>
          have apart : c ≠ byteOrderMark := fun same => here _ decodes (congrArg some same)
          exact if_neg apart

/-- Lines of which none starts with a mark come as they are. -/
theorem decoded_of_unmarked {lines : List (Line Unit)}
    (unmarked : ∀ line ∈ lines, ∀ text ∈ line.text?, text.head? ≠ some byteOrderMark)
    (started : Bool) : decoded started lines = lines.flatMap Line.handed := by
  cases started with
  | true => rfl
  | false =>
    have behind : ∀ line ∈ lines.dropWhile fun line => !line.sound, ∀ text ∈ line.text?,
        text.head? ≠ some byteOrderMark := fun line member =>
      unmarked line ((List.dropWhile_sublist _).subset member)
    rw [decoded, if_neg Bool.false_ne_true, skipMark_flatMap_handed behind, ← List.flatMap_append,
      List.takeWhile_append_dropWhile]

end Feed

namespace Utf8Lines

open CharStream (ask answers)
open Feed (decoded)

variable {lines : Utf8Lines} {front : List Char} {feed : Feed}
  {items : List (Except IoFailure Char)}

/-- The chunk goes on with `front`, and the feed is still to be read. -/
structure Decodes (lines : Utf8Lines) (front : List Char) (feed : Feed) : Prop where
  positive : 0 < lines.buffer.capacity
  goesOn : lines.GoesOn front
  toFeed_eq : lines.buffer.toFeed = feed
  ended : lines.exhausted = true → feed = []

/-- These characters and failures are still to come. -/
def Reads (lines : Utf8Lines) (items : List (Except IoFailure Char)) : Prop :=
  ∃ front feed, lines.Decodes front feed ∧
    items = front.map .ok ++ decoded lines.started feed.lines

/-- A chunk from its start on. -/
theorem goesOn_zero (chunk : String) (buffer : Buffered) (started exhausted : Bool) :
    GoesOn ⟨buffer, chunk, 0, started, exhausted⟩ chunk.toList :=
  ⟨[], String.ofList_toList.symm, rfl⟩

/-- A chunk that was read without a failure goes on behind the mark that may open it. -/
theorem goesOn_textStart (chunk : String) (buffer : Buffered) (started exhausted : Bool) :
    GoesOn ⟨buffer, chunk, textStart started chunk, true, exhausted⟩
      (if started then chunk.toList else withoutMark chunk.toList) := by
  obtain ⟨before, whole, start⟩ := textStart_ofList started chunk.toList
  rw [String.ofList_toList] at start
  exact ⟨before, by rw [← whole, String.ofList_toList], start⟩

/-- At the end of the feed there is no line to load. -/
private theorem Decodes.loadLine_nil (decodes : lines.Decodes [] []) :
    ∃ next, lines.loadLine = .ok () next ∧ next.Reads [] := by
  obtain ⟨buffer, rest, positive, loaded⟩ := lines.exists_loadLine_eq decodes.positive
  rw [decodes.toFeed_eq] at rest loaded
  have empty : String.fromUTF8? (Feed.line []).bytes.toByteArray = some "" :=
    fromUTF8?_utf8Bytes []
  rw [empty] at loaded
  have used : (if lines.started then "".toList else withoutMark "".toList) = [] := by
    simp [withoutMark]
  have goesOn := goesOn_textStart "" buffer lines.started true
  rw [used] at goesOn
  refine ⟨_, loaded, [], [], ⟨positive, goesOn, rest, fun _ => rfl⟩, ?_⟩
  rw [Feed.lines, Feed.decoded_nil]
  rfl

/-- To load a line meets the next failure, or brings up the characters before it. -/
theorem Decodes.loadLine (decodes : lines.Decodes [] feed) :
    (∃ next, lines.loadLine = .ok () next ∧ next.Reads (decoded lines.started feed.lines)) ∨
      ∃ failure items next, lines.loadLine = .error failure next ∧
        decoded lines.started feed.lines = .error failure :: items ∧ next.Reads items := by
  cases feed with
  | nil =>
    rw [Feed.lines, Feed.decoded_nil]
    exact .inl decodes.loadLine_nil
  | cons item feed =>
    obtain ⟨buffer, rest, positive, loaded⟩ := lines.exists_loadLine_eq decodes.positive
    rw [decodes.toFeed_eq] at rest loaded
    have running : lines.exhausted = true → (Feed.line (item :: feed)).rest = [] :=
      fun finished => absurd (decodes.ended finished) (List.cons_ne_nil _ _)
    rw [Feed.lines]
    generalize line_eq : Feed.line (item :: feed) = line at rest loaded running ⊢
    cases read : String.fromUTF8? line.bytes.toByteArray with
    | none =>
      rw [read] at loaded
      have text? : (line.map fun _ => ()).text? = none := congrArg (Option.map _) read
      exact .inr ⟨_, _, _, loaded, Feed.decoded_of_undecodable text? lines.started, [], line.rest,
        ⟨positive, goesOn_zero .., rest, running⟩, rfl⟩
    | some chunk =>
      rw [read] at loaded
      have text? : (line.map fun _ => ()).text? = some chunk.toList := congrArg (Option.map _) read
      cases failed : line.failure? with
      | some failure =>
        rw [failed] at loaded
        exact .inr ⟨_, _, _, loaded, Feed.decoded_of_failed text? failed lines.started,
          chunk.toList, line.rest, ⟨positive, goesOn_zero .., rest, running⟩, rfl⟩
      | none =>
        rw [failed] at loaded
        have nonempty : line.bytes ≠ [] := fun empty =>
          List.cons_ne_nil item feed (Feed.eq_nil_of_line (by rw [line_eq, empty])
            (by rw [line_eq, failed]))
        have some : chunk.toList ≠ [] := by
          intro nothing
          have size := utf8ByteSize_of_fromUTF8? read
          rw [String.toList_eq_nil_iff.mp nothing] at size
          exact nonempty (List.length_eq_zero_iff.mp size.symm)
        refine .inl ⟨_, loaded, _, line.rest, ⟨positive, goesOn_textStart .., rest, ?_⟩, ?_⟩
        · exact fun ended => absurd (List.isEmpty_iff.mp ended) nonempty
        · exact Feed.decoded_of_sound text? failed some lines.started

/-- A filled chunk starts with the next character, if no read fails before it. -/
theorem Reads.fill (reads : lines.Reads items) :
    (∃ next front feed, lines.fill = .ok () next ∧ next.Decodes front feed ∧
        items = front.map .ok ++ decoded next.started feed.lines ∧ (front = [] → items = [])) ∨
      ∃ failure rest next, lines.fill = .error failure next ∧ items = .error failure :: rest ∧
        next.Reads rest := by
  obtain ⟨front, feed, decodes, rfl⟩ := reads
  fun_induction Utf8Lines.fill lines generalizing front feed with
  | case1 lines finished =>
    obtain rfl := decodes.ended finished
    refine .inl ⟨lines, front, [], rfl, decodes, rfl, ?_⟩
    rintro rfl
    rw [Feed.lines, Feed.decoded_nil]
    rfl
  | case2 lines unfinished unused =>
    exact .inl ⟨lines, front, feed, rfl, decodes, rfl,
      fun empty => absurd empty (decodes.goesOn.offset_lt_iff.mp unused)⟩
  | case3 lines unfinished used failure rest failed =>
    obtain rfl := not_not.mp (mt decodes.goesOn.offset_lt_iff.mpr used)
    obtain ⟨next, loaded, -⟩ | ⟨failure', items, next, loaded, split, reads⟩ := decodes.loadLine
    · rw [failed] at loaded
      contradiction
    · obtain ⟨rfl, rfl⟩ := Outcome.error.inj (failed.symm.trans loaded)
      exact .inr ⟨failure, items, rest, rfl, split, reads⟩
  | case4 lines unfinished used rest loaded ih =>
    obtain rfl := not_not.mp (mt decodes.goesOn.offset_lt_iff.mpr used)
    obtain ⟨next, loaded', front, behind, further, same⟩ | ⟨failure, items, next, failed, -⟩ :=
      decodes.loadLine
    · obtain ⟨-, rfl⟩ := Outcome.ok.inj (loaded.symm.trans loaded')
      rw [List.map_nil, List.nil_append, same]
      exact ih front behind further
    · rw [loaded] at failed
      contradiction

/-- Decoded lines keep in step with what is still to come. -/
theorem Reads.ask (reads : lines.Reads items) (call : CharStream.Call) :
    Outcome.Alike (fun (lines : Utf8Lines) (script : Script) => lines.Reads script.items)
      (ask call lines) (ask call (Script.mk items)) := by
  obtain ⟨next, front, feed, filled, decodes, rfl, empty⟩ |
    ⟨failure, rest, next, filled, rfl, behind⟩ := reads.fill
  · have shown : lines.peek = .ok front.head? next := by
      rw [Utf8Lines.peek, filled, ← decodes.goesOn.get?_eq]
    cases front with
    | nil =>
      have nothing := empty rfl
      rw [nothing]
      have drained : next.Reads [] := ⟨[], feed, decodes, nothing.symm⟩
      cases call with
      | peek =>
        change Outcome.Alike _ lines.peek _
        rw [shown]
        exact .ok none drained
      | next =>
        change Outcome.Alike _ lines.next _
        rw [Utf8Lines.next, shown]
        exact .ok none drained
    | cons c front =>
      cases call with
      | peek =>
        change Outcome.Alike _ lines.peek _
        rw [shown]
        exact .ok (some c) ⟨c :: front, feed, decodes, rfl⟩
      | next =>
        change Outcome.Alike _ lines.next _
        rw [Utf8Lines.next, shown]
        exact .ok (some c) ⟨front, feed, { decodes with goesOn := decodes.goesOn.advance }, rfl⟩
  · have failed : lines.peek = .error failure next := by rw [Utf8Lines.peek, filled]
    cases call with
    | peek =>
      change Outcome.Alike _ lines.peek _
      rw [failed]
      exact .error failure behind
    | next =>
      change Outcome.Alike _ lines.next _
      rw [Utf8Lines.next, failed]
      exact .error failure behind

/-- All that the lines of a feed say is still to come. -/
theorem reads_ofFeed (feed : Feed) {capacity : Nat} (positive : 0 < capacity) :
    (ofFeed capacity feed).Reads (decoded false feed.lines) :=
  ⟨[], feed, ⟨positive, ⟨[], rfl, rfl⟩, rfl, nofun⟩, rfl⟩

/-- A feed, however it is read in blocks, answers all calls as its lines say. -/
theorem answers_ofFeed (feed : Feed) {capacity : Nat} (positive : 0 < capacity)
    (calls : List CharStream.Call) : answers calls (ofFeed capacity feed) =
      answers calls (Script.mk (decoded false feed.lines)) := by
  have step (call : CharStream.Call) {lines : Utf8Lines} {script : Script}
      (reads : lines.Reads script.items) :
      Outcome.Alike (fun (lines : Utf8Lines) (script : Script) => lines.Reads script.items)
        (ask call lines) (ask call script) := reads.ask call
  exact CharStream.answers_eq_of_alike step calls (reads_ofFeed feed positive)

/-- To take character after character, and to go on behind every failure, gives what comes of the
lines in order, less a mark in front of the first sound line. That is the start of the feed if the
first line is sound. -/
theorem mark_is_skipped_in_front_of_the_first_sound_line (feed : Feed) {capacity : Nat}
    (positive : 0 < capacity) :
    let unsound := feed.lines.takeWhile fun line => !line.sound
    let others := feed.lines.dropWhile fun line => !line.sound
    let items := unsound.flatMap Feed.Line.handed ++
      Feed.skipMark (others.flatMap Feed.Line.handed)
    (∀ calls, answers (List.replicate calls .next) (ofFeed capacity feed) =
      (items.map (Except.map some) ++ List.replicate calls (Except.ok none)).take calls) ∧
    ((∀ line ∈ feed.lines.head?, line.sound = true) →
      items = Feed.skipMark (feed.lines.flatMap Feed.Line.handed)) := by
  intro unsound others items
  refine ⟨fun calls => ?_, fun soundFirst => ?_⟩
  · rw [answers_ofFeed feed positive, Script.answers_next]
    rfl
  · cases listed : feed.lines with
    | nil => simp [items, unsound, others, listed]
    | cons line lines =>
      have sound : line.sound = true := soundFirst line (by simp [listed])
      simp [items, unsound, others, listed, sound]

/-- The mark in front is skipped and the mark of the second line is kept, read two bytes at a
time. -/
theorem mark_is_skipped_once_of_two_marked_lines :
    let feed := Feed.ofBytes "\ufeffa\n\ufeff".toUTF8.data.toList
    (∀ line ∈ feed.lines.head?, line.sound = true) ∧
      Feed.skipMark (feed.lines.flatMap Feed.Line.handed) =
        [.ok 'a', .ok '\n', .ok byteOrderMark] ∧
      answers (List.replicate 4 .next) (ofFeed 2 feed) =
        [.ok (some 'a'), .ok (some '\n'), .ok (some byteOrderMark), .ok none] := by
  intro feed
  have sound : ∀ line ∈ feed.lines.head?, line.sound = true := by decide +kernel
  have kept : Feed.skipMark (feed.lines.flatMap Feed.Line.handed) =
      [.ok 'a', .ok '\n', .ok byteOrderMark] := by decide +kernel
  have ⟨read, skipped⟩ := mark_is_skipped_in_front_of_the_first_sound_line feed
    (show 0 < 2 by decide)
  refine ⟨sound, kept, ?_⟩
  rw [read, skipped sound, kept]
  rfl

/-- A line that was cut off by a failure keeps the mark in front of it. Behind a line that cannot be
decoded a mark is skipped in the middle of the feed. -/
theorem marks_behind_unsound_lines :
    let failure : IoFailure := ⟨.other, "injected failure"⟩
    let cut := ofFeed 8192 (Feed.failingAt "\ufeffa".toUTF8.data.toList 4 1 failure)
    let dropped := ofFeed 8192 (Feed.ofBytes [0xff, 0x0a, 0xef, 0xbb, 0xbf, 0x61])
    answers (List.replicate 3 .next) cut =
        [.error failure, .ok (some byteOrderMark), .ok (some 'a')] ∧
      answers (List.replicate 3 .next) dropped =
        [.error .invalidUtf8, .ok (some 'a'), .ok none] := by
  intro failure cut dropped
  decide +kernel

end Utf8Lines

end GrammarCheck
