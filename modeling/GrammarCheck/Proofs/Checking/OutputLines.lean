import GrammarCheck.Proofs.Chars.ByteLines
import GrammarCheck.Proofs.Checking.Refusal
import GrammarCheck.Proofs.Checking.Reports
import GrammarCheck.Proofs.Lexing.TokenPlaces

/-! # Diagnostics as lines

What a diagnostic quotes of a text is the text of a token, and no token that is listed goes on over
the end of a line. So the bytes that a writer leaves are one line for each diagnostic.
-/

namespace GrammarCheck

namespace Diagnostic

private theorem lineFeed_not_mem_alternatives {words : List String}
    (within : ∀ word ∈ words, '\n' ∉ word.toList) : '\n' ∉ (alternatives words).toList := by
  fun_induction alternatives words with
  | case1 => decide
  | case2 last => simpa using within
  | case3 previous last =>
    simp only [List.forall_mem_cons] at within
    obtain ⟨before, behind, -⟩ := within
    simp [before, behind]
  | case4 first rest _ _ ih =>
    obtain ⟨before, behind⟩ := List.forall_mem_cons.mp within
    simp [before, ih behind]

end Diagnostic

private theorem Token.Kind.lineFeed_not_mem_description (kind : Token.Kind) :
    '\n' ∉ kind.description.toList := by
  have every : ∀ kind ∈ all, '\n' ∉ kind.description.toList := by decide +kernel
  exact every kind kind.mem_all

private theorem Token.lineFeed_not_mem_description {token : Token}
    (within : '\n' ∉ token.text.toList) :
    '\n' ∉ token.description.toList := by
  obtain ⟨position, kind, text⟩ := token
  dsimp only at within
  cases kind <;> simp [description, within]

private theorem Position.lineFeed_not_mem_render {position : Position}
    (named : '\n' ∉ position.source.toList) : '\n' ∉ position.render.toList := by
  have apart (n : Nat) : '\n' ∉ n.repr.toList := by
    intro member
    exact absurd (isDigit_of_mem_repr _ member) (by decide)
  rw [toList_render]
  simp [named, apart, -Nat.toList_repr]

/-- A diagnostic is rendered within one line if it names its text and quotes its token in one. -/
theorem Diagnostic.lineFeed_not_mem_render {diagnostic : Diagnostic}
    (named : '\n' ∉ diagnostic.position.source.toList)
    (within : '\n' ∉ diagnostic.found.text.toList) : '\n' ∉ diagnostic.render.toList := by
  have place := Position.lineFeed_not_mem_render named
  have shown := Token.lineFeed_not_mem_description within
  have wanted : '\n' ∉ (alternatives (diagnostic.expected.map Token.Kind.description)).toList := by
    apply lineFeed_not_mem_alternatives
    intro word member
    obtain ⟨kind, -, rfl⟩ := List.mem_map.mp member
    exact kind.lineFeed_not_mem_description
  simp [render, message, place, shown, wanted]

section Lines

variable {line bytes : List UInt8}

/-- A line is cut off where it is first ended. -/
private theorem byteLines_append (within : Feed.lineFeed ∉ line) :
    byteLines (line ++ Feed.lineFeed :: bytes) = (line ++ [Feed.lineFeed]) :: byteLines bytes := by
  induction line with
  | nil => exact if_pos rfl
  | cons byte line ih =>
    obtain ⟨apart, others⟩ := not_or.mp (mt List.mem_cons.mpr within)
    rw [List.cons_append, byteLines, if_neg (Ne.symm apart), ih others]
    rfl

private theorem lineFeed_not_mem_utf8Bytes {text : List Char} (within : '\n' ∉ text) :
    Feed.lineFeed ∉ utf8Bytes text := by
  intro member
  obtain ⟨c, inText, encoded⟩ := List.mem_flatMap.mp member
  apply lineFeed_not_mem_utf8EncodeChar ?_ encoded
  rintro rfl
  exact within inText

/-- Diagnostics that are rendered within a line each are written as so many lines. -/
theorem LineWriter.byteLines_lines {diagnostics : List Diagnostic}
    (within : ∀ diagnostic ∈ diagnostics, '\n' ∉ diagnostic.render.toList) :
    byteLines (lines diagnostics).toUTF8.data.toList =
      diagnostics.map fun diagnostic =>
        diagnostic.render.toUTF8.data.toList ++ [Feed.lineFeed] := by
  induction diagnostics with
  | nil => rfl
  | cons diagnostic diagnostics ih =>
    obtain ⟨here, others⟩ := List.forall_mem_cons.mp within
    have ended : utf8Bytes ['\n'] = [Feed.lineFeed] := by decide
    have written : (diagnostic.render.push '\n').toUTF8.data.toList =
        diagnostic.render.toUTF8.data.toList ++ [Feed.lineFeed] := by
      rw [data_toUTF8, data_toUTF8, String.toList_push, utf8Bytes_append, ended]
    rw [toUTF8_lines_cons, ByteArray.data_append, Array.toList_append, written, List.append_assoc,
      List.singleton_append, byteLines_append, List.map_cons, ih others]
    rw [data_toUTF8]
    exact lineFeed_not_mem_utf8Bytes here

end Lines

section Check

variable {σ : Type} [CharStream σ] [SteadyStream σ] {source : σ} {text : List Char}

/-- What a check reports are tokens of its text, in order. -/
private theorem exists_found_sublist (serves : SteadyStream.Serves source text) (name : String) :
    ∃ tokens, Lexed ⟨name, 1, 1⟩ text tokens ∧
      ((check source name ({} : Collector)).state.receiver.diagnostics.map
        Diagnostic.found).Sublist tokens.toList := by
  obtain ⟨tokens, lexed, -, alike⟩ := exists_run_alike serves name ({} : Collector)
  have start := Recorded.start tokens ({} : Collector)
  have recorded : Recorded tokens.toList _ _ _
      (Checker.check .text ⟨tokens, ({} : Collector), none, 0, 0⟩).state :=
    start.run (Collector.unfailing rfl) lexed.nodup
  rw [List.nil_append, List.nil_append] at recorded
  have collected := recorded.receiver_eq
  rw [Collector.deliver_eq rfl] at collected
  have run := alike.states.receiver_eq.trans collected
  refine ⟨tokens, lexed, ?_⟩
  rw [check_receiver, run]
  exact recorded.sublist

/-- A check renders every diagnostic within one line, if the name of its text is in one. -/
theorem check_reports_within_lines (serves : SteadyStream.Serves source text) {name : String}
    (oneLine : '\n' ∉ name.toList) :
    ∀ diagnostic ∈ (check source name ({} : Collector)).state.receiver.diagnostics,
      '\n' ∉ diagnostic.render.toList := by
  obtain ⟨tokens, lexed, reported⟩ := exists_found_sublist serves name
  have marks := Position.Marks.start name (Chars.logical text)
  obtain ⟨stand, -⟩ := lexed.standsIn marks
  intro diagnostic member
  have listed := reported.subset (List.mem_map_of_mem member)
  apply diagnostic.lineFeed_not_mem_render
  · have named : diagnostic.position.source = name := lexed.source_eq _ listed
    rwa [named]
  · obtain front | last := List.mem_append.mp listed
    · intro feed
      exact absurd ((stand _ front).2 _ feed) (by decide)
    · rw [List.mem_singleton.mp last]
      simp [Token.atEnd]

/-- A writer on a sink without a bound is left with one line for each diagnostic that a collector
would be left with, in the same order, and no line is broken inside. -/
theorem each_diagnostic_is_one_line (serves : SteadyStream.Serves source text) {name : String}
    (oneLine : '\n' ∉ name.toList) :
    let collecting := check source name ({} : Collector)
    let writing := check source name ({} : LineWriter)
    let found := collecting.state.receiver.diagnostics
    writing.result = collecting.result ∧
      (∀ count, writing.result = .ok count → count = found.length) ∧
      byteLines writing.state.receiver.sink.written.data.toList =
        found.map (fun diagnostic => diagnostic.render.toUTF8.data.toList ++ [Feed.lineFeed]) ∧
      ∀ diagnostic ∈ found, Feed.lineFeed ∉ diagnostic.render.toUTF8.data.toList := by
  intro collecting writing found
  have within : ∀ diagnostic ∈ found, '\n' ∉ diagnostic.render.toList :=
    check_reports_within_lines serves oneLine
  have handed := LineWriter.handOver_of_unbounded ByteArray.empty found
  obtain ⟨taken, same, counted⟩ | ⟨cause, refused, -⟩ :=
    check_hands_over source name ({} : LineWriter)
  · have left : writing.state.receiver = _ := (Outcome.ok.inj (taken.symm.trans handed)).2
    refine ⟨same, counted, ?_, ?_⟩
    · rw [left, ByteArray.empty_append]
      exact LineWriter.byteLines_lines within
    · intro diagnostic member
      rw [data_toUTF8]
      exact lineFeed_not_mem_utf8Bytes (within diagnostic member)
  · exact absurd (refused.symm.trans handed) nofun

/-- A literal that its line cuts off is quoted up to the end of the line. -/
theorem lines_of_a_check :
    let source := Text.ofString "S = | \"a\r\n.\n"
    let collecting := check source "g" ({} : Collector)
    let writing := check source "g" ({} : LineWriter)
    let found := collecting.state.receiver.diagnostics
    SteadyStream.Serves source "S = | \"a\r\n.\n".toList ∧ '\n' ∉ "g".toList ∧
      (writing.result = collecting.result ∧
        (∀ count, writing.result = .ok count → count = found.length) ∧
        byteLines writing.state.receiver.sink.written.data.toList =
          found.map (fun diagnostic => diagnostic.render.toUTF8.data.toList ++ [Feed.lineFeed]) ∧
        ∀ diagnostic ∈ found, Feed.lineFeed ∉ diagnostic.render.toUTF8.data.toList) ∧
      writing.result = .ok 2 ∧ found = [
        ⟨⟨⟨"g", 1, 5⟩, .bar, "|"⟩, Token.Kind.factorKinds⟩,
        ⟨⟨⟨"g", 1, 7⟩, .unterminatedLiteral, "\"a"⟩, Token.Kind.factorKinds⟩] ∧
      writing.state.receiver.sink.written = String.toUTF8
        ("g(1, 5): expected identifier, literal, '(', '[' or '\x7b', found '|'\n" ++
          "g(1, 7): expected identifier, literal, '(', '[' or '\x7b', " ++
            "found unterminated literal \"a\n") := by
  intro source collecting writing found
  have serves := Text.serves_ofString "S = | \"a\r\n.\n"
  refine ⟨serves, by decide, each_diagnostic_is_one_line serves (by decide), ?_, ?_, ?_⟩
  · decide +kernel
  · decide +kernel
  · decide +kernel

end Check

end GrammarCheck
