import GrammarCheck.Proofs.Chars.FeedLines
import Mathlib.Data.List.Forall2

/-! # Lines of bytes that are not UTF-8

Bytes are cut behind their line feeds. A line that encodes characters gives just these, and a line
that encodes none gives one failure. So bytes that are not UTF-8 cost the line they stand in, and
the lines around it come whole and in order.
-/

namespace GrammarCheck

/-- Bytes cut behind each line feed. The last line may be without one. -/
def byteLines : List UInt8 → List (List UInt8)
  | [] => []
  | byte :: bytes =>
    if byte = Feed.lineFeed then [byte] :: byteLines bytes
    else
      match byteLines bytes with
      | [] => [[byte]]
      | line :: lines => (byte :: line) :: lines

/-- What is to be had of a line of bytes: the characters that it encodes, or one failure if it
encodes none. -/
inductive LineGives : List UInt8 → List (Except IoFailure Char) → Prop
  | sound (text : List Char) : LineGives (utf8Bytes text) (text.map .ok)
  | unsound {line : List UInt8} (undecodable : ∀ text, utf8Bytes text ≠ line) :
    LineGives line [.error .invalidUtf8]

/-- To cut bytes into lines loses none of them. -/
theorem flatten_byteLines (bytes : List UInt8) : (byteLines bytes).flatten = bytes := by
  fun_induction byteLines bytes with
  | case1 => rfl
  | case2 bytes ih => rw [List.flatten_cons, ih]; rfl
  | case3 byte bytes goesOn cut ih =>
    rw [cut] at ih
    rw [← ih]
    rfl
  | case4 byte bytes goesOn line lines cut ih =>
    rw [cut] at ih
    rw [List.flatten_cons, List.cons_append, ← List.flatten_cons, ih]

namespace Feed

/-- Bytes that no failed read cuts apart are the lines of their feed. -/
private theorem lines_ofBytes (bytes : List UInt8) :
    (ofBytes bytes).lines = (byteLines bytes).map fun line => ⟨line, none, ()⟩ := by
  fun_induction byteLines bytes with
  | case1 => rw [ofBytes, List.map_nil, lines, List.map_nil]
  | case2 bytes ih =>
    rw [List.map_cons, ← ih, ofBytes, List.map_cons, lines, line, if_pos rfl]
    rfl
  | case3 byte bytes goesOn cut ih =>
    obtain rfl : bytes = [] := by rw [← flatten_byteLines bytes, cut]; rfl
    rw [ofBytes, List.map_cons, lines, line, if_neg goesOn]
    simp [line, lines, Line.map]
  | case4 byte bytes goesOn first others cut ih =>
    cases bytes with
    | nil => contradiction
    | cons second bytes =>
      rw [cut, ofBytes, List.map_cons, lines, List.map_cons] at ih
      obtain ⟨here, behind⟩ := List.cons.inj ih
      rw [ofBytes, List.map_cons, lines, line, if_neg goesOn, List.map_cons, List.map_cons,
        ← behind]
      simp only [Line.map, Line.mk.injEq, and_true] at here ⊢
      simp [here]

/-- A line that was read without a failure gives what is to be had of it. -/
private theorem Line.gives_handed (line : List UInt8) :
    LineGives line (handed (⟨line, none, ()⟩ : Line Unit)) := by
  cases decodes : text? (⟨line, none, ()⟩ : Line Unit) with
  | some text =>
    obtain rfl : utf8Bytes text = line := utf8Bytes_of_text? decodes
    rw [handed, decodes]
    exact .sound text
  | none =>
    have undecodable (text : List Char) : utf8Bytes text ≠ line := by
      rintro rfl
      rw [text?, fromUTF8?_utf8Bytes] at decodes
      contradiction
    rw [handed, decodes]
    exact .unsound undecodable

end Feed

namespace Utf8Lines

open CharStream (answers)

/-- The byte order mark in UTF-8. -/
private theorem utf8EncodeChar_byteOrderMark :
    String.utf8EncodeChar byteOrderMark = [0xef, 0xbb, 0xbf] := by decide

/-- Bytes that are not UTF-8 cost the line they stand in and no other. -/
theorem unsound_lines_cost_only_themselves {bytes : List UInt8}
    (unmarked : ¬ [0xef, 0xbb, 0xbf] <:+: bytes) {capacity : Nat} (positive : 0 < capacity) :
    ∃ parts, List.Forall₂ LineGives (byteLines bytes) parts ∧
      ∀ calls, answers (List.replicate calls .next) (ofFeed capacity (Feed.ofBytes bytes)) =
        (parts.flatten.map (Except.map some) ++ List.replicate calls (Except.ok none)).take
          calls := by
  have startsUnmarked : ∀ line ∈ (Feed.ofBytes bytes).lines, ∀ text ∈ line.text?,
      text.head? ≠ some byteOrderMark := by
    intro line listed text decodes marked
    rw [Feed.lines_ofBytes] at listed
    obtain ⟨line, cut, rfl⟩ := List.mem_map.mp listed
    obtain ⟨text, rfl⟩ := List.head?_eq_some_iff.mp marked
    have encoded : utf8Bytes (byteOrderMark :: text) = line := Feed.Line.utf8Bytes_of_text? decodes
    have mark : [0xef, 0xbb, 0xbf] <+: line := by
      rw [← encoded, utf8Bytes_cons, utf8EncodeChar_byteOrderMark]
      exact List.prefix_append ..
    have within : line <:+: bytes := by
      rw [← flatten_byteLines bytes]
      exact List.infix_of_mem_flatten cut
    exact unmarked (mark.isInfix.trans within)
  refine ⟨(byteLines bytes).map fun line => Feed.Line.handed ⟨line, none, ()⟩, ?_, fun calls => ?_⟩
  · exact List.forall₂_map_right_iff.mpr (List.forall₂_same.mpr fun line _ =>
      Feed.Line.gives_handed line)
  · rw [answers_ofFeed _ positive, Feed.decoded_of_unmarked startsUnmarked, Script.answers_next,
      Feed.lines_ofBytes, List.flatMap_def, List.map_map]
    rfl

/-- The lines around a byte that stands in no encoded character, read two bytes at a time. The last
of them is without a line feed. -/
theorem unsound_line_between_sound_ones :
    let bytes : List UInt8 := [0x61, 0x0a, 0xff, 0x0a, 0x62]
    let lines := ofFeed 2 (Feed.ofBytes bytes)
    ¬ [0xef, 0xbb, 0xbf] <:+: bytes ∧ 0 < 2 ∧
      (∃ parts, List.Forall₂ LineGives (byteLines bytes) parts ∧
        answers (List.replicate 5 .next) lines =
          (parts.flatten.map (Except.map some) ++ List.replicate 5 (Except.ok none)).take 5) ∧
      byteLines bytes = [[0x61, 0x0a], [0xff, 0x0a], [0x62]] ∧
      answers (List.replicate 5 .next) lines =
        [.ok (some 'a'), .ok (some '\n'), .error .invalidUtf8, .ok (some 'b'), .ok none] := by
  intro bytes lines
  have unmarked : ¬ [0xef, 0xbb, 0xbf] <:+: bytes := by decide
  obtain ⟨parts, gives, answered⟩ :=
    unsound_lines_cost_only_themselves unmarked (show 0 < 2 by decide)
  exact ⟨unmarked, by decide, ⟨parts, gives, answered 5⟩, by decide, by decide +kernel⟩

end Utf8Lines

end GrammarCheck
