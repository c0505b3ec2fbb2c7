import GrammarCheck.Chars.Class
import GrammarCheck.Position

/-! # Logical lines

A carriage return with a line feed behind it is one logical character. The logical lines of a text
are what its line ends leave between them, and positions count those lines and their characters.
-/

namespace GrammarCheck

namespace Chars

/-- The logical characters of a text: of a carriage return and a line feed only the first. -/
def logical : List Char → List Char
  | [] => []
  | '\r' :: '\n' :: rest => '\r' :: logical rest
  | c :: rest => c :: logical rest

def afterFirst : List Char → List Char
  | [] => []
  | '\r' :: '\n' :: rest => rest
  | _ :: rest => rest

/-- The lines of a text, without their ends. A line end in last place opens an empty line. -/
def logicalLines (text : List Char) : List (List Char) :=
  (logical text).splitOnP isLineEnd

theorem afterFirst_cons {c : Char} {rest : List Char}
    (single : c = '\r' → rest.head? ≠ some '\n') : afterFirst (c :: rest) = rest := by
  unfold afterFirst
  split <;> simp_all

theorem logical_cons {c : Char} {rest : List Char}
    (single : c = '\r' → rest.head? ≠ some '\n') :
    logical (c :: rest) = c :: logical rest := by
  rw [logical.eq_def]
  split <;> simp_all

theorem logical_eq_cons (c : Char) (rest : List Char) :
    logical (c :: rest) = c :: logical (afterFirst (c :: rest)) := by
  by_cases pair : c = '\r' ∧ rest.head? = some '\n'
  · obtain ⟨rfl, feed⟩ := pair
    obtain ⟨rest, rfl⟩ := List.head?_eq_some_iff.mp feed
    rfl
  · have single : c = '\r' → rest.head? ≠ some '\n' := fun carriage feed => pair ⟨carriage, feed⟩
    rw [logical_cons single, afterFirst_cons single]

/-- A text starts with its first logical character. -/
theorem head?_logical (text : List Char) : (logical text).head? = text.head? := by
  cases text with
  | nil => rfl
  | cons c rest => rw [logical_eq_cons, List.head?_cons, List.head?_cons]

/-- The first logical character is at least one character. -/
theorem exists_append_afterFirst (c : Char) (rest : List Char) :
    ∃ first, first ≠ [] ∧ c :: rest = first ++ afterFirst (c :: rest) := by
  by_cases pair : c = '\r' ∧ rest.head? = some '\n'
  · obtain ⟨rfl, feed⟩ := pair
    obtain ⟨rest, rfl⟩ := List.head?_eq_some_iff.mp feed
    exact ⟨['\r', '\n'], List.cons_ne_nil _ _, rfl⟩
  · refine ⟨[c], List.cons_ne_nil _ _, ?_⟩
    rw [afterFirst_cons fun carriage feed => pair ⟨carriage, feed⟩, List.singleton_append]

theorem length_afterFirst_lt (c : Char) (rest : List Char) :
    (afterFirst (c :: rest)).length < (c :: rest).length := by
  obtain ⟨first, nonempty, split⟩ := exists_append_afterFirst c rest
  have long := List.length_pos_iff.mpr nonempty
  have lengths := congrArg List.length split
  rw [List.length_append] at lengths
  omega

/-- The first logical character is the first character, and may be the second as well. -/
theorem afterFirst_cons_suffix (c : Char) (rest : List Char) : afterFirst (c :: rest) <:+ rest := by
  obtain ⟨_ | ⟨d, first⟩, nonempty, split⟩ := exists_append_afterFirst c rest
  · contradiction
  · exact ⟨first, (List.cons.inj split).2.symm⟩

theorem afterFirst_suffix (text : List Char) : afterFirst text <:+ text := by
  cases text with
  | nil => exact List.suffix_rfl
  | cons c rest => exact (afterFirst_cons_suffix c rest).trans (List.suffix_cons c rest)

/-- The first logical character ends with a line end if it is one. -/
theorem exists_lineEnd_suffix {c : Char} (ends : isLineEnd c = true) (rest : List Char) :
    ∃ d, isLineEnd d = true ∧ d :: afterFirst (c :: rest) <:+ c :: rest := by
  by_cases pair : c = '\r' ∧ rest.head? = some '\n'
  · obtain ⟨rfl, feed⟩ := pair
    obtain ⟨rest, rfl⟩ := List.head?_eq_some_iff.mp feed
    exact ⟨'\n', rfl, List.suffix_cons _ _⟩
  · rw [afterFirst_cons fun carriage feed => pair ⟨carriage, feed⟩]
    exact ⟨c, ends, List.suffix_rfl⟩

/-- What is left of a text is told by its first character and by what stands behind the first
logical one. -/
theorem eq_of_suffix {back text : List Char} (suffix : back <:+ text)
    (head : back.head? = text.head?) (behind : afterFirst back = afterFirst text) :
    back = text := by
  cases back with
  | nil => exact (List.head?_eq_none_iff.mp head.symm).symm
  | cons c back =>
  obtain ⟨rest, rfl⟩ := List.head?_eq_some_iff.mp head.symm
  obtain same | further := List.suffix_cons_iff.mp suffix
  · exact same
  have short := (afterFirst_cons_suffix c back).length_le
  have long := further.length_le
  rw [behind] at short
  rw [List.length_cons] at long
  by_cases pair : c = '\r' ∧ rest.head? = some '\n'
  · obtain ⟨rfl, feed⟩ := pair
    obtain ⟨rest, rfl⟩ := List.head?_eq_some_iff.mp feed
    have short : rest.length ≤ back.length := short
    obtain same | past := List.suffix_cons_iff.mp further
    · exact absurd (List.cons.inj same).1 (by decide)
    · have beyond := past.length_le
      rw [List.length_cons] at beyond
      omega
  · rw [afterFirst_cons fun carriage feed => pair ⟨carriage, feed⟩] at short
    omega

/-- Logical characters do not reach across a place with no line feed behind it. -/
theorem logical_append {back : List Char} (apart : back.head? ≠ some '\n') (front : List Char) :
    logical (front ++ back) = logical front ++ logical back := by
  fun_induction logical front with
  | case1 => rfl
  | case2 rest ih => exact congrArg _ ih
  | case3 c rest single ih =>
    rw [List.cons_append, logical_cons, ih, List.cons_append]
    rintro rfl
    cases rest with
    | nil => exact apart
    | cons d rest =>
      rw [List.cons_append, List.head?_cons]
      rintro ⟨⟩
      exact single _ rfl rfl

/-- Within a line every character is a logical one. -/
theorem logical_append_of_solid {front : List Char}
    (solid : ∀ c ∈ front, isLineEnd c = false) (back : List Char) :
    logical (front ++ back) = front ++ logical back := by
  induction front with
  | nil => rfl
  | cons c front ih =>
    have inner := ih fun d member => solid d (List.mem_cons_of_mem _ member)
    have notReturn : c ≠ '\r' := by
      rintro rfl
      exact absurd (solid _ (List.mem_cons_self ..)) (by decide)
    rw [List.cons_append, logical_cons fun carriage => absurd carriage notReturn, inner,
      List.cons_append]

end Chars

namespace Position

open Chars

/-- The position behind a logical character: a line end opens the next line. -/
def past (position : Position) (c : Char) : Position :=
  if isLineEnd c then { position with line := position.line + 1, column := 1 }
  else { position with column := position.column + 1 }

def right (position : Position) (columns : Nat) : Position :=
  { position with column := position.column + columns }

def after (position : Position) (text : List Char) : Position :=
  (logical text).foldl past position

@[simp] theorem after_nil (position : Position) : position.after [] = position := rfl

theorem after_cons {c : Char} {rest : List Char} (position : Position)
    (single : c = '\r' → rest.head? ≠ some '\n') :
    position.after (c :: rest) = (position.past c).after rest := by
  rw [after, logical_cons single]
  rfl

theorem after_pair (position : Position) (rest : List Char) :
    position.after ('\r' :: '\n' :: rest) = (position.past '\r').after rest := rfl

theorem source_foldl_past (position : Position) (text : List Char) :
    (text.foldl past position).source = position.source := by
  induction text generalizing position with
  | nil => rfl
  | cons c text ih =>
    rw [List.foldl_cons, ih, past]
    split <;> rfl

theorem line_foldl_past (position : Position) (text : List Char) :
    (text.foldl past position).line = position.line + text.countP isLineEnd := by
  induction text generalizing position with
  | nil => rfl
  | cons c text ih =>
    rw [List.foldl_cons, ih, List.countP_cons, past]
    split
    · exact Nat.add_right_comm ..
    · rfl

/-- Positions behind one another are in the same text. -/
theorem source_after (position : Position) (text : List Char) :
    (position.after text).source = position.source :=
  position.source_foldl_past _

theorem past_of_solid {c : Char} (position : Position) (solid : isLineEnd c = false) :
    position.past c = position.right 1 := by
  simp [past, right, solid]

theorem foldl_past_of_solid {text : List Char} (position : Position)
    (solid : ∀ c ∈ text, isLineEnd c = false) :
    text.foldl past position = position.right text.length := by
  induction text generalizing position with
  | nil => rfl
  | cons c text ih =>
    rw [List.foldl_cons, past_of_solid position (solid c (List.mem_cons_self ..)),
      ih _ fun d member => solid d (List.mem_cons_of_mem _ member)]
    simp only [right, List.length_cons]
    congr 1
    omega

/-- Within a line every character takes a column. -/
theorem after_append_of_solid {front : List Char} (position : Position)
    (solid : ∀ c ∈ front, isLineEnd c = false) (back : List Char) :
    position.after (front ++ back) = (position.right front.length).after back := by
  rw [after, logical_append_of_solid solid, List.foldl_append, foldl_past_of_solid position solid]
  rfl

end Position

end GrammarCheck
