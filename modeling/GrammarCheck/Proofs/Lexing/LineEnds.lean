import GrammarCheck.Proofs.Lexing.TokenPlaces

/-! # One line end is like another

With a line feed in the place of each of its line ends a text has the same tokens as before. So its
logical lines decide on the tokens of a text, whatever ends them.
-/

namespace GrammarCheck

open Chars

variable {c : Char} {front gap text behind rest : List Char}

namespace Chars

/-- A line feed for every line end. -/
def unify (c : Char) : Char :=
  if isLineEnd c then '\n' else c

def unified (text : List Char) : List Char :=
  (logical text).map unify

theorem isLineEnd_unify (c : Char) : isLineEnd (unify c) = isLineEnd c := by
  rw [unify]
  split
  · next ends => exact ends.symm
  · rfl

theorem unify_of_solid (solid : isLineEnd c = false) : unify c = c := by
  rw [unify, solid]
  rfl

private theorem isWordRest_unify (c : Char) : isWordRest (unify c) = isWordRest c := by
  cases ends : isLineEnd c with
  | false => rw [unify_of_solid ends]
  | true =>
    have outside : isWordRest c = false := by
      apply Bool.eq_false_iff.mpr
      intro inside
      rw [not_isLineEnd_of_isWordRest inside] at ends
      contradiction
    rw [outside, unify, if_pos ends]
    decide

theorem not_isBlank_of_isLineEnd (ends : isLineEnd c = true) : isBlank c = false := by
  simp only [isLineEnd, Bool.or_eq_true, decide_eq_true_eq] at ends
  obtain (((((rfl | rfl) | rfl) | rfl) | rfl) | rfl) | rfl := ends <;> decide

private theorem unified_pair (text : List Char) :
    unified ('\r' :: '\n' :: text) = unified ('\n' :: text) := rfl

private theorem unified_cons (single : c = '\r' → text.head? ≠ some '\n') :
    unified (c :: text) = unify c :: unified text := by
  rw [unified, logical_cons single]
  rfl

private theorem unified_append (apart : behind.head? ≠ some '\n') (front : List Char) :
    unified (front ++ behind) = unified front ++ unified behind := by
  rw [unified, logical_append apart, List.map_append]
  rfl

private theorem map_unify_of_solid (solid : ∀ c ∈ front, isLineEnd c = false) :
    front.map unify = front :=
  (List.map_congr_left fun c member => unify_of_solid (solid c member)).trans (List.map_id _)

private theorem unified_append_of_solid (solid : ∀ c ∈ front, isLineEnd c = false)
    (behind : List Char) :
    unified (front ++ behind) = front ++ unified behind := by
  rw [unified, logical_append_of_solid solid, List.map_append, map_unify_of_solid solid]
  rfl

private theorem head?_unified (text : List Char) : (unified text).head? = text.head?.map unify := by
  rw [unified, List.head?_map]
  fun_cases logical text <;> rfl

/-- A text without carriage returns consists of logical characters. -/
theorem logical_of_not_mem (absent : '\r' ∉ text) : logical text = text := by
  induction text with
  | nil => rfl
  | cons c text ih =>
    obtain ⟨apart, others⟩ := not_or.mp (mt List.mem_cons.mpr absent)
    rw [logical_cons fun carriage => absurd carriage.symm apart, ih others]

theorem logical_unified (text : List Char) : logical (unified text) = unified text := by
  apply logical_of_not_mem
  intro member
  obtain ⟨c, -, same⟩ := List.mem_map.mp member
  have ends : isLineEnd c = true := by
    rw [← isLineEnd_unify, same]
    decide
  rw [unify, if_pos ends] at same
  contradiction

/-- The logical lines are what stands between the line feeds. -/
theorem unified_eq_intercalate (text : List Char) :
    unified text = ['\n'].intercalate (logicalLines text) := by
  rw [unified, logicalLines]
  induction logical text with
  | nil => rfl
  | cons c rest ih =>
    obtain ⟨line, later, split⟩ :=
      List.exists_cons_of_ne_nil (List.splitOnP_ne_nil isLineEnd rest)
    rw [List.splitOnP_cons_eq_if_modifyHead, List.map_cons, ih, split]
    split
    · next ends =>
      rw [unify, if_pos ends]
      rfl
    · next solid =>
      rw [unify_of_solid (Bool.eq_false_iff.mpr solid)]
      cases later <;> rfl

end Chars

/-- Every line end moves a position alike. -/
theorem Position.after_unified (position : Position) (text : List Char) :
    position.after (unified text) = position.after text := by
  rw [after, after, logical_unified, Chars.unified, List.foldl_map]
  congr 1
  funext position c
  rw [past, past, isLineEnd_unify]

theorem EndsLine.unified (ended : EndsLine (gap ++ rest)) :
    EndsLine (unified gap ++ unified rest) := by
  intro c head
  rw [List.head?_append, head?_unified, head?_unified, ← Option.map_or, ← List.head?_append] at head
  obtain ⟨d, first, rfl⟩ := Option.map_eq_some_iff.mp head
  rw [isLineEnd_unify]
  exact ended d first

theorem Gap.unified (isGap : Gap gap rest) : Gap (unified gap) (unified rest) := by
  induction isGap with
  | nil rest => exact .nil _
  | @blank c gap rest blank _ ih =>
    have solid : isLineEnd c = false := by
      apply Bool.eq_false_iff.mpr
      intro ends
      rw [not_isBlank_of_isLineEnd ends] at blank
      contradiction
    have apart : c ≠ '\r' := by
      rintro rfl
      contradiction
    rw [unified_cons fun carriage => absurd carriage apart, unify_of_solid solid]
    exact .blank blank ih
  | @lineEnd c gap rest ends _ ih =>
    by_cases single : c = '\r' → gap.head? ≠ some '\n'
    · rw [unified_cons single]
      exact .lineEnd (by rwa [isLineEnd_unify]) ih
    · obtain ⟨rfl, head⟩ := Classical.not_imp.mp single
      obtain ⟨gap, rfl⟩ := List.head?_eq_some_iff.mp (not_not.mp head)
      rwa [unified_pair]
  | @comment body gap rest inside ended _ ih =>
    have solid : ∀ c ∈ '#' :: body, isLineEnd c = false :=
      List.forall_mem_cons.mpr ⟨by decide, inside⟩
    rw [← List.cons_append, unified_append_of_solid solid]
    exact .comment inside ended.unified ih

theorem Token.Kind.Spells.unified {kind : Token.Kind} (spells : kind.Spells text behind) :
    kind.Spells text (unified behind) := by
  cases kind with
  | identifier =>
    refine ⟨spells.1, fun c head => ?_⟩
    rw [head?_unified] at head
    obtain ⟨d, first, rfl⟩ := Option.map_eq_some_iff.mp head
    rw [isWordRest_unify]
    exact spells.2 d first
  | unterminatedLiteral => exact ⟨spells.1, @EndsLine.unified [] behind spells.2⟩
  | endOfInput | literal | unknown | period | bar | assign | opening _ | closing _ => exact spells

/-- With line feeds for line ends a text has the same tokens. -/
theorem Lexed.unified {position : Position} {tokens : Tokens}
    (lexed : Lexed position text tokens) : Lexed position (unified text) tokens := by
  induction lexed with
  | @finish position gap isGap =>
    rw [← position.after_unified gap]
    exact .finish isGap.unified
  | @token position finish gap text behind kind front isGap spells _ ih =>
    have within := not_isLineEnd_of_spells spells
    have apart : (text ++ behind).head? ≠ some '\n' := by
      intro head
      exact absurd (solid_of_spells spells _ head) (by decide)
    have isGap' := isGap.unified
    rw [unified_append_of_solid within] at isGap'
    rw [← position.after_unified gap] at ih ⊢
    rw [unified_append apart, unified_append_of_solid within]
    exact .token isGap' spells.unified ih

/-- Wherever they start, the texts have the same tokens. -/
def SameTokens (text text' : List Char) : Prop :=
  ∀ ⦃position tokens tokens'⦄, Lexed position text tokens → Lexed position text' tokens' →
    tokens' = tokens

theorem SameTokens.refl (text : List Char) : SameTokens text text :=
  fun _ _ _ => Lexed.unique

/-- Texts with the same logical lines have the same tokens. -/
theorem SameTokens.of_logicalLines {text' : List Char}
    (same : logicalLines text = logicalLines text') : SameTokens text text' := by
  intro position tokens tokens' lexed lexed'
  have unified := lexed.unified
  rw [unified_eq_intercalate, same, ← unified_eq_intercalate] at unified
  exact unified.unique lexed'.unified

def lineEnds : List String :=
  ["\n", "\r", "\r\n", "\x0b", "\x0c", "\u0085", "\u2028", "\u2029"]

/-- A line end is one character, or the pair that counts as one. -/
private theorem exists_of_mem_lineEnds {lineEnd : String} (member : lineEnd ∈ lineEnds) :
    (∃ c, isLineEnd c = true ∧ lineEnd.toList = [c]) ∨ lineEnd.toList = ['\r', '\n'] := by
  simp only [lineEnds, List.mem_cons, List.not_mem_nil, or_false] at member
  obtain rfl | rfl | rfl | rfl | rfl | rfl | rfl | rfl := member
  · exact .inl ⟨_, by decide, rfl⟩
  · exact .inl ⟨_, by decide, rfl⟩
  · exact .inr rfl
  · exact .inl ⟨_, by decide, rfl⟩
  · exact .inl ⟨_, by decide, rfl⟩
  · exact .inl ⟨_, by decide, rfl⟩
  · exact .inl ⟨_, by decide, rfl⟩
  · exact .inl ⟨_, by decide, rfl⟩

/-- A line end is one logical character, unless a line feed behind it completes a pair. -/
theorem exists_logical_lineEnd {lineEnd : String} (member : lineEnd ∈ lineEnds)
    (apart : lineEnd.toList = ['\r'] → text.head? ≠ some '\n') :
    ∃ c, isLineEnd c = true ∧ logical (lineEnd.toList ++ text) = c :: logical text := by
  obtain ⟨c, ends, same⟩ | same := exists_of_mem_lineEnds member
  · rw [same] at apart ⊢
    refine ⟨c, ends, logical_cons fun carriage => apart ?_⟩
    rw [carriage]
  · rw [same]
    exact ⟨'\r', by decide, rfl⟩

section Joining

variable {lines : List (List Char)}
  (solid : ∀ line ∈ lines, ∀ c ∈ line, isLineEnd c = false)

include solid

private theorem head?_intercalate_return : (['\r'].intercalate lines).head? ≠ some '\n' := by
  intro head
  match lines with
  | [] | [[]] => exact absurd head (by simp)
  | [] :: _ :: _ =>
    have same : '\r' = '\n' := Option.some.inj head
    exact absurd same (by decide)
  | [c :: line] | (c :: line) :: _ :: _ =>
    obtain rfl : c = '\n' := Option.some.inj head
    have inner := solid _ (List.mem_cons_self ..) _ (List.mem_cons_self ..)
    exact absurd inner (by decide)

/-- Lines that are joined by line ends are the logical lines. -/
theorem logicalLines_intercalate (nonempty : lines ≠ []) {lineEnd : String}
    (member : lineEnd ∈ lineEnds) : logicalLines (lineEnd.toList.intercalate lines) = lines := by
  induction lines with
  | nil => contradiction
  | cons line later ih =>
    obtain ⟨within, others⟩ := List.forall_mem_cons.mp solid
    by_cases last : later = []
    · have whole := logical_append_of_solid within []
      rw [List.append_nil, logical, List.append_nil] at whole
      rw [last, List.intercalate_singleton, logicalLines, whole,
        List.splitOnP_eq_singleton within]
    · have apart : lineEnd.toList = ['\r'] →
          (lineEnd.toList.intercalate later).head? ≠ some '\n' := by
        intro single
        rw [single]
        exact head?_intercalate_return others
      obtain ⟨c, ends, separated⟩ := exists_logical_lineEnd member apart
      have behind := ih others last
      rw [logicalLines] at behind
      rw [List.intercalate_cons_of_ne_nil last, List.append_assoc, logicalLines,
        logical_append_of_solid within, separated,
        List.splitOnP_append_cons_of_forall_mem within c ends, behind]

end Joining

end GrammarCheck
