import GrammarCheck.Bytes.Buffered

/-! # Encoded text

In UTF-8 a line feed is one byte, which stands in the encoding of no other character. So the lines
of encoded text are the encoded lines of the text.
-/

namespace GrammarCheck

def utf8Bytes (text : List Char) : List UInt8 :=
  text.flatMap String.utf8EncodeChar

/-- A text up to its first line feed, that included, and what stands behind it. -/
def cutLine : List Char → List Char × List Char
  | [] => ([], [])
  | c :: rest => if c = '\n' then ([c], rest) else (c :: (cutLine rest).1, (cutLine rest).2)

variable {c : Char} {before front back text : List Char}

@[simp] theorem utf8Bytes_nil : utf8Bytes [] = [] := rfl

@[simp] theorem utf8Bytes_cons (c : Char) (text : List Char) :
    utf8Bytes (c :: text) = String.utf8EncodeChar c ++ utf8Bytes text := rfl

theorem utf8Bytes_append (front back : List Char) :
    utf8Bytes (front ++ back) = utf8Bytes front ++ utf8Bytes back :=
  List.flatMap_append

theorem utf8Bytes_eq_nil : utf8Bytes text = [] ↔ text = [] := by
  cases text with
  | nil => simp
  | cons c rest =>
    have size := String.length_utf8EncodeChar c
    have positive := c.utf8Size_pos
    constructor
    · intro empty
      rw [(List.append_eq_nil_iff.mp empty).1, List.length_nil] at size
      omega
    · intro empty
      contradiction

theorem data_toUTF8 (text : String) : text.toUTF8.data.toList = utf8Bytes text.toList := by
  have bytes : text.toUTF8 = (utf8Bytes text.toList).toByteArray :=
    String.utf8Encode_toList.symm
  rw [bytes, List.data_toByteArray]

theorem utf8ByteSize_ofList (text : List Char) :
    (String.ofList text).utf8ByteSize = (utf8Bytes text).length := by
  rw [← String.size_toByteArray, String.toByteArray_ofList]
  exact List.size_toByteArray

/-- Encoded text can be decoded. -/
theorem fromUTF8?_utf8Bytes (text : List Char) :
    String.fromUTF8? (utf8Bytes text).toByteArray = some (String.ofList text) := by
  have valid : (utf8Bytes text).toByteArray.IsValidUTF8 := .intro text rfl
  rw [String.fromUTF8?, dif_pos valid]
  exact congrArg some (String.toByteArray_inj.mp String.toByteArray_ofList.symm)

/-- Texts with one encoding are one text. -/
theorem utf8Bytes_injective : Function.Injective utf8Bytes := by
  intro text other same
  have decoded := (fromUTF8?_utf8Bytes text).symm.trans (same ▸ fromUTF8?_utf8Bytes other)
  exact String.ofList_injective (Option.some.inj decoded)

/-- Bytes that can be decoded are the encoding of what they are decoded to. -/
theorem utf8Bytes_of_fromUTF8? {bytes : List UInt8} {text : String}
    (decoded : String.fromUTF8? bytes.toByteArray = some text) : utf8Bytes text.toList = bytes := by
  rw [String.fromUTF8?] at decoded
  split at decoded
  · obtain rfl := Option.some.inj decoded
    rw [← data_toUTF8]
    exact congrArg Array.toList List.data_toByteArray
  · contradiction

/-- A character of more than one byte has no byte below 128. -/
private theorem le_toNat_of_mem_utf8EncodeChar (beyond : ¬ c.val.toNat ≤ 127) :
    ∀ byte ∈ String.utf8EncodeChar c, 128 ≤ byte.toNat := by
  rw [String.utf8EncodeChar, if_neg beyond]
  split
  · simp only [List.mem_cons, List.not_mem_nil, or_false, forall_eq_or_imp, forall_eq,
      UInt8.toNat_ofNat']
    omega
  · split <;>
      simp only [List.mem_cons, List.not_mem_nil, or_false, forall_eq_or_imp, forall_eq,
        UInt8.toNat_ofNat'] <;>
      omega

/-- The encoding of a character other than the line feed has no byte of that value. -/
theorem lineFeed_not_mem_utf8EncodeChar (apart : c ≠ '\n') :
    Feed.lineFeed ∉ String.utf8EncodeChar c := by
  intro member
  by_cases single : c.val.toNat ≤ 127
  · rw [String.utf8EncodeChar, if_pos single, List.mem_singleton] at member
    have value := congrArg UInt8.toNat member.symm
    rw [UInt8.toNat_ofNat', Nat.mod_eq_of_lt (by omega)] at value
    exact apart (Char.ext (UInt32.toNat_inj.mp value))
  · have high := le_toNat_of_mem_utf8EncodeChar single _ member
    exact absurd high (by decide)

theorem cutLine_append (text : List Char) : (cutLine text).1 ++ (cutLine text).2 = text := by
  induction text with
  | nil => rfl
  | cons c rest ih =>
    rw [cutLine]
    split
    · rfl
    · exact congrArg (c :: ·) ih

theorem cutLine_eq_nil (ended : (cutLine text).1 = []) : text = [] := by
  cases text with
  | nil => rfl
  | cons c rest =>
    rw [cutLine] at ended
    split at ended <;> contradiction

namespace Buffered

theorem splitLine?_eq_none {bytes : List UInt8} (absent : Feed.lineFeed ∉ bytes) :
    splitLine? bytes = none := by
  induction bytes with
  | nil => rfl
  | cons byte bytes ih =>
    obtain ⟨apart, others⟩ := not_or.mp (mt List.mem_cons.mpr absent)
    rw [splitLine?, if_neg (Ne.symm apart), ih others]
    rfl

end Buffered

/-- The first line of encoded text is its encoded first line. -/
theorem line_utf8Bytes (text : List Char) : Feed.line (Feed.ofBytes (utf8Bytes text)) =
    ⟨utf8Bytes (cutLine text).1, none, Feed.ofBytes (utf8Bytes (cutLine text).2)⟩ := by
  induction text with
  | nil => rfl
  | cons c rest ih =>
    by_cases lineFeed : c = '\n'
    · rw [cutLine, if_pos lineFeed, lineFeed]
      rfl
    · have bytes : Feed.ofBytes (utf8Bytes (c :: rest)) =
          Feed.ofBytes (String.utf8EncodeChar c) ++ Feed.ofBytes (utf8Bytes rest) :=
        List.map_append
      have within := Buffered.splitLine?_eq_none (lineFeed_not_mem_utf8EncodeChar lineFeed)
      rw [cutLine, if_neg lineFeed, bytes, Buffered.line_of_splitLine?_none _ within, ih]
      rfl

private theorem utf8GetAux?_append (before front : List Char) (start : String.Pos.Raw) :
    String.Pos.Raw.utf8GetAux? (before ++ front) start
      ⟨start.byteIdx + (utf8Bytes before).length⟩ = front.head? := by
  induction before generalizing start with
  | nil =>
    cases front with
    | nil => rfl
    | cons c front => exact if_pos rfl
  | cons c before ih =>
    have positive := c.utf8Size_pos
    have further := ih (start + c)
    rw [utf8Bytes_cons, List.length_append, String.length_utf8EncodeChar]
    rw [String.Pos.Raw.byteIdx_add_char] at further
    rw [← Nat.add_assoc, ← further]
    refine if_neg fun same => ?_
    have index := congrArg String.Pos.Raw.byteIdx same
    dsimp only at index
    omega

/-- At the offset behind the characters `before` stands the character behind them. -/
theorem get?_ofList_append (before front : List Char) :
    String.Pos.Raw.get? (String.ofList (before ++ front)) ⟨(utf8Bytes before).length⟩ =
      front.head? := by
  have found := utf8GetAux?_append before front 0
  rw [← Nat.zero_add (utf8Bytes before).length, ← found]
  change String.Pos.Raw.utf8GetAux? (String.ofList (before ++ front)).toList 0 _ = _
  rw [String.toList_ofList]
  rfl

end GrammarCheck
