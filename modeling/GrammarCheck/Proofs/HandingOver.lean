import GrammarCheck.Receiver

/-! # Receivers that refuse

Diagnostics are handed over in order, up to the first that is refused. A collector with a limit and
a writer on a bounded sink then hold the beginning of what they were to take.
-/

namespace GrammarCheck

namespace Outcome

variable {ε σ : Type}

/-- Succeeds under the condition and fails without it, in the same state. -/
def provided (condition : Prop) [Decidable condition] (failure : ε) (state : σ) :
    Outcome ε σ Unit :=
  if condition then .ok () state else .error failure state

variable {condition : Prop} [Decidable condition]

theorem provided_pos (holds : condition) (failure : ε) (state : σ) :
    provided condition failure state = .ok () state :=
  if_pos holds

theorem provided_neg (fails : ¬ condition) (failure : ε) (state : σ) :
    provided condition failure state = .error failure state :=
  if_neg fails

end Outcome

namespace Receiver

variable {ρ : Type} [Receiver ρ]

/-- Hands the diagnostics over until one is refused. -/
def handOver : List Diagnostic → ρ → Outcome IoFailure ρ Unit
  | [], receiver => .ok () receiver
  | diagnostic :: diagnostics, receiver =>
    (receive diagnostic receiver).andThen fun () => handOver diagnostics

@[simp] theorem handOver_nil (receiver : ρ) : handOver [] receiver = .ok () receiver := rfl

theorem handOver_cons (diagnostic : Diagnostic) (diagnostics : List Diagnostic) (receiver : ρ) :
    handOver (diagnostic :: diagnostics) receiver =
      (receive diagnostic receiver).andThen fun () => handOver diagnostics := rfl

theorem handOver_append (front back : List Diagnostic) (receiver : ρ) :
    handOver (front ++ back) receiver =
      (handOver front receiver).andThen fun () => handOver back := by
  induction front generalizing receiver with
  | nil => rfl
  | cons diagnostic front ih =>
    rw [List.cons_append, handOver_cons, handOver_cons]
    cases receive diagnostic receiver with
    | ok _ after => exact ih after
    | error failure after => rfl

theorem handOver_concat (diagnostics : List Diagnostic) (diagnostic : Diagnostic) (receiver : ρ) :
    handOver (diagnostics ++ [diagnostic]) receiver =
      (handOver diagnostics receiver).andThen fun () => receive diagnostic := by
  rw [handOver_append]
  congr 1
  funext _ after
  rw [handOver_cons]
  cases receive diagnostic after <;> rfl

end Receiver

section Bytes

variable {bytes front back : ByteArray} {stop : Nat}

private theorem extract_of_size_le (le : bytes.size ≤ stop) : bytes.extract 0 stop = bytes := by
  apply ByteArray.ext
  rw [ByteArray.data_extract]
  exact Array.extract_eq_self_of_le le

private theorem extract_append_of_size_le (le : front.size ≤ stop) :
    (front ++ back).extract 0 stop = front ++ back.extract 0 (stop - front.size) := by
  rw [ByteArray.extract_append, extract_of_size_le le, Nat.zero_sub]

private theorem extract_append_of_le (le : stop ≤ front.size) :
    (front ++ back).extract 0 stop = front.extract 0 stop := by
  rw [ByteArray.extract_append, Nat.sub_eq_zero_of_le le, Nat.zero_sub, ByteArray.extract_same,
    ByteArray.append_empty]

end Bytes

namespace Collector

variable {taken : List Diagnostic} {limit : Nat}

private theorem receive_of_room (room : taken.length < limit) (diagnostic : Diagnostic) :
    Receiver.receive diagnostic (⟨taken, some limit⟩ : Collector) =
      .ok () ⟨taken ++ [diagnostic], some limit⟩ :=
  if_pos (decide_eq_true room)

private theorem receive_of_full (full : limit ≤ taken.length) (diagnostic : Diagnostic) :
    Receiver.receive diagnostic (⟨taken, some limit⟩ : Collector) =
      .error .collectionFull ⟨taken, some limit⟩ := by
  refine if_neg fun room => ?_
  have below : taken.length < limit := of_decide_eq_true room
  omega

/-- A collector with room for so many diagnostics takes the first of them. -/
theorem handOver_eq {room : Nat} (fits : taken.length + room = limit)
    (diagnostics : List Diagnostic) :
    Receiver.handOver diagnostics (⟨taken, some limit⟩ : Collector) =
      .provided (diagnostics.length ≤ room) .collectionFull
        ⟨taken ++ diagnostics.take room, some limit⟩ := by
  induction diagnostics generalizing taken room with
  | nil =>
    rw [Receiver.handOver_nil, List.take_nil, List.append_nil]
    exact (Outcome.provided_pos (Nat.zero_le room) ..).symm
  | cons diagnostic diagnostics ih =>
    rw [Receiver.handOver_cons]
    cases room with
    | zero =>
      rw [receive_of_full (by omega), List.take_zero, List.append_nil]
      exact (Outcome.provided_neg (Nat.not_succ_le_zero _) ..).symm
    | succ room =>
      have fits' : (taken ++ [diagnostic]).length + room = limit := by
        rw [List.length_append, List.length_singleton]
        omega
      rw [receive_of_room (by omega), Outcome.andThen_ok, ih fits', List.append_assoc]
      simp only [List.singleton_append, List.take_succ_cons, List.length_cons,
        Nat.add_le_add_iff_right]

end Collector

namespace LineWriter

def lines (diagnostics : List Diagnostic) : String :=
  String.join (diagnostics.map fun diagnostic => diagnostic.render.push '\n')

theorem toUTF8_lines_cons (diagnostic : Diagnostic) (diagnostics : List Diagnostic) :
    (lines (diagnostic :: diagnostics)).toUTF8 =
      (diagnostic.render.push '\n').toUTF8 ++ (lines diagnostics).toUTF8 := by
  rw [lines, List.map_cons, String.join_cons]
  exact String.toByteArray_append

variable {written : ByteArray} {capacity room : Nat}

private theorem receive_eq (fits : written.size + room = capacity) (diagnostic : Diagnostic) :
    let line := (diagnostic.render.push '\n').toUTF8
    Receiver.receive diagnostic (⟨⟨written, some capacity⟩⟩ : LineWriter) =
      .provided (line.size ≤ room) .sinkFull
        ⟨⟨written ++ line.extract 0 room, some capacity⟩⟩ := by
  intro line
  have left : capacity - written.size = room := by omega
  change (Sink.write line ⟨written, some capacity⟩).lift id mk = _
  rw [Sink.write, Outcome.provided]
  dsimp only
  rw [left]
  split <;> rfl

/-- A writer with room for so many bytes writes the first of its lines. -/
theorem handOver_eq (fits : written.size + room = capacity) (diagnostics : List Diagnostic) :
    let output := (lines diagnostics).toUTF8
    Receiver.handOver diagnostics (⟨⟨written, some capacity⟩⟩ : LineWriter) =
      .provided (output.size ≤ room) .sinkFull
        ⟨⟨written ++ output.extract 0 room, some capacity⟩⟩ := by
  intro output
  induction diagnostics generalizing written room with
  | nil =>
    have nothing : output.size ≤ room := Nat.zero_le room
    have same : written ++ output = written := ByteArray.append_empty
    rw [extract_of_size_le nothing, same, Outcome.provided_pos nothing, Receiver.handOver_nil]
  | cons diagnostic diagnostics ih =>
    have split : output = _ := toUTF8_lines_cons diagnostic diagnostics
    rw [Receiver.handOver_cons, receive_eq fits, split, ByteArray.size_append]
    generalize (diagnostic.render.push '\n').toUTF8 = line
    generalize (lines diagnostics).toUTF8 = later at ih
    by_cases whole : line.size ≤ room
    · have fits' : (written ++ line).size + (room - line.size) = capacity := by
        rw [ByteArray.size_append]
        omega
      have both : line.size + later.size ≤ room ↔ later.size ≤ room - line.size := by omega
      rw [Outcome.provided_pos whole, Outcome.andThen_ok, extract_of_size_le whole, ih fits',
        extract_append_of_size_le whole, ByteArray.append_assoc]
      simp only [both]
    · have beyond : ¬ line.size + later.size ≤ room := by omega
      rw [Outcome.provided_neg whole, Outcome.andThen_error, Outcome.provided_neg beyond,
        extract_append_of_le (by omega)]

/-- A writer on a sink without a bound writes all its lines. -/
theorem handOver_of_unbounded (written : ByteArray) (diagnostics : List Diagnostic) :
    Receiver.handOver diagnostics (⟨⟨written, none⟩⟩ : LineWriter) =
      .ok () ⟨⟨written ++ (lines diagnostics).toUTF8, none⟩⟩ := by
  induction diagnostics generalizing written with
  | nil =>
    have same : written ++ (lines []).toUTF8 = written := ByteArray.append_empty
    rw [same, Receiver.handOver_nil]
  | cons diagnostic diagnostics ih =>
    have received : Receiver.receive diagnostic (⟨⟨written, none⟩⟩ : LineWriter) =
        .ok () ⟨⟨written ++ (diagnostic.render.push '\n').toUTF8, none⟩⟩ := rfl
    rw [Receiver.handOver_cons, received, Outcome.andThen_ok, ih, toUTF8_lines_cons,
      ByteArray.append_assoc]

end LineWriter

end GrammarCheck
