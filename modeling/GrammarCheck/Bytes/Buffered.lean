import GrammarCheck.Bytes.Feed

/-! # Buffered lines of bytes

A buffer reads its feed one block at a time and gives the bytes out one line at a time. A line ends
with its line feed or with the feed. How the feed is cut into blocks does not show in the lines;
it shows in how much of the feed has been taken when reading stops.
-/

namespace GrammarCheck

/-- A feed read in blocks of at most `capacity` bytes, with the bytes of the last block that are
still to be given out. -/
structure Buffered where
  capacity : Nat
  pending : List UInt8 := []
  feed : Feed

namespace Buffered

/-- The bytes and failures that the buffer still has to give out. -/
def toFeed (buffer : Buffered) : Feed :=
  Feed.ofBytes buffer.pending ++ buffer.feed

def bytesLeft (buffer : Buffered) : Nat :=
  buffer.pending.length + buffer.feed.length

/-- Reads the next block if the last one has been given out. -/
def refill (buffer : Buffered) : Outcome IoFailure Buffered Unit :=
  match buffer.pending with
  | [] =>
    match buffer.feed.read buffer.capacity with
    | .error failure feed => .error failure { buffer with feed }
    | .ok pending feed => .ok () { buffer with pending, feed }
  | _ :: _ => .ok () buffer

theorem bytesLeft_refill_le (buffer : Buffered) :
    buffer.refill.state.bytesLeft ≤ buffer.bytesLeft := by
  rcases buffer with ⟨capacity, _ | ⟨byte, pending⟩, feed⟩
  · rcases feed with _ | ⟨failure | byte, rest⟩
    · cases capacity <;> simp [refill, Feed.read, Feed.takeBytes, bytesLeft]
    · simp [refill, Feed.read, bytesLeft]
    · have lengths := Feed.length_takeBytes capacity (.ok byte :: rest)
      simp only [refill, Feed.read, bytesLeft, Outcome.state_ok, List.length_nil] at *
      omega
  · exact Nat.le_refl _

/-- A read neither loses bytes nor invents them, and it finds some unless the feed has ended. -/
theorem toFeed_of_refill {buffer rest : Buffered} (success : buffer.refill = .ok () rest) :
    rest.toFeed = buffer.toFeed ∧ rest.capacity = buffer.capacity ∧
      (0 < buffer.capacity → rest.pending = [] → buffer.toFeed = []) := by
  rcases buffer with ⟨capacity, _ | ⟨byte, pending⟩, feed⟩
  · rcases feed with _ | ⟨failure | byte, feed⟩
    · cases capacity <;> cases success <;> simp [toFeed, Feed.takeBytes, Feed.ofBytes]
    · cases success
    · cases success
      refine ⟨Feed.takeBytes_append capacity (.ok byte :: feed), rfl, ?_⟩
      intro positive empty
      cases capacity with
      | zero => cases positive
      | succ capacity => simp [Feed.takeBytes] at empty
  · cases success
    simp

/-- A failed read takes just the failure out of the feed. -/
theorem toFeed_of_refill_error {buffer rest : Buffered} {failure : IoFailure}
    (failed : buffer.refill = .error failure rest) :
    buffer.toFeed = .error failure :: rest.toFeed := by
  rcases buffer with ⟨capacity, _ | ⟨byte, pending⟩, feed⟩
  · rcases feed with _ | ⟨failure | byte, feed⟩
    · cases capacity <;> cases failed
    · cases failed
      rfl
    · cases failed
  · cases failed

/-- Splits bytes after the first line feed; `none` if there is none. -/
def splitLine? : List UInt8 → Option (List UInt8 × List UInt8)
  | [] => none
  | byte :: rest =>
    if byte = Feed.lineFeed then some ([byte], rest)
    else (splitLine? rest).map fun (line, rest) => (byte :: line, rest)

/-- Splitting after a line feed loses nothing, and the line is not empty. -/
theorem splitLine?_eq_some {bytes line rest : List UInt8}
    (split : splitLine? bytes = some (line, rest)) : line ++ rest = bytes ∧ line ≠ [] := by
  induction bytes generalizing line rest with
  | nil => simp [splitLine?] at split
  | cons byte bytes ih =>
    unfold splitLine? at split
    split at split
    · simp only [Option.some.injEq, Prod.mk.injEq] at split
      rcases split with ⟨rfl, rfl⟩
      simp
    · obtain ⟨⟨front, back⟩, found, eq⟩ := Option.map_eq_some_iff.mp split
      simp only [Prod.mk.injEq] at eq
      rcases eq with ⟨rfl, rfl⟩
      simp [(ih found).1]

/-- A line found in the bytes at hand is the line of the feed that starts with them. -/
theorem line_of_splitLine? {bytes line rest : List UInt8} (feed : Feed)
    (found : splitLine? bytes = some (line, rest)) :
    (Feed.ofBytes bytes ++ feed).line = ⟨line, none, Feed.ofBytes rest ++ feed⟩ := by
  induction bytes generalizing line rest with
  | nil => simp [splitLine?] at found
  | cons byte bytes ih =>
    unfold splitLine? at found
    simp only [Feed.ofBytes, List.map_cons, List.cons_append, Feed.line] at ih ⊢
    split at found
    · next ends =>
      simp only [Option.some.injEq, Prod.mk.injEq] at found
      rcases found with ⟨rfl, rfl⟩
      simp [ends]
    · next goesOn =>
      obtain ⟨⟨front, back⟩, inner, eq⟩ := Option.map_eq_some_iff.mp found
      simp only [Prod.mk.injEq] at eq
      rcases eq with ⟨rfl, rfl⟩
      simp [goesOn, ih inner]

/-- Without a line feed among the bytes at hand, the line goes on behind them. -/
theorem line_of_splitLine?_none {bytes : List UInt8} (feed : Feed)
    (absent : splitLine? bytes = none) :
    (Feed.ofBytes bytes ++ feed).line =
      ⟨bytes ++ feed.line.bytes, feed.line.failure?, feed.line.rest⟩ := by
  induction bytes with
  | nil => rfl
  | cons byte bytes ih =>
    unfold splitLine? at absent
    split at absent
    · cases absent
    · next goesOn =>
      have further := ih (Option.map_eq_none_iff.mp absent)
      simp only [Feed.ofBytes] at further
      simp [Feed.ofBytes, Feed.line, goesOn, further]

/-- Reads up to and including the next line feed, or to the end of the feed, or to a failed read.
No bytes and no failure mean that the feed has ended. -/
def readLine (buffer : Buffered) : Feed.Line Buffered :=
  match _refilled : buffer.refill with
  | .error failure rest => ⟨[], some failure, rest⟩
  | .ok () rest =>
    match splitLine? rest.pending with
    | some (line, pending) => ⟨line, none, { rest with pending }⟩
    | none =>
      if _empty : rest.pending = [] then ⟨[], none, rest⟩
      else
        let further := readLine { rest with pending := [] }
        { further with bytes := rest.pending ++ further.bytes }
termination_by buffer.bytesLeft
decreasing_by
  have bound := bytesLeft_refill_le buffer
  rw [_refilled] at bound
  have positive := List.length_pos_iff.mpr _empty
  simp only [bytesLeft, Outcome.state_ok, List.length_nil] at *
  omega

/-- The bytes of a line come out of the buffer. -/
theorem length_readLine_le (buffer : Buffered) :
    buffer.readLine.bytes.length + buffer.readLine.rest.bytesLeft ≤ buffer.bytesLeft := by
  fun_induction readLine buffer with
  | case1 buffer failure rest refilled =>
    have bound := bytesLeft_refill_le buffer
    simpa [refilled] using bound
  | case2 buffer rest refilled line pending split =>
    have bound := bytesLeft_refill_le buffer
    rw [refilled] at bound
    have lengths := congrArg List.length (splitLine?_eq_some split).1
    simp only [List.length_append, bytesLeft, Outcome.state_ok] at *
    omega
  | case3 buffer rest refilled split empty =>
    have bound := bytesLeft_refill_le buffer
    simpa [refilled] using bound
  | case4 buffer rest refilled split nonempty further ih =>
    have bound := bytesLeft_refill_le buffer
    rw [refilled] at bound
    simp only [List.length_append, bytesLeft, Outcome.state_ok, List.length_nil, further] at *
    omega

/-- The blocks do not show in the lines: a line is that of the feed still to be given out. -/
theorem map_toFeed_readLine (buffer : Buffered) (positive : 0 < buffer.capacity) :
    buffer.readLine.map toFeed = buffer.toFeed.line := by
  fun_induction readLine buffer with
  | case1 buffer failure rest refilled =>
    rw [toFeed_of_refill_error refilled]
    rfl
  | case2 buffer rest refilled line pending split =>
    rw [← (toFeed_of_refill refilled).1]
    exact (line_of_splitLine? rest.feed split).symm
  | case3 buffer rest refilled split empty =>
    obtain ⟨same, _, ended⟩ := toFeed_of_refill refilled
    rw [ended positive empty] at same ⊢
    simp [Feed.Line.map, Feed.line, same]
  | case4 buffer rest refilled split nonempty further ih =>
    obtain ⟨same, capacity, _⟩ := toFeed_of_refill refilled
    have tail := ih (by simpa [capacity] using positive)
    simp only [toFeed, Feed.ofBytes, List.map_nil, List.nil_append] at tail
    rw [← same, show rest.toFeed = Feed.ofBytes rest.pending ++ rest.feed from rfl,
      line_of_splitLine?_none rest.feed split, ← tail]
    rfl

end Buffered

end GrammarCheck
