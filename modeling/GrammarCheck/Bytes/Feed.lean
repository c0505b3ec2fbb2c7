import GrammarCheck.Failure
import GrammarCheck.Outcome

/-! # Byte feeds

A feed is what a file, a pipe or a test serves: bytes, with failed reads in between. A read takes
bytes up to the first failure, and a failure that comes first is what the read returns.
-/

namespace GrammarCheck

/-- The bytes and failed reads still to come. -/
abbrev Feed := List (Except IoFailure UInt8)

namespace Feed

def ofBytes (bytes : List UInt8) : Feed :=
  bytes.map .ok

/-- A feed that fails `times` times in a row once `offset` bytes are served, if it gets there. -/
def failingAt (bytes : List UInt8) (offset times : Nat) (failure : IoFailure) : Feed :=
  if bytes.length < offset then ofBytes bytes
  else
    ofBytes (bytes.take offset) ++ List.replicate times (.error failure) ++
      ofBytes (bytes.drop offset)

/-- The first bytes of a feed, at most `capacity` of them and none past a failure, with the rest
of the feed. -/
def takeBytes : Nat → Feed → List UInt8 × Feed
  | capacity + 1, .ok byte :: feed =>
    let (bytes, rest) := takeBytes capacity feed
    (byte :: bytes, rest)
  | _, feed => ([], feed)

/-- One read: the failure that comes first, or the bytes before the next one. No bytes means that
the feed has ended. -/
def read (capacity : Nat) : Feed → Outcome IoFailure Feed (List UInt8)
  | .error failure :: rest => .error failure rest
  | feed => .ok (takeBytes capacity feed).1 (takeBytes capacity feed).2

def lineFeed : UInt8 := 10

/-- One line as far as it can be read, the failure that cut it off, and what comes after it. -/
structure Line (α : Type) where
  bytes : List UInt8
  failure? : Option IoFailure
  rest : α

def Line.map {α β : Type} (f : α → β) (line : Line α) : Line β :=
  ⟨line.bytes, line.failure?, f line.rest⟩

/-- The bytes up to and including the next line feed, or to the end, or to a failure. -/
def line : Feed → Line Feed
  | [] => ⟨[], none, []⟩
  | .error failure :: rest => ⟨[], some failure, rest⟩
  | .ok byte :: rest =>
    if byte = lineFeed then ⟨[byte], none, rest⟩
    else
      let further := line rest
      { further with bytes := byte :: further.bytes }

/-- Taking bytes splits the feed and loses none of it. -/
theorem takeBytes_append (capacity : Nat) (feed : Feed) :
    ofBytes (takeBytes capacity feed).1 ++ (takeBytes capacity feed).2 = feed := by
  induction capacity generalizing feed with
  | zero => simp [takeBytes, ofBytes]
  | succ capacity ih =>
    match feed with
    | [] => rfl
    | .error _ :: _ => rfl
    | .ok byte :: rest => simpa [takeBytes, ofBytes] using ih rest

theorem length_takeBytes (capacity : Nat) (feed : Feed) :
    (takeBytes capacity feed).1.length + (takeBytes capacity feed).2.length = feed.length := by
  conv => rhs; rw [← takeBytes_append capacity feed]
  simp [ofBytes]

end Feed

end GrammarCheck
