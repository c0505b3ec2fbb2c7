import GrammarCheck.Failure
import GrammarCheck.Outcome

/-! # Byte sinks

A sink takes bytes up to its capacity. A write that overflows it leaves the bytes that fit and
fails.
-/

namespace GrammarCheck

/-- The bytes written so far, with a bound on them if there is one. -/
structure Sink where
  written : ByteArray := ByteArray.empty
  capacity? : Option Nat := none

namespace Sink

/-- Writes all the bytes, or as many as fit. -/
def write (bytes : ByteArray) (sink : Sink) : Outcome IoFailure Sink Unit :=
  match sink.capacity? with
  | none => .ok () { sink with written := sink.written ++ bytes }
  | some capacity =>
    let room := capacity - sink.written.size
    let after := { sink with written := sink.written ++ bytes.extract 0 room }
    if bytes.size ≤ room then .ok () after else .error .sinkFull after

def writeLine (line : String) (sink : Sink) : Outcome IoFailure Sink Unit :=
  sink.write (line.push '\n').toUTF8

end Sink

end GrammarCheck
