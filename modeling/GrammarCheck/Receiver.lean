import GrammarCheck.Bytes.Sink
import GrammarCheck.Diagnostic

/-! # Receivers

A receiver takes diagnostics in the order in which they are found. It may refuse one; what it took
before it keeps.
-/

namespace GrammarCheck

class Receiver (ρ : Type) where
  receive : Diagnostic → ρ → Outcome IoFailure ρ Unit

/-- Collects diagnostics, up to a limit if there is one. -/
structure Collector where
  diagnostics : List Diagnostic := []
  limit? : Option Nat := none
  deriving DecidableEq, Repr

def Collector.hasRoom (collector : Collector) : Bool :=
  match collector.limit? with
  | none => true
  | some limit => collector.diagnostics.length < limit

instance : Receiver Collector where
  receive diagnostic collector :=
    if collector.hasRoom then
      .ok () { collector with diagnostics := collector.diagnostics ++ [diagnostic] }
    else .error .collectionFull collector

structure LineWriter where
  sink : Sink := {}

instance : Receiver LineWriter where
  receive diagnostic writer := (writer.sink.writeLine diagnostic.render).lift id LineWriter.mk

structure Discard where
  deriving DecidableEq, Repr

instance : Receiver Discard where
  receive _ discard := .ok () discard

end GrammarCheck
