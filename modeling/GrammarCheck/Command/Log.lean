import GrammarCheck.Event
import GrammarCheck.Written.TerminalSafe

/-! # The log

Events that matter enough are shown, one line each. How much an event has to matter is set by the
number of times that the command was asked for more, or by a level named in the environment.
-/

namespace GrammarCheck

/-- The least level that is shown, or nothing at all. -/
structure LogFilter where
  least? : Option Level
  deriving DecidableEq, Repr

namespace LogFilter

/-- Warnings are shown at first, and one level more each time. -/
def ofVerbosity : Nat → LogFilter
  | 0 => ⟨some .warn⟩
  | 1 => ⟨some .info⟩
  | 2 => ⟨some .debug⟩
  | _ => ⟨some .trace⟩

/-- Levels are numbered from nothing at all to everything. -/
def ofNumber? : Nat → Option LogFilter
  | 0 => some ⟨none⟩
  | 1 => some ⟨some .error⟩
  | 2 => some ⟨some .warn⟩
  | 3 => some ⟨some .info⟩
  | 4 => some ⟨some .debug⟩
  | 5 => some ⟨some .trace⟩
  | _ => none

/-- A number in decimal digits. Leading zeros do not count. -/
def decimal? (digits : List Char) : Option Nat :=
  if !digits.isEmpty && digits.all Char.isDigit then some (Nat.ofDigitChars 10 digits 0) else none

/-- A level by its name in any case, or by its number. -/
def ofName? (name : String) : Option LogFilter :=
  match name.toLower with
  | "off" => some ⟨none⟩
  | "error" => some ⟨some .error⟩
  | "warn" => some ⟨some .warn⟩
  | "info" => some ⟨some .info⟩
  | "debug" => some ⟨some .debug⟩
  | "trace" => some ⟨some .trace⟩
  | _ => (decimal? name.toList).bind ofNumber?

/-- A level named in the environment wins over the verbosity. -/
def choose (named? : Option String) (verbosity : Nat) : LogFilter :=
  (named?.bind ofName?).getD (ofVerbosity verbosity)

def shows (filter : LogFilter) (event : Event) : Bool :=
  match filter.least? with
  | none => false
  | some least => least.severity ≤ event.level.severity

end LogFilter

namespace Event

def Field.render (field : Field) : String :=
  field.name ++ "=" ++ if field.quoted then Written.quoted field.text else field.text

/-- The line that shows an event: level, target, message and fields. -/
def logLine (event : Event) : String :=
  event.level.name ++ " " ++ event.target ++ ": " ++
    " ".intercalate (Written.terminalSafe event.message :: event.fields.map Field.render)

end Event

end GrammarCheck
