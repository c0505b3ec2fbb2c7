import GrammarCheck.Chars.Text
import GrammarCheck.Checker.Run
import GrammarCheck.Lexer

/-! # Checking a text

A check reads a text from its first character, reports every token that does not fit, and says how
many it reported. Its beginning and its end are noted.
-/

namespace GrammarCheck

/-- A cursor before the first character of a stream. Lines are counted on from `line`. -/
def Cursor.start {σ : Type} (source : σ) (name : String) (line column : Nat) : Cursor σ :=
  { source, name, line, column }

def Lexer.start {σ : Type} (source : σ) (name : String) (line column : Nat) : Lexer σ :=
  { cursor := Cursor.start source name line column }

def Checker.start {σ ρ : Type} (source : σ) (name : String) (line column : Nat) (receiver : ρ) :
    Checker (Lexer σ) ρ :=
  { tokens := Lexer.start source name line column, receiver }

/-- Checks a whole text and returns the number of its diagnostics. -/
def check {σ ρ : Type} [CharStream σ] [Receiver ρ] (source : σ) (name : String) (receiver : ρ) :
    Outcome Failure (Checker (Lexer σ) ρ) Nat :=
  let checker := (Checker.start source name 0 0 receiver).note (.checking name)
  (checker.check .text).andThen fun () checker =>
    .ok checker.reportCount (checker.release.note (.checked name checker.reportCount))

def diagnosticsOf (text name : String) : Except Failure (List Diagnostic) :=
  match check (Text.ofString text) name ({} : Collector) with
  | .ok _ checker => .ok checker.receiver.diagnostics
  | .error failure _ => .error failure

end GrammarCheck
