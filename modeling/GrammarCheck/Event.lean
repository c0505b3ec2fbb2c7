import GrammarCheck.Diagnostic

/-! # Events

Each layer notes what it does: the cursor its lines, the lexer its tokens, the checker its
diagnostics, the command its end. An event has a severity, the part of the program that speaks,
a message and named fields.
-/

namespace GrammarCheck

/-- How much an event matters, least first. -/
inductive Level where
  | trace
  | debug
  | info
  | warn
  | error
  deriving DecidableEq, Repr

namespace Level

def severity : Level → Nat
  | trace => 0
  | debug => 1
  | info => 2
  | warn => 3
  | error => 4

def name : Level → String
  | trace => "TRACE"
  | debug => "DEBUG"
  | info => "INFO"
  | warn => "WARN"
  | error => "ERROR"

end Level

/-- What the parts of the program have to tell. -/
inductive Event where
  /-- The cursor passed the last character. -/
  | endOfInput (line column : Nat)
  /-- The cursor read a character that ends a line. -/
  | lineBreak (line : Nat)
  /-- The cursor let go of its text. -/
  | closed (source : String)
  /-- The lexer made a token its lookahead. -/
  | token (found : Token)
  /-- A check begins. -/
  | checking (source : String)
  /-- A check ended without a failure. -/
  | checked (source : String) (diagnostics : Nat)
  /-- A production left its first token in place. -/
  | stuck (position : Position)
  /-- The token at `position` did not fit again. -/
  | suppressed (position : Position)
  /-- A token did not fit. -/
  | reported (diagnostic : Diagnostic)
  /-- The command went through all its files. -/
  | done (files diagnostics : Nat)
  deriving DecidableEq, Repr

/-- A named value of an event. Plain strings are shown in quotes, all else as it is. -/
structure Event.Field where
  name : String
  text : String
  quoted : Bool := false
  deriving DecidableEq, Repr

namespace Event

def level : Event → Level
  | endOfInput .. | lineBreak _ | closed _ | token _ => .trace
  | checking _ | checked .. | stuck _ | suppressed _ | reported _ => .debug
  | done .. => .info

/-- The part of the program that speaks. -/
def target : Event → String
  | endOfInput .. | lineBreak _ | closed _ => "ebnf::reader"
  | token _ => "ebnf::scanner"
  | checking _ | checked .. | stuck _ | suppressed _ | reported _ => "ebnf::parser"
  | done .. => "ebnf_check"

def message : Event → String
  | endOfInput .. => "end of input"
  | lineBreak _ => "line break"
  | closed _ => "closed"
  | token _ => "token"
  | checking _ => "checking"
  | checked .. => "checked"
  | stuck _ => "no progress, skipping token"
  | suppressed _ => "suppressed repeated diagnostic"
  | reported diagnostic => diagnostic.render
  | done .. => "done"

/-- The fields of an event, in the order in which they are shown. -/
def fields : Event → List Field
  | endOfInput line column => [⟨"line", line.repr, false⟩, ⟨"column", column.repr, false⟩]
  | lineBreak line => [⟨"line", line.repr, false⟩]
  | closed source => [⟨"source", source, false⟩]
  | token found =>
    [⟨"kind", found.kind.name, false⟩, ⟨"text", found.text, false⟩,
      ⟨"at", found.position.render, false⟩]
  | checking source => [⟨"source", source, true⟩]
  | checked source diagnostics =>
    [⟨"source", source, true⟩, ⟨"diagnostics", diagnostics.repr, false⟩]
  | stuck position | suppressed position => [⟨"at", position.render, false⟩]
  | reported _ => []
  | done files diagnostics =>
    [⟨"files", files.repr, false⟩, ⟨"diagnostics", diagnostics.repr, false⟩]

end Event

end GrammarCheck
