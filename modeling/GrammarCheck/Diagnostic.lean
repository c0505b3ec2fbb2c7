import GrammarCheck.Token

/-! # Diagnostics

A diagnostic is a token that does not fit, with the kinds that would have fitted in its place.
-/

namespace GrammarCheck

/-- A token found where none of the `expected` kinds was. -/
structure Diagnostic where
  found : Token
  expected : List Token.Kind
  deriving DecidableEq, Repr

namespace Diagnostic

/-- Alternatives are joined by commas, and the last two by `or`. -/
def alternatives : List String → String
  | [] => ""
  | [last] => last
  | [previous, last] => previous ++ " or " ++ last
  | first :: rest => first ++ ", " ++ alternatives rest

/-- What was expected and what was found, without the position. -/
def message (diagnostic : Diagnostic) : String :=
  "expected " ++ alternatives (diagnostic.expected.map Token.Kind.description) ++
    ", found " ++ diagnostic.found.description

def position (diagnostic : Diagnostic) : Position :=
  diagnostic.found.position

/-- The line that reports a diagnostic: its position, then its message. -/
def render (diagnostic : Diagnostic) : String :=
  diagnostic.position.render ++ ": " ++ diagnostic.message

end Diagnostic

end GrammarCheck
