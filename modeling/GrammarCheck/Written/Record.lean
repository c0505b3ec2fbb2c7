import GrammarCheck.Diagnostic
import GrammarCheck.Written.Quoted

/-! # Records

Values written field by field, each type under its name. Texts are quoted.
-/

namespace GrammarCheck.Written

/-- A record: the name of its type and its fields. -/
def record (name : String) (fields : List (String × String)) : String :=
  name ++ " \x7b " ++ ", ".intercalate (fields.map fun (field, value) => field ++ ": " ++ value) ++
    " \x7d"

def positionRecord (position : Position) : String :=
  record "SourcePosition"
    [("source", quoted position.source), ("line", position.line.repr),
      ("column", position.column.repr)]

def tokenRecord (token : Token) : String :=
  record "Token"
    [("position", positionRecord token.position), ("kind", token.kind.name),
      ("text", quoted token.text)]

def diagnosticRecord (diagnostic : Diagnostic) : String :=
  record "Diagnostic"
    [("found", tokenRecord diagnostic.found),
      ("expected", "[" ++ ", ".intercalate (diagnostic.expected.map Token.Kind.name) ++ "]")]

/-- The line that lists a token: its position, its kind and its text in quotes. -/
def tokenLine (token : Token) : String :=
  token.position.render ++ ": " ++ token.kind.name ++ " " ++ quoted token.text

end GrammarCheck.Written
