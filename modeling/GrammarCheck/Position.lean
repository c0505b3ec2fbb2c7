/-! # Positions

A position names a text and a place in it, counted in logical lines and columns.
-/

namespace GrammarCheck

/-- A place in a named text. Lines and columns count from one once a character has been read. -/
structure Position where
  source : String
  line : Nat
  column : Nat
  deriving DecidableEq, Repr

/-- A position is written `source(line, column)`. -/
def Position.render (position : Position) : String :=
  position.source ++ "(" ++ position.line.repr ++ ", " ++ position.column.repr ++ ")"

end GrammarCheck
