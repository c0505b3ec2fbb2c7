import GrammarCheck.Position
import GrammarCheck.Token.Kind

/-! # Tokens

A token is a kind, its text, and the position of its first character. Two tokens are equal when
all three agree.
-/

namespace GrammarCheck

structure Token where
  position : Position
  kind : Token.Kind
  text : String
  deriving DecidableEq, Repr

/-- How a message shows a token. Literals carry their own quotes, the rest is quoted here. -/
def Token.description (token : Token) : String :=
  match token.kind with
  | .endOfInput => "end of input"
  | .unknown => "unknown character '" ++ token.text ++ "'"
  | .unterminatedLiteral => "unterminated literal " ++ token.text
  | .identifier => "identifier '" ++ token.text ++ "'"
  | .literal => "literal " ++ token.text
  | .period | .bar | .assign | .opening _ | .closing _ => "'" ++ token.text ++ "'"

end GrammarCheck
