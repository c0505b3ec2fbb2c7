/-! # Token kinds

The closed set of kinds that lexing gives. Groups come in three shapes, and each shape has an
opening and a closing kind, so that matching brackets is equality of shapes.
-/

namespace GrammarCheck

/-- The three shapes of a group. -/
inductive Bracket where
  | paren
  | square
  | curly
  deriving DecidableEq, Repr

inductive Token.Kind where
  /-- The text has ended. -/
  | endOfInput
  /-- A character that starts no token. -/
  | unknown
  /-- A quoted literal that its line or the text cuts off. -/
  | unterminatedLiteral
  | period
  | bar
  | assign
  | opening (bracket : Bracket)
  | closing (bracket : Bracket)
  | identifier
  | literal
  deriving DecidableEq, Repr

namespace Bracket

def openChar : Bracket → Char
  | paren => '('
  | square => '['
  | curly => '{'

def closeChar : Bracket → Char
  | paren => ')'
  | square => ']'
  | curly => '}'

end Bracket

namespace Token.Kind

/-- The shape of the group that a kind opens, if it opens one. -/
def opens? : Token.Kind → Option Bracket
  | opening bracket => some bracket
  | _ => none

/-- The kind that closes the group opened by a kind, if it opens one. -/
def closer? (kind : Token.Kind) : Option Token.Kind :=
  kind.opens?.map closing

/-- The one character that spells a kind of punctuation. -/
def spelling? : Token.Kind → Option Char
  | period => some '.'
  | bar => some '|'
  | assign => some '='
  | opening bracket => some bracket.openChar
  | closing bracket => some bracket.closeChar
  | endOfInput | unknown | unterminatedLiteral | identifier | literal => none

def ofChar? : Char → Option Token.Kind
  | '.' => some period
  | '|' => some bar
  | '=' => some assign
  | '(' => some (opening .paren)
  | '[' => some (opening .square)
  | '{' => some (opening .curly)
  | ')' => some (closing .paren)
  | ']' => some (closing .square)
  | '}' => some (closing .curly)
  | _ => none

/-- Reading a punctuation character and spelling a punctuation kind are inverse. -/
theorem ofChar?_eq_some_iff (c : Char) (kind : Token.Kind) :
    ofChar? c = some kind ↔ kind.spelling? = some c := by
  constructor
  · intro read
    unfold ofChar? at read
    split at read <;> simp_all <;> subst kind <;> rfl
  · intro spelled
    rcases kind with _ | _ | _ | _ | _ | _ | ⟨_ | _ | _⟩ | ⟨_ | _ | _⟩ | _ | _ <;>
      simp_all [spelling?, Bracket.openChar, Bracket.closeChar] <;> subst c <;> rfl

def name : Token.Kind → String
  | endOfInput => "EndOfInput"
  | unknown => "Unknown"
  | unterminatedLiteral => "UnterminatedLiteral"
  | period => "Period"
  | bar => "Bar"
  | assign => "Assign"
  | opening .paren => "OpenParen"
  | opening .square => "OpenBracket"
  | opening .curly => "OpenCurly"
  | closing .paren => "CloseParen"
  | closing .square => "CloseBracket"
  | closing .curly => "CloseCurly"
  | identifier => "Identifier"
  | literal => "Literal"

/-- How a message names a kind: punctuation as its quoted character, the rest in words. -/
def description (kind : Token.Kind) : String :=
  match kind with
  | endOfInput => "end of input"
  | unknown => "unknown character"
  | unterminatedLiteral => "unterminated literal"
  | identifier => "identifier"
  | literal => "literal"
  | period => "'.'"
  | bar => "'|'"
  | assign => "'='"
  | opening bracket => "'" ++ bracket.openChar.toString ++ "'"
  | closing bracket => "'" ++ bracket.closeChar.toString ++ "'"

/-- The kinds that a factor can start with, in the order in which a message lists them. -/
def factorKinds : List Token.Kind :=
  [identifier, literal, opening .paren, opening .square, opening .curly]

end Token.Kind

end GrammarCheck
