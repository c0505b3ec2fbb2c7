/-! # Character classes

The classes that lexing distinguishes. Words and quotes are ASCII; blanks and line ends reach
beyond it.
-/

namespace GrammarCheck.Chars

/-- Line feed, vertical tab, form feed, carriage return, next line, and the Unicode line and
paragraph separators end a line. -/
def isLineEnd (c : Char) : Bool :=
  c = '\n' || c = '\x0b' || c = '\x0c' || c = '\r' || c = '\u0085' || c = '\u2028' || c = '\u2029'

/-- Blanks are the space, the tab, and the space separators above ASCII. -/
def isBlank (c : Char) : Bool :=
  c = ' ' || c = '\t' || c = '\u00a0' || c = '\u1680' || ('\u2000' ≤ c && c ≤ '\u200a') ||
    c = '\u202f' || c = '\u205f' || c = '\u3000'

def isWordStart (c : Char) : Bool :=
  c.isAlpha || c = '_'

/-- A word goes on with letters, underscores and ASCII digits. -/
def isWordRest (c : Char) : Bool :=
  isWordStart c || c.isDigit

/-- A literal stands between two apostrophes or two quotation marks. -/
def isQuote (c : Char) : Bool :=
  c = '\'' || c = '"'

def isCommentStart (c : Char) : Bool :=
  c = '#'

end GrammarCheck.Chars
