import GrammarCheck.Written.Quoted

/-! # Text for a terminal

Control characters that a terminal would obey are written as escapes; all else stays as it is.
-/

namespace GrammarCheck.Written

/-- Characters that would steer a terminal. -/
def steers (c : Char) : Bool :=
  c = '\x07' || c = '\x08' || c = '\x0c' || c = '\x1b' || c = '\x7f'

def isHighControl (c : Char) : Bool :=
  '\u0080' ≤ c && c ≤ '\u009f'

/-- Two hexadecimal digits of a code point below 256. -/
def byteEscape (c : Char) : List Char :=
  ['\\', 'x', Nat.digitChar (c.toNat / 16), Nat.digitChar (c.toNat % 16)]

def terminalSafe (text : String) : String :=
  String.ofList (text.toList.flatMap fun c =>
    if steers c then byteEscape c else if isHighControl c then codeEscape c else [c])

end GrammarCheck.Written
