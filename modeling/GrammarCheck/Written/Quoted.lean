import GrammarCheck.Written.ExtendingMarks
import GrammarCheck.Written.Unprintable

/-! # Quoted text

Text between quotation marks on one line, in characters that can be seen. What cannot be seen on
its own, and the two characters that the form itself uses, are written as escapes.
-/

namespace GrammarCheck.Written

/-- An escape by code point, in lower-case hexadecimal without leading zeros. -/
def codeEscape (c : Char) : List Char :=
  ['\\', 'u', '\x7b'] ++ Nat.toDigits 16 c.toNat ++ ['\x7d']

/-- Printable ASCII needs no table. -/
def isPlain (c : Char) : Bool :=
  ' ' ≤ c && c ≤ '~'

def quotedChar (c : Char) : List Char :=
  match c with
  | '\x00' => ['\\', '0']
  | '\t' => ['\\', 't']
  | '\r' => ['\\', 'r']
  | '\n' => ['\\', 'n']
  | '"' => ['\\', '"']
  | '\\' => ['\\', '\\']
  | c =>
    if isPlain c then [c]
    else if extendingMarks.contains c || unprintable.contains c then codeEscape c
    else [c]

def quoted (text : String) : String :=
  String.ofList ('"' :: text.toList.flatMap quotedChar ++ ['"'])

end GrammarCheck.Written
