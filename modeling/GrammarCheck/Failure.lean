import GrammarCheck.Position

/-! # Failures

What can go wrong around a check. A token that does not fit is never a failure: it is reported and
the check goes on. A failure ends the operation that met it.
-/

namespace GrammarCheck

inductive IoFailure.Kind where
  /-- The bytes read are not well-formed text. -/
  | invalidData
  /-- The sink took no more bytes. -/
  | writeZero
  | notFound
  | notADirectory
  | isADirectory
  | invalidFilename
  | other
  deriving DecidableEq, Repr

/-- A failed read or write: its class and the words for it. -/
structure IoFailure where
  kind : IoFailure.Kind
  message : String
  deriving DecidableEq, Repr

namespace IoFailure

def invalidUtf8 : IoFailure := ⟨.invalidData, "stream did not contain valid UTF-8"⟩

def sinkFull : IoFailure := ⟨.writeZero, "failed to write whole buffer"⟩

def collectionFull : IoFailure := ⟨.other, "reporter full"⟩

def notFound : IoFailure := ⟨.notFound, "No such file or directory (os error 2)"⟩

def notADirectory : IoFailure := ⟨.notADirectory, "Not a directory (os error 20)"⟩

def isADirectory : IoFailure := ⟨.isADirectory, "Is a directory (os error 21)"⟩

def nameTooLong : IoFailure := ⟨.invalidFilename, "File name too long (os error 36)"⟩

end IoFailure

/-- Why an operation ended without a result. -/
inductive Failure where
  /-- The text could not be read, or a diagnostic could not be delivered. -/
  | io (cause : IoFailure)
  /-- The text was already released. -/
  | closed
  /-- The group opened at `position` would be one more than `limit` open at once. -/
  | nestingTooDeep (position : Position) (limit : Nat)
  deriving DecidableEq, Repr

namespace Failure

def message : Failure → String
  | io cause => "i/o failure: " ++ cause.message
  | closed => "character source already closed"
  | nestingTooDeep position limit =>
    position.render ++ ": groups nested deeper than " ++ limit.repr ++ " levels"

/-- The words for the failure underneath, where there is one. -/
def cause? : Failure → Option String
  | io cause => some cause.message
  | closed | nestingTooDeep .. => none

end Failure

end GrammarCheck
