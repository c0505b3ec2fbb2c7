import GrammarCheck.Command.Run

/-! # The program

Reads the arguments, the files that they name and, if they name it, the standard input, and prints
what the command leaves behind.
-/

namespace GrammarCheck.Command

/-- What it means for reading that the system could not give the bytes of a file. -/
def feedOfError : IO.Error → Except IoFailure Feed
  | .noFileOrDirectory .. => .error .notFound
  | .inappropriateType _ 21 _ => .ok [.error .isADirectory]
  | .inappropriateType .. => .error .notADirectory
  | error => .error ⟨.other, toString error⟩

def readFile (path : String) : IO (Except IoFailure Feed) := do
  try
    return .ok (Feed.ofBytes (← IO.FS.readBinFile path).toList)
  catch error =>
    return feedOfError error

def readFiles (paths : List String) : IO (List (String × Except IoFailure Feed)) :=
  paths.mapM fun path => do return (path, ← readFile path)

def answerOnSystem (request : Request) : IO Report := do
  let paths := match request with
    | .run options => options.files
    | .version | .help => []
  let files ← readFiles (paths.filter (!isStandardInput ·))
  let stdin ←
    if paths.any isStandardInput then
      pure (Feed.ofBytes (← (← IO.getStdin).readBinToEnd).toList)
    else pure []
  let level? ← IO.getEnv "RUST_LOG"
  return answer request level? (fun path => (files.lookup path).getD (.error .notFound)) stdin

end GrammarCheck.Command

open GrammarCheck.Command in
def main (arguments : List String) : IO UInt32 := do
  match Options.ofArguments arguments with
  | .error misuse =>
    IO.eprintln ("error: " ++ misuse.message)
    return failureCode.toUInt32
  | .ok request =>
    let report ← answerOnSystem request
    (← IO.getStdout).write report.stdout
    IO.eprint report.stderr
    return report.code.toUInt32
