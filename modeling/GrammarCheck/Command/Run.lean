import GrammarCheck.Check
import GrammarCheck.Chars.Utf8Lines
import GrammarCheck.Command.Log
import GrammarCheck.Command.Options
import GrammarCheck.Written.Record

/-! # Running the command

The command goes through its files in order and stops at the first that fails. What was written
before a failure stays written. The exit code tells failures, and under `--strict` diagnostics,
from a clean end.
-/

namespace GrammarCheck.Command

/-- The bytes that are read from a file at once. -/
def blockSize : Nat := 8192

/-- A lone hyphen is the path of the standard input, whatever slashes and single dots follow it. -/
def isStandardInput (path : String) : Bool :=
  match path.splitOn "/" with
  | [] => false
  | first :: rest => first = "-" && rest.all fun component => component = "" || component = "."

def standardInputName : String := "<stdin>"

/-- The command as it goes through its files. -/
structure Session where
  /-- What is left of the standard input. -/
  stdin : Feed
  stdout : LineWriter := {}
  /-- The events so far, in order. -/
  events : List Event := []
  /-- The number of diagnostics so far. -/
  total : Nat := 0

/-- What the command was doing when it failed. -/
inductive FileError where
  | opening (path : String) (cause : IoFailure)
  | checking (name : String) (cause : Failure)
  | listing (name : String) (cause : Failure)
  deriving DecidableEq

namespace FileError

def context : FileError → String
  | opening path _ => "failed to open " ++ path
  | checking name _ => "failed to check " ++ name
  | listing name _ => "failed to read " ++ name

/-- Why, from the outermost cause to the innermost. -/
def causes : FileError → List String
  | opening _ cause => [cause.message]
  | checking _ cause | listing _ cause => cause.message :: cause.cause?.toList

/-- The lines of a cause, the first behind a label and the others as far in. -/
def indented (label : String) (cause : String) : String :=
  let margin := String.ofList (List.replicate label.length ' ')
  label ++ ("\n" ++ margin).intercalate (cause.splitOn "\n")

/-- Several causes are numbered. -/
def causeBlock : List String → List String
  | [cause] => [indented "    " cause]
  | causes => causes.zipIdx.map fun (cause, index) => indented ("    " ++ index.repr ++ ": ") cause

def render (error : FileError) : String :=
  "\n".intercalate (["Error: " ++ error.context, "", "Caused by:"] ++ causeBlock error.causes)

end FileError

/-- Writes the tokens of a listing up to the first failure. -/
def writeTokens (items : List (Except Failure Token)) (writer : LineWriter) :
    Outcome Failure LineWriter Unit :=
  match items with
  | [] => .ok () writer
  | .error failure :: _ => .error failure writer
  | .ok token :: rest =>
    match writer.sink.writeLine (Written.tokenLine token) with
    | .error failure sink => .error (.io failure) ⟨sink⟩
    | .ok () sink => writeTokens rest ⟨sink⟩

namespace Session

/-- Takes over what the reading of a text has left behind. -/
def absorb (fromStdin : Bool) (cursor : Cursor Utf8Lines) (stdout : LineWriter)
    (session : Session) : Session :=
  { session with
    stdin := if fromStdin then cursor.source.buffer.feed else session.stdin
    stdout
    events := session.events ++ cursor.events }

def checkText (name : String) (fromStdin : Bool) (source : Utf8Lines) (session : Session) :
    Outcome FileError Session Unit :=
  match check source name session.stdout with
  | .error failure checker =>
    .error (.checking name failure)
      (session.absorb fromStdin checker.tokens.cursor checker.receiver)
  | .ok count checker =>
    let session := session.absorb fromStdin checker.tokens.cursor checker.receiver
    .ok () { session with total := session.total + count }

def listText (name : String) (fromStdin : Bool) (source : Utf8Lines) (session : Session) :
    Outcome FileError Session Unit :=
  let (items, lexer) := (Lexer.start source name 0 0).toList
  (writeTokens items session.stdout).lift (.listing name) fun stdout =>
    session.absorb fromStdin lexer.cursor stdout

def processFile (options : Options) (openPath : String → Except IoFailure Feed) (path : String)
    (session : Session) : Outcome FileError Session Unit :=
  let process := if options.tokens then listText else checkText
  if isStandardInput path then
    process standardInputName true (Utf8Lines.ofFeed blockSize session.stdin) session
  else
    match openPath path with
    | .error cause => .error (.opening path cause) session
    | .ok feed => process path false (Utf8Lines.ofFeed blockSize feed) session

/-- Goes through the files in order, up to the first that fails. -/
def processFiles (options : Options) (openPath : String → Except IoFailure Feed) :
    List String → Session → Outcome FileError Session Unit
  | [], session => .ok () session
  | path :: rest, session =>
    (session.processFile options openPath path).andThen fun () session =>
      session.processFiles options openPath rest

end Session

structure Report where
  code : Nat
  stdout : ByteArray
  stderr : String

def lines (texts : List String) : String :=
  String.join (texts.map (·.push '\n'))

def logLines (filter : LogFilter) (events : List Event) : List String :=
  (events.filter filter.shows).map Event.logLine

def failureCode : Nat := 2

def diagnosticsCode : Nat := 1

def run (options : Options) (filter : LogFilter) (openPath : String → Except IoFailure Feed)
    (stdin : Feed) : Report :=
  match ({ stdin } : Session).processFiles options openPath options.files with
  | .error failure session =>
    { code := failureCode
      stdout := session.stdout.sink.written
      stderr := lines (logLines filter session.events ++ [failure.render]) }
  | .ok () session =>
    let events := session.events ++ [.done options.files.length session.total]
    { code := if options.strict && 0 < session.total then diagnosticsCode else 0
      stdout := session.stdout.sink.written
      stderr := lines (logLines filter events) }

def versionLine : String := "ebnf-check 0.1.0"

def helpLines : List String :=
  ["Check EBNF grammar files for syntax errors.",
    "",
    "Usage: ebnf-check [OPTIONS] <FILES>...",
    "",
    "  --strict       Exit with status 1 if any diagnostic was reported",
    "  --tokens       Print the token stream instead of checking",
    "  -v, --verbose  Log more (-v info, -vv debug, -vvv trace)",
    "  -h, --help     Print help",
    "  -V, --version  Print version"]

def answer (request : Request) (levelName? : Option String)
    (openPath : String → Except IoFailure Feed) (stdin : Feed) : Report :=
  match request with
  | .version => { code := 0, stdout := (lines [versionLine]).toUTF8, stderr := "" }
  | .help => { code := 0, stdout := (lines helpLines).toUTF8, stderr := "" }
  | .run options =>
    run options (LogFilter.choose levelName? options.verbosity) openPath stdin

end GrammarCheck.Command
