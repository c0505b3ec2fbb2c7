/-! # Options

What the arguments of the command ask for. Arguments are read from the left, and the first that
settles the matter does: a mistake, or a flag that asks for information instead of a check. Flags
and paths may be mixed; after `--` all are paths.
-/

namespace GrammarCheck.Command

structure Options where
  files : List String := []
  /-- Diagnostics make the command fail. -/
  strict : Bool := false
  /-- List the tokens instead of checking them. -/
  tokens : Bool := false
  /-- How often more log output was asked for. -/
  verbosity : Nat := 0
  deriving DecidableEq, Repr

inductive Request where
  | run (options : Options)
  | version
  | help
  deriving DecidableEq, Repr

inductive UsageError where
  | unknownFlag (flag : String)
  | repeatedFlag (flag : String)
  | emptyPath
  | noFiles
  deriving DecidableEq, Repr

namespace UsageError

def message : UsageError → String
  | unknownFlag flag => "unexpected argument '" ++ flag ++ "' found"
  | repeatedFlag flag => "the argument '" ++ flag ++ "' cannot be used multiple times"
  | emptyPath => "a value is required for '<FILES>...' but none was supplied"
  | noFiles => "the following required arguments were not provided: <FILES>..."

end UsageError

namespace Options

def addFile (path : String) (options : Options) : Options :=
  { options with files := options.files ++ [path] }

/-- The files are known, at least one, and each has a name. -/
def complete (options : Options) : Except UsageError Request :=
  if options.files.isEmpty then .error .noFiles
  else if options.files.contains "" then .error .emptyPath
  else .ok (.run options)

/-- A request for information is granted unless a path before it is empty. -/
def inform (request : Request) (options : Options) : Except UsageError Request :=
  if options.files.contains "" then .error .emptyPath else .ok request

/-- The effect of one flag: the options with it, or the end of the reading. -/
inductive Effect where
  | goOn (options : Options)
  | stop (answer : Except UsageError Request)

def once (flag : String) (given : Bool) (options : Options) : Effect :=
  if given then .stop (.error (.repeatedFlag flag)) else .goOn options

def letter (c : Char) (options : Options) : Effect :=
  match c with
  | 'v' => .goOn { options with verbosity := options.verbosity + 1 }
  | 'V' => .stop (options.inform .version)
  | 'h' => .stop (options.inform .help)
  | c => .stop (.error (.unknownFlag (String.ofList ['-', c])))

def letters : List Char → Options → Effect
  | [], options => .goOn options
  | c :: rest, options =>
    match letter c options with
    | .goOn options => letters rest options
    | .stop answer => .stop answer

def word (flag : String) (options : Options) : Effect :=
  match flag with
  | "--strict" => once flag options.strict { options with strict := true }
  | "--tokens" => once flag options.tokens { options with tokens := true }
  | "--verbose" => .goOn { options with verbosity := options.verbosity + 1 }
  | "--version" => .stop (options.inform .version)
  | "--help" => .stop (options.inform .help)
  | flag => .stop (.error (.unknownFlag flag))

/-- One argument: a flag when it starts with a hyphen and goes on, and else a path. -/
def argument (text : String) (options : Options) : Effect :=
  match text.toList with
  | '-' :: '-' :: _ => word text options
  | '-' :: c :: rest => letters (c :: rest) options
  | _ => .goOn (options.addFile text)

def read : List String → Options → Except UsageError Request
  | [], options => options.complete
  | "--" :: paths, options => { options with files := options.files ++ paths }.complete
  | text :: rest, options =>
    match argument text options with
    | .goOn options => read rest options
    | .stop answer => answer

def ofArguments (arguments : List String) : Except UsageError Request :=
  read arguments {}

end Options

end GrammarCheck.Command
