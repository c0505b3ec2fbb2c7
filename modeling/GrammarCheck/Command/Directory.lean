import GrammarCheck.Bytes.Feed

/-! # Directories

The files that the command can see: a directory with named entries. A path is followed one
component at a time, and only a directory can be gone on from. What lies outside the directory
is not known, except that it holds the directory.
-/

namespace GrammarCheck

inductive Entry where
  | file (bytes : List UInt8)
  | directory
  deriving DecidableEq, Repr

/-- The entries of a directory by name. Names may lead through further directories. -/
structure Directory where
  entries : List (String × Entry)
  deriving DecidableEq, Repr

namespace Directory

/-- How far a path has been followed. -/
inductive Place where
  /-- A directory above the given one. -/
  | outside
  /-- The given directory or one below it, by its components. -/
  | inside (components : List String)
  | file (bytes : List UInt8)
  deriving DecidableEq, Repr

/-- The longest name of a file, in bytes. -/
def maxNameLength : Nat := 255

/-- The longest path, in bytes. -/
def maxPathLength : Nat := 4095

def joined (components : List String) : String :=
  "/".intercalate components

/-- What the components lead to. A directory need not be an entry itself if one lies below it. -/
def find (directory : Directory) (components : List String) : Except IoFailure Place :=
  match directory.entries.lookup (joined components) with
  | some (.file bytes) => .ok (.file bytes)
  | some .directory => .ok (.inside components)
  | none =>
    if directory.entries.any fun (name, _) => name.startsWith (joined components ++ "/") then
      .ok (.inside components)
    else .error .notFound

def follow (directory : Directory) (component : String) : Place → Except IoFailure Place
  | .file _ => .error .notADirectory
  | .outside =>
    if component = "" || component = "." || component = ".." then .ok .outside
    else if maxNameLength < component.utf8ByteSize then .error .nameTooLong
    else .error .notFound
  | .inside components =>
    if component = "" || component = "." then .ok (.inside components)
    else if component = ".." then
      .ok (if components.isEmpty then .outside else .inside components.dropLast)
    else if maxNameLength < component.utf8ByteSize then .error .nameTooLong
    else directory.find (components ++ [component])

/-- Follows a path from the given directory, or from above it if the path starts with a slash. -/
def place (directory : Directory) (path : String) : Except IoFailure Place :=
  let start := if path.startsWith "/" then Place.outside else Place.inside []
  (path.splitOn "/").foldlM (fun place component => directory.follow component place) start

/-- Opens a path. A directory can be opened, and fails when it is read. -/
def openPath (directory : Directory) (path : String) : Except IoFailure Feed :=
  if maxPathLength < path.utf8ByteSize then .error .nameTooLong
  else
    match directory.place path with
    | .error failure => .error failure
    | .ok (.file bytes) => .ok (Feed.ofBytes bytes)
    | .ok .outside => .ok [.error .isADirectory]
    | .ok (.inside _) => .ok [.error .isADirectory]

end Directory

end GrammarCheck
