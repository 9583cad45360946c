import ShellTemplate.Command.Event
import ShellTemplate.Text.Utf8

/-!
# Machines

Files, and the system that holds them. Which file a path leads to, and whether it can be opened, is
for the system to say, so runs of the command are runs on any system (`System`). A file that is
opened is read or written as a whole; devices, and transfers that break off, are left out.
-/

namespace ShellTemplate

namespace Command

/-- What a system tells files apart by. Paths with one location lead to one file. -/
abbrev Location := Text

/-- Files with their contents, each location once. -/
abbrev Files := List (Location × Bytes)

/-- Gives a file a content, whether it exists or not. -/
def Files.put (location : Location) (content : Bytes) : Files → Files
  | [] => [(location, content)]
  | (other, old) :: rest =>
    if other = location then (location, content) :: rest else (other, old) :: put location content rest

/-- What a file is opened for. -/
inductive Access where
  | reading
  | writing
  deriving DecidableEq

/-- Why a file cannot be opened. -/
inductive FileError where
  | notFound
  | isDirectory
  | notDirectory
  | nameTooLong
  | permissionDenied
  | other (message : Text)
  deriving DecidableEq

/-- The wording of the reason. -/
def FileError.message : FileError → Text
  | .notFound => Text.ofString "No such file or directory"
  | .isDirectory => Text.ofString "Is a directory"
  | .notDirectory => Text.ofString "Not a directory"
  | .nameTooLong => Text.ofString "File name too long"
  | .permissionDenied => Text.ofString "Permission denied"
  | .other message => message

/-- What the command takes from the system: the rules for its arguments, the location that each path
    leads to, and why a path cannot be opened while the files are what they are, if it cannot. The
    empty path never can. -/
structure System where
  rules : ArgumentRules
  locate : Text → Location
  refusal? : Access → Files → Text → Option FileError
  refuses_nil (access : Access) (files : Files) : refusal? access files [] ≠ none

namespace System

/-- The content of the file that a path leads to. -/
def open? (system : System) (files : Files) (path : Text) : Except FileError Bytes :=
  match system.refusal? .reading files path with
  | some e => .error e
  | none =>
    match files.lookup (system.locate path) with
    | some content => .ok content
    | none => .error .notFound

/-- The files after the one that a path leads to has been given a content. -/
def replace? (system : System) (files : Files) (path : Text) (content : Bytes) : Except FileError Files :=
  match system.refusal? .writing files path with
  | some e => .error e
  | none => .ok (files.put (system.locate path) content)

end System

/-- A system and its files. -/
structure Machine extends System where
  files : Files

/-! ## One directory -/

/-- Where a path leads on a machine without directories but the one in which the command runs and
    those above it: to a directory, or to a name in one, with the parts of the path after it. -/
inductive Place where
  | directory
  | entry (base name : Text) (rest : List Text)

namespace Place

/-- The parts of a path between slashes; `part` is the one before the text, in reverse. -/
def splitOnto (part : Text) : Text → List Text
  | [] => [part.reverse]
  | s :: rest => if s = .char '/' then part.reverse :: splitOnto [] rest else splitOnto (s :: part) rest

/-- The path to the root. -/
def root : Text :=
  [.char '/']

/-- The path to the directory above the one at a path. The root is above itself. -/
def above (directory : Text) : Text :=
  if directory = root then root else Text.ofString "../" ++ directory

/-- Where the parts of a path lead from a directory. An empty part and a dot stay where they are, and
    two dots lead up. -/
def ofParts (directory : Text) : List Text → Place
  | [] => .directory
  | part :: rest =>
    if part = [] ∨ part = [.char '.'] then ofParts directory rest
    else if part = [.char '.', .char '.'] then ofParts (above directory) rest
    else .entry directory part rest

/-- Where a path leads. -/
def ofPath (path : Text) : Place :=
  ofParts (if path.head? = some (.char '/') then root else []) (splitOnto [] path)

/-- The location of a place; that of a directory is never asked for. -/
def location : Place → Location
  | .directory => []
  | .entry base name _ => base ++ name

/-- Why a place cannot be opened. A name has at most 255 bytes, and a path goes on only after a
    directory. -/
def refusal? (access : Access) (files : Files) : Place → Option FileError
  | .directory => some .isDirectory
  | .entry base name rest =>
    if access = .writing ∧ rest ≠ [] ∧ rest.all List.isEmpty then some .isDirectory
    else if 255 < name.encode.length then some .nameTooLong
    else if rest = [] then none
    else if (files.lookup (base ++ name)).isSome then some .notDirectory
    else some .notFound

end Place

/-- The machine that has nothing but files in the directory in which the command runs, so that runs
    on it can be evaluated. It reads arguments by the earlier rules, and its paths have at most 4095
    bytes. -/
def Machine.ofWorking (files : List (Text × Bytes)) : Machine where
  rules := .earlier
  locate path := (Place.ofPath path).location
  refusal? access files path :=
    if path = [] then some .notFound
    else if 4095 < path.encode.length then some .nameTooLong
    else (Place.ofPath path).refusal? access files
  refuses_nil _ _ := by simp
  files := files

/-- The files of the directory in which the command runs, in the order of their names. -/
def Files.working (files : Files) : List (Text × Bytes) :=
  (files.filter fun file => !file.1.contains (.char '/')).mergeSort fun a b => Text.le a.1 b.1

end Command

end ShellTemplate
