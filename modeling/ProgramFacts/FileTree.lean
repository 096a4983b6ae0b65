import ProgramFacts.Text.Basic

/-!
# Paths and file trees

A file tree is what a run sees of the file system: files, directories and devices, and which
directory is the working directory.  Reading and writing follow the names of a path one by one, and
fail with the cause that the operating system would give.
-/

namespace ProgramFacts

/-! ## Paths

Paths are texts whose names are separated by slashes.  A path that begins with a slash starts at
the root, any other at the working directory.
-/

namespace Path

/-- The names of a path, empty ones included. -/
def names (path : String) : List String :=
  (Text.splitAt '/' path.toList).map String.ofList

/-- Whether a path starts at the root. -/
def isAbsolute (path : String) : Bool :=
  path.toList.head? == some '/'

/-- A name under a directory; a slash is added only where one is missing. -/
def join (directory name : String) : String :=
  if directory = "" ∨ directory.toList.getLast? = some '/' then
    directory ++ name
  else
    directory ++ "/" ++ name

/-- The last name of a path that is neither empty nor a single dot. -/
def lastName? (path : String) : Option String :=
  ((names path).filter fun name => name != "" && name != ".").getLast?

/-- What follows the last dot of a name, unless nothing precedes that dot. -/
def extensionOfName? (name : String) : Option String :=
  let reversed := name.toList.reverse
  let after := reversed.takeWhile (· != '.')
  match reversed.dropWhile (· != '.') with
  | '.' :: _ :: _ => if name = ".." then none else some (String.ofList after.reverse)
  | _ => none

/-- The extension of the last name of a path. -/
def extension? (path : String) : Option String :=
  (lastName? path).bind extensionOfName?

end Path

/-! ## File trees -/

/-- Why the operating system refuses an operation. -/
inductive FileError where
  | notFound
  | alreadyExists
  | notDirectory
  | isDirectory
  deriving DecidableEq, Repr

/-- The operating system's wording of an error. -/
def FileError.text : FileError → String
  | notFound => "No such file or directory (os error 2)"
  | alreadyExists => "File exists (os error 17)"
  | notDirectory => "Not a directory (os error 20)"
  | isDirectory => "Is a directory (os error 21)"

/-- What a location of a file tree holds. -/
inductive FileNode where
  /-- A file with a text; `none` if its bytes are no text. -/
  | file (text : Option String)
  | directory
  /-- A device that swallows what is written and has nothing to read. -/
  | device
  deriving DecidableEq, Repr

/-- A location: the names that lead to it, after `/` from the root, else from a place apart. -/
abbrev Location := List String

/-- The files and directories that a run sees, by location. -/
structure FileTree where
  nodes : List (Location × FileNode)
  /-- The working directory. -/
  current : Location
  deriving DecidableEq

namespace FileTree

def root : Location :=
  ["/"]

/-- An empty working directory, and the null device. -/
def empty : FileTree :=
  ⟨[(["/", "dev"], .directory), (["/", "dev", "null"], .device)], []⟩

/-- What a location holds. -/
def node? (t : FileTree) (l : Location) : Option FileNode :=
  if l = [] ∨ l = root then some .directory else t.nodes.lookup l

def put (t : FileTree) (l : Location) (n : FileNode) : FileTree :=
  { t with nodes := (l, n) :: t.nodes.filter fun entry => entry.1 != l }

/-- The location above another. -/
def parent (l : Location) : Location :=
  if l.length ≤ 1 then root else l.dropLast

/-- Follows names from a location.  All but the last location on the way have to be directories. -/
def follow (t : FileTree) (l : Location) : List String → Except FileError Location
  | [] => .ok l
  | name :: rest =>
    match t.node? l with
    | none => .error .notFound
    | some .directory =>
      if name = "" ∨ name = "." then follow t l rest
      else if name = ".." then follow t (parent l) rest
      else follow t (l ++ [name]) rest
    | some _ => .error .notDirectory

def start (t : FileTree) (path : String) : Location :=
  if Path.isAbsolute path then root else t.current

/-- The location of a path, where something may or may not be. -/
def locate (t : FileTree) (path : String) : Except FileError Location :=
  if path = "" then .error .notFound else follow t (t.start path) (Path.names path)

/-- What a path leads to. -/
def at? (t : FileTree) (path : String) : Option FileNode :=
  match t.locate path with
  | .ok l => t.node? l
  | .error _ => none

/-- Whether a path leads to anything. -/
def hasPath (t : FileTree) (path : String) : Bool :=
  (t.at? path).isSome

/-- Whether a path leads to a file. -/
def isFile (t : FileTree) (path : String) : Bool :=
  match t.at? path with
  | some (.file _) => true
  | _ => false

/-- Whether a path leads to a directory. -/
def isDirectory (t : FileTree) (path : String) : Bool :=
  t.at? path == some .directory

/-- The text of the file that a path leads to; `none` if there is no such text. -/
def read? (t : FileTree) (path : String) : Option String :=
  match t.at? path with
  | some (.file text) => text
  | some .device => some ""
  | _ => none

/-- Writes a text to the file of a path, which is created if it does not exist. -/
def write (t : FileTree) (path text : String) : Except FileError FileTree :=
  match t.locate path with
  | .error e => .error e
  | .ok l =>
    match t.node? l with
    | some .directory => .error .isDirectory
    -- what goes to a device is gone
    | some .device => .ok t
    | _ => .ok (t.put l (.file (some text)))

/--
Creates the directories that names lead through from a location.  A single dot asks for a directory
that is there already, unless further names follow.
-/
def createFrom (t : FileTree) (l : Location) : List String → Except FileError FileTree
  | [] =>
    match t.node? l with
    | none => .ok (t.put l .directory)
    | some .directory => .ok t
    | some _ => .error .alreadyExists
  | name :: rest =>
    if name = "" then
      createFrom t l rest
    else
      let next := if name = "." then l else if name = ".." then parent l else l ++ [name]
      match t.node? l with
      | some .directory => createFrom t next rest
      | none =>
        if name = "." ∧ rest.all (fun later => later = "" || later = ".") then .error .notFound
        else createFrom (t.put l .directory) next rest
      | some _ => .error .notDirectory

/-- Creates the directory of a path and those above it, where they do not exist. -/
def createDirectories (t : FileTree) (path : String) : Except FileError FileTree :=
  if path = "" then .ok t else createFrom t (t.start path) (Path.names path)

/-- The files under a location: the names that lead to each from there, in ascending order. -/
def filesUnder (t : FileTree) (l : Location) : List Location :=
  let below := t.nodes.filterMap fun (location, n) =>
    match n with
    | .file _ =>
      if l.isPrefixOf location && l != location then some (location.drop l.length) else none
    | _ => none
  below.mergeSort Text.precedes

end FileTree
end ProgramFacts
