import ProgramFacts.FileTree
import ProgramFacts.Program.Read

/-!
# Loading programs

A program is loaded from one file, or from all files with the extension `json` under a directory,
which are merged in the order of their paths.
-/

namespace ProgramFacts

/-- Why no program was loaded. -/
inductive LoadError where
  /-- There is no text to read. -/
  | unreadable (path : String)
  /-- The text is no program. -/
  | invalid (path : String)
  /-- There are no program files in a directory. -/
  | noFiles (path : String)
  deriving DecidableEq, Repr

def LoadError.message : LoadError → String
  | unreadable path => "Failed to read program from " ++ path
  | invalid path => "Invalid program file " ++ path
  | noFiles path => "No JSON program files found in " ++ path

namespace Program

def loadFile (t : FileTree) (path : String) : Except LoadError Program :=
  match t.read? path with
  | none => .error (.unreadable path)
  | some text =>
    match ofText? text with
    | none => .error (.invalid path)
    | some p => .ok p

/-- Loads and merges the programs of several files. -/
def loadFiles (t : FileTree) (p : Program) : List String → Except LoadError Program
  | [] => .ok p
  | path :: rest =>
    match loadFile t path with
    | .error e => .error e
    | .ok q => loadFiles t (p.merge q) rest

/-- The paths of the program files under a directory, in ascending order. -/
def filesIn (t : FileTree) (directory : String) : List String :=
  match t.locate directory with
  | .error _ => []
  | .ok l =>
    ((t.filesUnder l).filter fun names =>
      names.getLast?.bind Path.extensionOfName? == some "json").map
        fun names => Path.join directory (String.intercalate "/" names)

/-- Loads the program of a file or directory. -/
def load (t : FileTree) (path : String) : Except LoadError Program :=
  if t.isFile path then
    loadFile t path
  else
    match filesIn t path with
    | [] => .error (.noFiles path)
    | files => loadFiles t empty files

end Program
end ProgramFacts
