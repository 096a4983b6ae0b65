import ProgramFacts.Cell
import ProgramFacts.EncodeError
import ProgramFacts.FactStore
import ProgramFacts.FileTree

/-!
# Fact files

A store is written to a directory, one file per relation of the schema, empty relations included.
Files are written in the order of the schema, so a failure leaves the earlier ones in place.
-/

namespace ProgramFacts

/-- Where and how facts are written. -/
structure FactFiles where
  directory : String
  separator : Char
  deriving DecidableEq, Repr

namespace FactFiles

/-- How many files and rows were written. -/
structure Summary where
  files : Nat
  rows : Nat
  deriving DecidableEq, Repr

/-- The error for an operation that the operating system refused. -/
def ioError (path : String) (e : FileError) : EncodeError :=
  .io path e.text

/-- The path of a relation's file. -/
def path (f : FactFiles) (r : Relation) : String :=
  Path.join f.directory r.fileName

def content (f : FactFiles) (s : FactStore) (r : Relation) : String :=
  Cell.lines f.separator (s.facts r)

/-- Creates the directory. -/
def prepare (f : FactFiles) (t : FileTree) : Except EncodeError FileTree :=
  (t.createDirectories f.directory).mapError (ioError f.directory)

/-- Writes the files of some relations in order, up to the first that is refused. -/
def writeRelations (f : FactFiles) (s : FactStore) (t : FileTree) :
    List Relation → FileTree × Except EncodeError Unit
  | [] => (t, .ok ())
  | r :: rest =>
    match t.write (f.path r) (f.content s r) with
    | .error e => (t, .error (ioError (f.path r) e))
    | .ok t => writeRelations f s t rest

/-- Writes the files of all relations. -/
def flush (f : FactFiles) (s : FactStore) (t : FileTree) : FileTree × Except EncodeError Summary :=
  let (t, result) := writeRelations f s t Relation.all
  (t, result.map fun _ => ⟨Relation.all.length, s.size⟩)

end FactFiles
end ProgramFacts
