import ProgramFacts.CommandLine.Run
import ProgramFacts.Report.Duration

/-!
# The program

Takes in what the file system has at the paths that a command names, runs the command, and brings
the file system to the state that the command leaves.
-/

namespace ProgramFacts

/-- The path of a location under the root. -/
def Location.path (l : Location) : String :=
  "/" ++ String.intercalate "/" (l.drop 1)

def workingLocation : IO Location := do
  let names := Path.names (← IO.currentDir).toString
  return "/" :: names.filter (· ≠ "")

def takeNode (t : FileTree) (l : Location) : IO FileTree := do
  let path := (← IO.currentDir) / l.path
  if ← path.isDir then
    return t.put l .directory
  else if ← path.pathExists then
    match (← path.metadata).type with
    | .file =>
      let text ← try pure (some (← IO.FS.readFile path)) catch _ => pure none
      return t.put l (.file text)
    | _ => return t.put l .device
  else
    return t

/-- Takes in what is on the way to a path and at its end, and answers where it leads. -/
def takePath (t : FileTree) (path : String) : IO (FileTree × Location) := do
  let mut tree := t
  let mut l := t.start path
  for name in Path.names path do
    if name = ".." then
      l := FileTree.parent l
    else if name ≠ "" && name ≠ "." then
      l := l ++ [name]
      tree ← takeNode tree l
  return (tree, l)

/-- Takes in what is in a directory, and if asked in the directories below it. -/
partial def takeDirectory (deep : Bool) (t : FileTree) (l : Location) : IO FileTree := do
  let path := (← IO.currentDir) / l.path
  if ← path.isDir then
    let mut tree := t
    for entry in ← path.readDir do
      let below := l ++ [entry.fileName]
      tree ← takeNode tree below
      if deep then
        tree ← takeDirectory deep tree below
    return tree
  else
    return t

/-- Takes in what is at a path and below it. -/
def takeIn (deep : Bool) (t : FileTree) (path : String) : IO FileTree := do
  let (t, l) ← takePath t path
  takeDirectory deep t l

/-- Takes in what a command may look at. -/
def takeFor (t : FileTree) : Invocation → IO FileTree
  | .command _ (.generate input output settings _) => do
    let t ← takeIn true t input
    let t ← takeIn false t output
    match settings with
    | some path => return (← takePath t path).1
    | none => return t
  | .command _ (.schema _ (some output)) => return (← takePath t output).1
  | .command _ (.initSettings output) => return (← takePath t output).1
  | _ => return t

/-- The file tree that a command line finds. -/
def findTree (arguments : List String) : IO FileTree := do
  let current ← workingLocation
  let above := (List.range current.length).map fun n => (current.take (n + 1), FileNode.directory)
  match Invocation.ofArguments? arguments with
  | some invocation => takeFor ⟨above, current⟩ invocation
  | none => return ⟨above, current⟩

/-- Brings the file system from one state to another. -/
def commit (before after : FileTree) : IO Unit := do
  for (l, n) in after.nodes.reverse do
    if before.nodes.lookup l ≠ some n then
      match n with
      | .directory => IO.FS.createDirAll l.path
      | .file (some text) => IO.FS.writeFile l.path text
      | _ => pure ()

/-- The number of processors of the machine, as far as it tells. -/
def processorCount : IO Nat := do
  try
    let lines := Text.splitAt '\n' (← IO.FS.readFile "/proc/cpuinfo").toList
    return max 1 (lines.filter fun line => "processor".toList.isPrefixOf line).length
  catch _ =>
    return 1

/-- Runs a command line on the file system, and answers the exit code. -/
def runCommandLine (arguments : List String) : IO UInt32 := do
  let started ← IO.monoNanosNow
  let processors ← processorCount
  let before ← findTree arguments
  let done := Invocation.run processors arguments before
  try
    commit before done.tree
    let elapsed := Duration.text ((← IO.monoNanosNow) - started)
    IO.print (done.text processors.repr elapsed)
    match done.errorLine? with
    | some line => IO.eprintln line
    | none => pure ()
    return done.code.toUInt32
  catch e =>
    IO.eprintln ("Error: " ++ toString e)
    return 1

end ProgramFacts

/-- Runs the program. -/
def main (arguments : List String) : IO UInt32 :=
  ProgramFacts.runCommandLine arguments
