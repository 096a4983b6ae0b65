import ProgramFacts.CommandLine.Arguments
import ProgramFacts.CommandLine.Notice
import ProgramFacts.Report.Table

/-!
# Running commands

A command is a function of the file tree it finds.  It leaves a file tree, and tells what it did as
far as it came.
-/

namespace ProgramFacts

/-- What a command did. -/
structure Outcome where
  notices : List Notice
  result : Except CommandError Unit
  tree : FileTree

def Outcome.code (o : Outcome) : Nat :=
  match o.result with
  | .ok _ => 0
  | .error .arguments => 2
  | .error _ => 1

/-- The line that tells why a command failed. -/
def Outcome.errorLine? (o : Outcome) : Option String :=
  match o.result with
  | .ok _ => none
  | .error e => some ("Error: " ++ e.message)

/-- What a command tells on standard output. -/
def Outcome.text (processors elapsed : String) (o : Outcome) : String :=
  String.join (o.notices.map (Notice.text processors elapsed))

namespace Command

/-- Whether a path leads to programs. -/
def checkInput (t : FileTree) (path : String) : Except CommandError Unit :=
  if !t.hasPath path then .error (.missingInput path)
  else if !t.isFile path && !t.isDirectory path then .error (.unusableInput path)
  else .ok ()

/-- The settings of a run: from a file, if there is one, and with a given number of workers. -/
def settingsOf
    (processors : Nat)
    (t : FileTree)
    (path : Option String)
    (workers : Option Nat) :
    Except CommandError Settings := do
  let found ← match path with
    | some path => (Settings.load processors t path).mapError .settings
    | none => .ok .standard
  match workers with
  | some n => return { found with generator := { found.generator with workers := n } }
  | none => return found

/-- What has to be in place before facts are written. -/
structure Preparation where
  settings : Settings
  warnings : List SettingsWarning
  program : Program

/-- Checks the input, reads the settings, and loads the program. -/
def prepare
    (processors : Nat)
    (t : FileTree)
    (input : String)
    (path : Option String)
    (workers : Option Nat) :
    Except CommandError Preparation := do
  checkInput t input
  let settings ← settingsOf processors t path workers
  let warnings ← (settings.check processors).mapError .refused
  let program ← (Program.load t input).mapError fun e => .pipeline (.load e)
  return ⟨settings, warnings, program⟩

/-- What is told before facts are written. -/
def opening (p : Preparation) : List Notice :=
  [.banner] ++ p.warnings.map .warning ++
    [.loaded p.program.classes.length p.program.methodCount p.program.instructionCount]

/-- What is told after facts are written. -/
def closing (directory : String) (s : Statistics) (summary : FactFiles.Summary) : List Notice :=
  (if s.unsupported = 0 then [] else [.unsupported s.unsupported s.instructions]) ++
    [.written summary.rows summary.files directory]

/-- Writes the facts of the programs at a path. -/
def runGenerate
    (processors : Nat)
    (v : Verbosity)
    (input output : String)
    (path : Option String)
    (workers : Option Nat)
    (t : FileTree) :
    Outcome :=
  let told (notices : List Notice) : List Notice := if v.reports then notices else []
  match prepare processors t input path workers with
  | .error e => ⟨[], .error e, t⟩
  | .ok p =>
    match writeFacts p.settings p.program output t with
    | (t, .error e) => ⟨told (opening p), .error (.pipeline e), t⟩
    | (t, .ok (statistics, summary)) =>
      ⟨told (opening p ++ closing output statistics summary), .ok (), t⟩

/-- Shows the schema or writes it to a file. -/
def runSchema (format : String) (output : Option String) (t : FileTree) : Outcome :=
  match Table.Format.ofName? format with
  | none => ⟨[], .error (.unknownFormat format), t⟩
  | some format =>
    let text := Table.renderSchema format false "Fact schema" Relation.all
    match output with
    | none => ⟨[.table text], .ok (), t⟩
    | some path =>
      match t.write path text with
      | .error _ => ⟨[], .error (.schemaNotWritten path), t⟩
      | .ok t => ⟨[.schemaWritten path], .ok (), t⟩

/-- Writes the standard settings to a file. -/
def runInitSettings (path : String) (t : FileTree) : Outcome :=
  let before := if t.hasPath path then [Notice.overwriting path] else []
  match t.write path (Settings.standard.toToml?.getD "") with
  | .error _ => ⟨before, .error (.settingsNotWritten path), t⟩
  | .ok t => ⟨before ++ [.settingsWritten path], .ok (), t⟩

/-- Runs a command on a machine of so many processors. -/
def run (processors : Nat) (v : Verbosity) (c : Command) (t : FileTree) : Outcome :=
  match c with
  | generate input output path workers => runGenerate processors v input output path workers t
  | schema format output => runSchema format output t
  | initSettings output => runInitSettings output t

end Command

/-- Does what a command line asks for, on a machine of so many processors. -/
def Invocation.run (processors : Nat) (arguments : List String) (t : FileTree) : Outcome :=
  match Invocation.ofArguments? arguments with
  | none => ⟨[], .error .arguments, t⟩
  | some .version => ⟨[.version], .ok (), t⟩
  | some .help => ⟨[.usage], .ok (), t⟩
  | some (.command verbosity c) => Command.run processors verbosity c t

end ProgramFacts
