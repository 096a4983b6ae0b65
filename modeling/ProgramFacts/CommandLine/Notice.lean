import ProgramFacts.Pipeline
import ProgramFacts.Report.Table
import ProgramFacts.Settings.Load

/-!
# Notices

What commands tell the user on their way, and why they fail.
-/

namespace ProgramFacts

/-- A message to the user. -/
inductive Notice where
  | version
  /-- How the program is called. -/
  | usage
  /-- The name and version of the program, and what it is about to do. -/
  | banner
  | warning (cause : SettingsWarning)
  | loaded (classes methods instructions : Nat)
  | unsupported (count instructions : Nat)
  | written (rows files : Nat) (directory : String)
  /-- A table of the schema. -/
  | table (text : String)
  | schemaWritten (path : String)
  | overwriting (path : String)
  | settingsWritten (path : String)
  deriving DecidableEq, Repr

namespace Notice

/-- The name and version of the program. -/
def versionText : String :=
  "ir-facts 0.3.0"

/-- How the program is called. -/
def usageText : String :=
  "Usage: ir-facts [-v | -q] COMMAND [OPTIONS]\n\n" ++
  "  generate -i PATH -o DIRECTORY [-c FILE] [-w COUNT]\n" ++
  "      write the facts of the programs at PATH to DIRECTORY\n" ++
  "  schema [-f text|json] [-o FILE]\n" ++
  "      show the relations of the schema\n" ++
  "  init-config [-o FILE]\n" ++
  "      write the standard settings\n\n" ++
  "  -v, --verbose    tell more\n" ++
  "  -q, --quiet      tell errors only\n" ++
  "  -h, --help       show this text\n" ++
  "  -V, --version    show the version\n"

def success (message : String) : String :=
  "✓ " ++ message ++ "\n"

def caution (message : String) : String :=
  "! " ++ message ++ "\n"

/-- The wording of a message, given the number of processors and the time since the start. -/
def text (processors elapsed : String) : Notice → String
  | version => versionText ++ "\n"
  | usage => usageText
  | banner => versionText ++ "\nEncoding program IR into relational facts\n\n"
  | warning cause => caution (cause.message processors)
  | loaded classes methods instructions =>
    "• " ++ classes.repr ++ " classes, " ++ methods.repr ++ " methods, " ++ instructions.repr ++
      " instructions\n"
  | unsupported count instructions =>
    caution (count.repr ++ " of " ++ instructions.repr ++
      " instructions have no dedicated handler and were recorded as unsupported")
  | written rows files directory =>
    success ("Wrote " ++ rows.repr ++ " facts to " ++ files.repr ++ " files in " ++ directory ++
      " (" ++ elapsed ++ ")")
  | table text => text
  | schemaWritten path => success ("Schema written to " ++ path)
  | overwriting path => caution ("Overwriting " ++ path)
  | settingsWritten path => success ("Default configuration written to " ++ path)

end Notice

/-- Why a command fails. -/
inductive CommandError where
  /-- The arguments do not fit the commands. -/
  | arguments
  | missingInput (path : String)
  | unusableInput (path : String)
  | settings (cause : Settings.LoadError)
  | refused (cause : SettingsError)
  | pipeline (cause : PipelineError)
  | unknownFormat (name : String)
  | schemaNotWritten (path : String)
  | settingsNotWritten (path : String)
  deriving DecidableEq, Repr

/-- The wording of a failure. -/
def CommandError.message : CommandError → String
  | arguments => "The arguments do not fit; --help shows what does"
  | missingInput path => "Input does not exist: " ++ path
  | unusableInput path => "Input is neither a file nor a directory: " ++ path
  | settings cause => cause.message
  | refused cause => cause.message
  | pipeline (.load e) => e.message
  | pipeline (.prepare e) => e.message
  | pipeline (.encode _) => "Fact generation failed"
  | pipeline (.write _) => "Failed to write fact files"
  | unknownFormat name => Table.Format.unknownMessage name
  | schemaNotWritten path => "Failed to create " ++ path
  | settingsNotWritten path => "Failed to write config to " ++ path

end ProgramFacts
