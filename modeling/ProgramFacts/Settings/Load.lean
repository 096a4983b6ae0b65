import ProgramFacts.FileTree
import ProgramFacts.Settings.Check
import ProgramFacts.Settings.Toml
import ProgramFacts.Settings.Yaml

/-!
# Loading settings

Settings are loaded from a file whose extension tells its format, and are checked before they are
used.
-/

namespace ProgramFacts

/-- Why settings cannot be loaded. -/
inductive Settings.LoadError where
  | unreadable (path : String)
  | notYaml (path : String)
  | notToml (path : String)
  | refused (cause : SettingsError)
  deriving DecidableEq, Repr

def Settings.LoadError.message : Settings.LoadError → String
  | unreadable path => "Failed to read config from " ++ path
  | notYaml path => "Failed to parse YAML config from " ++ path
  | notToml path => "Failed to parse TOML config from " ++ path
  | refused cause => cause.message

/-- Whether the settings at a path are written in YAML. -/
def Settings.isYamlPath (path : String) : Bool :=
  match Path.extension? path with
  | some extension => extension = "yaml" || extension = "yml"
  | none => false

/-- Reads settings in the format that a path tells. -/
def Settings.ofText (path text : String) : Except Settings.LoadError Settings :=
  if isYamlPath path then
    match Settings.ofYaml? text with
    | some s => .ok s
    | none => .error (.notYaml path)
  else
    match Settings.ofToml? text with
    | some s => .ok s
    | none => .error (.notToml path)

/-- Loads settings for a machine of so many processors. -/
def Settings.load (processors : Nat) (t : FileTree) (path : String) :
    Except Settings.LoadError Settings :=
  match t.read? path with
  | none => .error (.unreadable path)
  | some text =>
    match Settings.ofText path text with
    | .error e => .error e
    | .ok s =>
      match s.check processors with
      | .error cause => .error (.refused cause)
      | .ok _ => .ok s

end ProgramFacts
