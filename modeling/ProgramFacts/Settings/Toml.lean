import ProgramFacts.Settings.Tree
import ProgramFacts.Toml.Document

/-!
# Settings in TOML

Settings are read from a TOML document and written to one.  Every number that is written has to
be within the range of TOML integers.
-/

namespace ProgramFacts

mutual

/-- A TOML value as a settings document.  A date is a section without settings. -/
def SettingTree.ofToml : Toml → SettingTree
  | .integer n => .scalar n.toNat? none none
  | .float _ => .scalar none none none
  | .boolean b => .scalar none (some b) none
  | .string t => .scalar none none (onlyChar? t)
  | .moment _ => .table []
  | .array items => .list (ofTomlItems items)
  | .table _ members => .table (ofTomlMembers members)
  | .elements tables => .list (ofTomlItems tables)

/-- TOML items as parts of a settings document. -/
def SettingTree.ofTomlItems : List Toml → List SettingTree
  | [] => []
  | v :: vs => ofToml v :: ofTomlItems vs

/-- TOML members as parts of a settings document. -/
def SettingTree.ofTomlMembers : List (String × Toml) → List (Option String × SettingTree)
  | [] => []
  | (key, v) :: ms => (some key, ofToml v) :: ofTomlMembers ms

end

def Settings.ofToml? (text : String) : Option Settings :=
  (Toml.ofText? text).bind fun t => Settings.ofTree? true (SettingTree.ofToml t)

def tomlNumber? (n : Nat) : Option String :=
  if n < Toml.integerBound then some n.repr else none

/-- A character as a TOML string: as it is where that is allowed, else quoted apart or escaped. -/
def tomlChar (c : Char) : String :=
  if c = '\n' then "\"\"\"\n\n\"\"\""
  else if c = '"' ∨ c = '\\' then "'" ++ c.toString ++ "'"
  else
    let inner :=
      if c = '\x08' then "\\b"
      else if c = '\t' then "\\t"
      else if c = '\x0c' then "\\f"
      else if c = '\r' then "\\r"
      else if c.toNat < 0x20 ∨ c = '\x7f' then
        "\\u00" ++ String.ofList
          [(Text.hexDigit (c.toNat / 16)).toUpper, (Text.hexDigit (c.toNat % 16)).toUpper]
      else c.toString
    "\"" ++ inner ++ "\""

/-- A truth value as a TOML boolean. -/
def tomlBoolean (b : Bool) : String :=
  if b then "true" else "false"

/-- Settings as a TOML document; `none` if a number is out of range. -/
def Settings.toToml? (s : Settings) : Option String := do
  let strings ← tomlNumber? s.encoder.stringHashThreshold
  let signatures ← tomlNumber? s.encoder.signatureHashThreshold
  let workers ← tomlNumber? s.generator.workers
  return "[encoder]\n" ++
    "string_hash_threshold = " ++ strings ++ "\n" ++
    "signature_hash_threshold = " ++ signatures ++ "\n" ++
    "quote_padded_strings = " ++ tomlBoolean s.encoder.quotePaddedStrings ++ "\n" ++
    "\n[generator]\n" ++
    "workers = " ++ workers ++ "\n" ++
    "\n[output]\n" ++
    "separator = " ++ tomlChar s.output.separator ++ "\n"

end ProgramFacts
