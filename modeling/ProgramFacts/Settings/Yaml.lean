import ProgramFacts.Settings.Tree
import ProgramFacts.Yaml.Node

/-!
# Settings in YAML

Settings are read from a YAML document.  Only plain scalars are numbers or truth values, unless a
tag says that a literal block is one.
-/

namespace ProgramFacts

/-- Whether a scalar may be a value of a type that has a tag. -/
def Yaml.mayBe (typeTag : String) (style : Yaml.Style) (tag : Option String) : Bool :=
  style = .plain || (style = .literal && tag = some typeTag)

/-- The number that the text of a scalar denotes. -/
def yamlNumber? (text : String) : Option Nat :=
  let digits := match text.toList with
    | '+' :: rest => rest
    | cs => cs
  let ofBase (base : Nat) (cs : List Char) : Option Nat :=
    if cs.isEmpty then none else Text.number? base cs
  match digits with
  | '0' :: 'x' :: rest => ofBase 16 rest
  | '0' :: 'o' :: rest => ofBase 8 rest
  | '0' :: 'b' :: rest => ofBase 2 rest
  | '0' :: _ :: _ => none
  | _ => ofBase 10 digits

/-- The truth value that the text of a scalar denotes. -/
def yamlTruth? (text : String) : Option Bool :=
  if text = "true" ∨ text = "True" ∨ text = "TRUE" then some true
  else if text = "false" ∨ text = "False" ∨ text = "FALSE" then some false
  else none

def SettingTree.ofScalar (style : Yaml.Style) (tag : Option String) (text : String) :
    SettingTree :=
  if style = .plain && text = "" then
    .nothing
  else
    .scalar
      (if Yaml.mayBe "tag:yaml.org,2002:int" style tag then yamlNumber? text else none)
      (if Yaml.mayBe "tag:yaml.org,2002:bool" style tag then yamlTruth? text else none)
      (onlyChar? text)

/-- The text of a key; `none` for a key that is no scalar. -/
def Yaml.keyText? : Yaml → Option String
  | .scalar _ _ text => some text
  | _ => none

mutual

/-- A YAML node as a settings document. -/
def SettingTree.ofYaml : Yaml → SettingTree
  | .scalar style tag text => ofScalar style tag text
  | .sequence items => .list (ofYamlItems items)
  | .mapping members => .table (ofYamlMembers members)
  | .cyclic => .scalar none none none

/-- YAML items as parts of a settings document. -/
def SettingTree.ofYamlItems : List Yaml → List SettingTree
  | [] => []
  | v :: vs => ofYaml v :: ofYamlItems vs

/-- YAML members as parts of a settings document. -/
def SettingTree.ofYamlMembers : List (Yaml × Yaml) → List (Option String × SettingTree)
  | [] => []
  | (key, v) :: ms => (key.keyText?, ofYaml v) :: ofYamlMembers ms

end

def Settings.ofYaml? (text : String) : Option Settings :=
  (Yaml.ofText? text).bind fun found =>
    Settings.ofTree? false ((found.map SettingTree.ofYaml).getD .nothing)

end ProgramFacts
