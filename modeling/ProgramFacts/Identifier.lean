import ProgramFacts.Program.Basic
import ProgramFacts.Settings.Basic
import ProgramFacts.Text.Basic
import ProgramFacts.TypeRef.Descriptor

/-!
# Identifiers

The text schemes by which facts refer to methods, fields, variables, instructions and constants.
Identifiers depend on the entity and the settings alone.
-/

namespace ProgramFacts

/-- The decimal form of a signed number. -/
def signedDecimal : Int → String
  | .ofNat n => n.repr
  | .negSucc n => "-" ++ (n + 1).repr

/-- The tag that stands for a text with a given hash. -/
def hashTag (label : String) (raw : String) : String :=
  "<<" ++ label ++ ":" ++ signedDecimal (Text.hash raw).toInt ++ ">>"

/-- A text of at most `threshold` UTF-16 units is its own identifier; a longer one gets a tag. -/
def shorten (label : String) (threshold : Nat) (raw : String) : String :=
  if Text.unitLength raw ≤ threshold then raw else hashTag label raw

/-- A text in quotes, if it is empty or has blanks at an end. -/
def quoteIfPadded (s : String) : String :=
  if s ≠ "" ∧ Text.trimmed s = s then s else "<<\"" ++ s ++ "\">>"

namespace EncoderSettings

/-- The text that represents a string constant. -/
def rawString (settings : EncoderSettings) (s : String) : String :=
  if settings.quotePaddedStrings then quoteIfPadded s else s

def stringId (settings : EncoderSettings) (s : String) : String :=
  shorten "HASH" settings.stringHashThreshold (settings.rawString s)

def signatureId (settings : EncoderSettings) (signature : String) : String :=
  shorten "METHOD HASH" settings.signatureHashThreshold signature

end EncoderSettings

namespace MethodDecl

/-- The parameter types in source form, separated by commas. -/
def paramList (m : MethodDecl) : String :=
  String.intercalate "," (m.params.map TypeRef.name)

/-- The full signature: declaring class, return type, name and parameter types. -/
def signature (m : MethodDecl) : String :=
  "<" ++ m.declaringClass ++ ": " ++ m.returnType.name ++ " " ++ m.name ++ "(" ++ m.paramList ++
    ")>"

/-- The return type and parameter types in source form. -/
def sourceDescriptor (m : MethodDecl) : String :=
  m.returnType.name ++ "(" ++ m.paramList ++ ")"

/-- The parameter types and return type in descriptor form. -/
def rawDescriptor (m : MethodDecl) : String :=
  "(" ++ String.join (m.params.map TypeRef.descriptor) ++ ")" ++ m.returnType.descriptor

def id (settings : EncoderSettings) (m : MethodDecl) : String :=
  settings.signatureId m.signature

end MethodDecl

/-- The identifier of a field: declaring class, type and name. -/
def FieldDecl.signature (f : FieldDecl) : String :=
  "<" ++ f.declaringClass ++ ": " ++ f.type.name ++ " " ++ f.name ++ ">"

def localId (method : String) (name : String) : String :=
  method ++ "/" ++ name

/-- The identifier of a method's receiver. -/
def thisId (method : String) : String :=
  method ++ "/@this"

/-- The identifier of a method's parameter. -/
def paramId (method : String) (index : Nat) : String :=
  method ++ "/@parameter" ++ index.repr

/-- The identifier of the value that a native method returns. -/
def nativeReturnId (method : String) : String :=
  method ++ "/@native-return"

/-- The identifier of an instruction of a method: its label and index. -/
def Instruction.id (method : String) (i : Instruction) : String :=
  method ++ "/" ++ i.operation.label ++ "/instruction" ++ i.index.toNat.repr

/-- The identifier of the object that stands for a class. -/
def classObjectId (type : String) : String :=
  "<class " ++ type ++ ">"

def handleId (handle : String) : String :=
  "<handle " ++ handle ++ ">"

end ProgramFacts
