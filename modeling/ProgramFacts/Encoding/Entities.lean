import ProgramFacts.Encoding.Step
import ProgramFacts.Identifier

/-!
# Encoding types, constants and declarations

Types, string constants and signatures, then classes, fields, methods and properties.  Only direct
supertypes are written; their closure is left to the consumers of the facts.
-/

namespace ProgramFacts
namespace Encoding

/-- A type: the rows of its array levels; the answer is its name. -/
def typeId (t : TypeRef) : Encoding String :=
  ofSteps [.mention t] t.name

/-- A class by its name, which needs no rows. -/
def classTypeId (name : String) : Encoding String :=
  ofSteps [] name

/-- The steps of a string constant: its identifier, with the text that it stands for. -/
def stringSteps (settings : EncoderSettings) (s : String) : List Step :=
  [.write (.of .stringRaw [settings.stringId s, settings.rawString s]),
    .write (.of .stringConst [settings.stringId s])]

def stringConstant (settings : EncoderSettings) (s : String) : Encoding String :=
  ofSteps (stringSteps settings s) (settings.stringId s)

/-- The step of a method signature: its identifier, with the text that it stands for. -/
def signatureStep (settings : EncoderSettings) (signature : String) : Step :=
  .write (.of .stringRaw [settings.signatureId signature, signature])

def signature (settings : EncoderSettings) (signature : String) : Encoding String :=
  ofSteps [signatureStep settings signature] (settings.signatureId signature)

def methodRow (settings : EncoderSettings) (m : MethodDecl) : Fact :=
  .of .method [m.id settings, m.name, m.sourceDescriptor, m.declaringClass, m.returnType.name,
    m.rawDescriptor]

/-- A method: its types, its signature, and its row. -/
def method (settings : EncoderSettings) (m : MethodDecl) : Encoding String :=
  ofSteps
    (.mention m.returnType :: m.params.map .mention ++
      [signatureStep settings m.signature, .write (methodRow settings m)])
    (m.id settings)

/-- A field: its type and its row. -/
def field (f : FieldDecl) : Encoding String :=
  ofSteps
    [.mention f.type,
      .write (.of .fieldSignature [f.signature, f.declaringClass, f.name, f.type.name])]
    f.signature

/-- The row that says whether a type is a class or an interface. -/
def classKindRow (c : ClassDecl) : Fact :=
  if c.isInterface then .of .interfaceType [c.name] else .of .classType [c.name]

/-- A class or interface: its kind, and the object that stands for it. -/
def classOrInterface (c : ClassDecl) : Encoding String :=
  ofSteps
    [.write (classKindRow c), .write (.of .classHeap [classObjectId c.name, c.name])]
    c.name

def superclass (c : ClassDecl) (super : String) : Encoding Unit :=
  ofSteps [.write (.of .directSuperClass [c.name, super])] ()

def superinterface (c : ClassDecl) (super : String) : Encoding Unit :=
  ofSteps [.write (.of .directSuperIface [c.name, super])] ()

def fieldModifier (f : FieldDecl) (modifier : Modifier) : Encoding Unit :=
  ofSteps [.write (.of .fieldModifier [modifier.name, f.signature])] ()

/-- A modifier of a class, after the row of the class's kind. -/
def classModifier (c : ClassDecl) (modifier : Modifier) : Encoding Unit :=
  ofSteps
    [.write (classKindRow c), .write (.of .classModifier [modifier.name, c.name])]
    ()

/-- A modifier of a method; it does not declare the method. -/
def methodModifier (settings : EncoderSettings) (m : MethodDecl) (modifier : Modifier) :
    Encoding Unit :=
  ofSteps [.write (.of .methodModifier [modifier.name, m.id settings])] ()

/-- A mark that a class belongs to the application. -/
def applicationClass (c : ClassDecl) : Encoding Unit :=
  ofSteps [.write (.of .appClass [c.name])] ()

/-- The archive that a class was loaded from. -/
def classArtifact (c : ClassDecl) (artifact : String) : Encoding Unit :=
  ofSteps [.write (.of .classArtifact [artifact, c.name])] ()

/-- A property, each part of which is a string constant. -/
def property (settings : EncoderSettings) (p : Property) : Encoding Unit :=
  ofSteps
    (stringSteps settings p.path ++ stringSteps settings p.key ++ stringSteps settings p.value ++
      [.write (.of .properties
        [settings.stringId p.path, settings.stringId p.key, settings.stringId p.value])])
    ()

end Encoding
end ProgramFacts
