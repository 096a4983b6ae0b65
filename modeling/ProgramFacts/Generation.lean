import ProgramFacts.Encoding.Instructions

/-!
# Encoding whole programs

Classes are encoded one after another: the class, its fields, its methods with their bodies; then
the properties.  The first failure stops the run, and its error names the class and the member that
it occurred in.
-/

namespace ProgramFacts

/-- How much of a program was encoded. -/
structure Statistics where
  classes : Nat
  fields : Nat
  methods : Nat
  instructions : Nat
  unsupported : Nat
  properties : Nat
  deriving DecidableEq, Repr

namespace Statistics

/-- Nothing was encoded. -/
def zero : Statistics :=
  ⟨0, 0, 0, 0, 0, 0⟩

/-- The sum of two statistics. -/
def add (a b : Statistics) : Statistics :=
  ⟨a.classes + b.classes, a.fields + b.fields, a.methods + b.methods,
    a.instructions + b.instructions, a.unsupported + b.unsupported, a.properties + b.properties⟩

def sum (items : List Statistics) : Statistics :=
  items.foldr add zero

end Statistics

namespace Encoding

/-- A method: its declaration, its implicit variables and exceptions, and its body. -/
def wholeMethod (settings : EncoderSettings) (m : MethodDecl) : Encoding Statistics where
  plan :=
    (method settings m).plan ++
    m.modifiers.flatMap (fun modifier => (methodModifier settings m modifier).plan) ++
    (if m.isStatic then [] else (receiver settings m).plan) ++
    (List.range m.params.length).flatMap (fun index => (formalParam settings m index).plan) ++
    m.declaredExceptions.flatMap (fun exception => (declaredException settings m exception).plan) ++
    (if m.isNative then (nativeReturn settings m).plan else []) ++
    body settings m .empty m.body
  answer :=
    { Statistics.zero with
      methods := 1
      instructions := m.body.length
      unsupported := m.body.countP Instruction.isUnsupported }

def wholeField (c : ClassDecl) (f : FieldDecl) : Plan :=
  Plan.within ("field " ++ c.name ++ "." ++ f.name) (field f).plan ++
    f.modifiers.flatMap fun modifier => (fieldModifier f modifier).plan

/-- What a class declares apart from its members. -/
def classHeader (c : ClassDecl) : Plan :=
  (classOrInterface c).plan ++
  c.modifiers.flatMap (fun modifier => (classModifier c modifier).plan) ++
  c.superclass.toList.flatMap (fun super => (superclass c super).plan) ++
  c.interfaces.flatMap (fun super => (superinterface c super).plan) ++
  (if c.application then (applicationClass c).plan else []) ++
  c.artifact.toList.flatMap (fun artifact => (classArtifact c artifact).plan)

def wholeClass (settings : EncoderSettings) (c : ClassDecl) : Encoding Statistics where
  plan :=
    classHeader c ++
    c.fields.flatMap (wholeField c) ++
    -- a method is a unit of its own, which errors name after the class
    c.methods.flatMap fun m =>
      Plan.within ("method " ++ m.id settings) (wholeMethod settings m).plan
  answer :=
    (Statistics.sum (c.methods.map fun m => (wholeMethod settings m).answer)).add
      { Statistics.zero with classes := 1, fields := c.fields.length }

def programClass (settings : EncoderSettings) (c : ClassDecl) : Plan :=
  Plan.within ("class " ++ c.name) (wholeClass settings c).plan

/-- A program: its classes, then its properties. -/
def wholeProgram (settings : EncoderSettings) (p : Program) : Encoding Statistics where
  plan :=
    p.classes.flatMap (programClass settings) ++
    p.properties.flatMap fun q => (property settings q).plan
  answer :=
    (Statistics.sum (p.classes.map fun c => (wholeClass settings c).answer)).add
      { Statistics.zero with properties := p.properties.length }

end Encoding

/-- The number of classes that a run finishes or fails in. -/
def classesVisited (settings : EncoderSettings) (types : RecordedTypes) : List ClassDecl → Nat
  | [] => 0
  | c :: rest =>
    let run := Plan.run types (Encoding.programClass settings c)
    match run.failure with
    | some _ => 1
    | none => 1 + classesVisited settings run.types rest

end ProgramFacts
