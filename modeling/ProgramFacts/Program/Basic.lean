import ProgramFacts.TypeRef.Basic

/-!
# Programs

A program is a list of classes with their fields, methods and instruction bodies, and a list of
configuration properties.
-/

namespace ProgramFacts

/-- The modifiers of classes, fields and methods. -/
inductive Modifier where
  | «public»
  | «private»
  | «protected»
  | static
  | final
  | synchronized
  | volatile
  | transient
  | native
  | abstract
  | strictfp
  | synthetic
  | bridge
  | varargs
  | enum
  | annotationType
  | interface
  deriving DecidableEq, Repr

namespace Modifier

def name : Modifier → String
  | .public => "public"
  | .private => "private"
  | .protected => "protected"
  | .static => "static"
  | .final => "final"
  | .synchronized => "synchronized"
  | .volatile => "volatile"
  | .transient => "transient"
  | .native => "native"
  | .abstract => "abstract"
  | .strictfp => "strictfp"
  | .synthetic => "synthetic"
  | .bridge => "bridge"
  | .varargs => "varargs"
  | .enum => "enum"
  | .annotationType => "annotation"
  | .interface => "interface"

def all : List Modifier :=
  [.public, .private, .protected, .static, .final, .synchronized, .volatile, .transient, .native,
    .abstract, .strictfp, .synthetic, .bridge, .varargs, .enum, .annotationType, .interface]

def ofName? (s : String) : Option Modifier :=
  all.find? fun m => m.name == s

end Modifier

/-- A local variable, as it is used at some place of a body. -/
structure Local where
  name : String
  type : TypeRef
  deriving DecidableEq, Repr

/-- The binary operators. -/
inductive Operator where
  | add
  | sub
  | mul
  | div
  | rem
  | and
  | or
  | xor
  | shl
  | shr
  | ushr
  deriving DecidableEq, Repr

namespace Operator

def name : Operator → String
  | add => "add"
  | sub => "sub"
  | mul => "mul"
  | div => "div"
  | rem => "rem"
  | and => "and"
  | or => "or"
  | xor => "xor"
  | shl => "shl"
  | shr => "shr"
  | ushr => "ushr"

def all : List Operator :=
  [add, sub, mul, div, rem, and, or, xor, shl, shr, ushr]

def ofName? (s : String) : Option Operator :=
  all.find? fun o => o.name == s

end Operator

/-- A literal constant. -/
inductive Constant where
  | string (value : String)
  | null
  /-- A number, as it was spelled. -/
  | numeric (text : String)
  /-- A class literal in descriptor form. -/
  | classLiteral (literal : String)
  /-- A method that a method handle refers to. -/
  | methodHandle (handle : String)
  deriving DecidableEq, Repr

/-- What an instruction does. -/
inductive Operation where
  | constant (dest : Local) (value : Constant)
  | binary (dest : Local) (operator : Operator) (lhs rhs : Local)
  | returnValue (value : Local)
  | returnVoid
  /-- An operation without a treatment of its own. -/
  | unsupported (opcode : String)
  deriving DecidableEq, Repr

/-- The label of an operation in instruction identifiers. -/
def Operation.label : Operation → String
  | constant _ (.string _) => "assign-string"
  | constant _ .null => "assign-null"
  | constant _ (.numeric _) => "assign-num"
  | constant _ (.classLiteral _) => "assign-class"
  | constant _ (.methodHandle _) => "assign-handle"
  | binary .. => "binop"
  | returnValue _ => "return"
  | returnVoid => "return-void"
  | unsupported opcode => "unsupported " ++ opcode

/-- An instruction at an index of a body. -/
structure Instruction where
  index : UInt32
  line : Option UInt32
  operation : Operation
  deriving DecidableEq, Repr

/-- The source line of an instruction, zero if it is not known. -/
def Instruction.lineNumber (i : Instruction) : UInt32 :=
  i.line.getD 0

/-- Whether an instruction has no treatment of its own. -/
def Instruction.isUnsupported (i : Instruction) : Bool :=
  match i.operation with
  | .unsupported _ => true
  | _ => false

/-- A field and the class that declares it. -/
structure FieldDecl where
  declaringClass : String
  name : String
  type : TypeRef
  modifiers : List Modifier
  deriving DecidableEq, Repr

/-- A method, the class that declares it, and its body. -/
structure MethodDecl where
  declaringClass : String
  name : String
  params : List TypeRef
  returnType : TypeRef
  modifiers : List Modifier
  declaredExceptions : List TypeRef
  body : List Instruction
  deriving DecidableEq, Repr

namespace MethodDecl

/-- Whether a method has no receiver. -/
def isStatic (m : MethodDecl) : Bool :=
  m.modifiers.contains .static

/-- Whether a method is implemented outside the program. -/
def isNative (m : MethodDecl) : Bool :=
  m.modifiers.contains .native

end MethodDecl

/-- A class or interface with its members. -/
structure ClassDecl where
  name : String
  isInterface : Bool
  superclass : Option String
  interfaces : List String
  modifiers : List Modifier
  fields : List FieldDecl
  methods : List MethodDecl
  /-- Whether the class belongs to the application and not to a library. -/
  application : Bool
  /-- The archive that the class was loaded from. -/
  artifact : Option String
  deriving DecidableEq, Repr

/-- A key of a properties file and its value. -/
structure Property where
  path : String
  key : String
  value : String
  deriving DecidableEq, Repr

/-- A program. -/
structure Program where
  classes : List ClassDecl
  properties : List Property
  deriving DecidableEq, Repr

/-- A field that names no declaring class is declared by the given one. -/
def FieldDecl.adopt (owner : String) (f : FieldDecl) : FieldDecl :=
  if f.declaringClass = "" then { f with declaringClass := owner } else f

/-- A method that names no declaring class is declared by the given one. -/
def MethodDecl.adopt (owner : String) (m : MethodDecl) : MethodDecl :=
  if m.declaringClass = "" then { m with declaringClass := owner } else m

/-- Members that name no declaring class are declared by the class that lists them. -/
def ClassDecl.adoptMembers (c : ClassDecl) : ClassDecl :=
  { c with
    fields := c.fields.map (FieldDecl.adopt c.name)
    methods := c.methods.map (MethodDecl.adopt c.name) }

namespace Program

/-- The program without classes and properties. -/
def empty : Program :=
  ⟨[], []⟩

/-- The program in which every member names its declaring class. -/
def link (p : Program) : Program :=
  { p with classes := p.classes.map ClassDecl.adoptMembers }

/-- The classes and properties of one program, followed by those of another. -/
def merge (p q : Program) : Program :=
  ⟨p.classes ++ q.classes, p.properties ++ q.properties⟩

/-- The methods of all classes. -/
def methods (p : Program) : List MethodDecl :=
  p.classes.flatMap ClassDecl.methods

/-- The number of methods of all classes. -/
def methodCount (p : Program) : Nat :=
  p.methods.length

/-- The number of instructions of all methods. -/
def instructionCount (p : Program) : Nat :=
  (p.methods.flatMap MethodDecl.body).length

end Program
end ProgramFacts
