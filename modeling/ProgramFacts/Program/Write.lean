import ProgramFacts.Json.Basic
import ProgramFacts.Program.Basic

/-!
# Writing programs

The JSON form of a program with every field written out and types in source form.
-/

namespace ProgramFacts

/-- A type in source form. -/
def TypeRef.toJson (t : TypeRef) : Json :=
  .text t.name

def Modifier.toJson (m : Modifier) : Json :=
  .text m.name

/-- A local variable as a record. -/
def Local.toJson (l : Local) : Json :=
  .record [("name", .text l.name), ("type", l.type.toJson)]

/-- A constant as a kind and a value. -/
def Constant.toJson : Constant → Json
  | string s => .record [("kind", .text "string"), ("value", .text s)]
  | null => .record [("kind", .text "null")]
  | numeric s => .record [("kind", .text "numeric"), ("value", .text s)]
  | classLiteral s => .record [("kind", .text "class"), ("value", .text s)]
  | methodHandle s => .record [("kind", .text "method_handle"), ("value", .text s)]

/-- The members that describe an operation. -/
def Operation.toMembers : Operation → List (String × Json)
  | constant dest value =>
    [("op", .text "constant"), ("dest", dest.toJson), ("value", value.toJson)]
  | binary dest operator lhs rhs =>
    [("op", .text "binary_op"), ("dest", dest.toJson), ("operator", .text operator.name),
      ("lhs", lhs.toJson), ("rhs", rhs.toJson)]
  | returnValue value => [("op", .text "return"), ("value", value.toJson)]
  | returnVoid => [("op", .text "return_void")]
  | unsupported opcode => [("op", .text "unsupported"), ("opcode", .text opcode)]

def Instruction.toJson (i : Instruction) : Json :=
  .record ([("index", .natural i.index.toNat),
    ("line", .option (i.line.map fun n => .natural n.toNat))] ++ i.operation.toMembers)

def FieldDecl.toJson (f : FieldDecl) : Json :=
  .record [("declaring_class", .text f.declaringClass), ("name", .text f.name),
    ("type", f.type.toJson), ("modifiers", .array (f.modifiers.map Modifier.toJson))]

def MethodDecl.toJson (m : MethodDecl) : Json :=
  .record [("declaring_class", .text m.declaringClass), ("name", .text m.name),
    ("params", .array (m.params.map TypeRef.toJson)), ("return_type", m.returnType.toJson),
    ("modifiers", .array (m.modifiers.map Modifier.toJson)),
    ("declared_exceptions", .array (m.declaredExceptions.map TypeRef.toJson)),
    ("body", .array (m.body.map Instruction.toJson))]

def ClassDecl.toJson (c : ClassDecl) : Json :=
  .record [("name", .text c.name), ("is_interface", .bool c.isInterface),
    ("superclass", .option (c.superclass.map .text)), ("interfaces", .texts c.interfaces),
    ("modifiers", .array (c.modifiers.map Modifier.toJson)),
    ("fields", .array (c.fields.map FieldDecl.toJson)),
    ("methods", .array (c.methods.map MethodDecl.toJson)),
    ("application", .bool c.application), ("artifact", .option (c.artifact.map .text))]

def Property.toJson (p : Property) : Json :=
  .record [("path", .text p.path), ("key", .text p.key), ("value", .text p.value)]

def Program.toJson (p : Program) : Json :=
  .record [("classes", .array (p.classes.map ClassDecl.toJson)),
    ("properties", .array (p.properties.map Property.toJson))]

end ProgramFacts
