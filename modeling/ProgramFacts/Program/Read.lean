import ProgramFacts.Json.Decode
import ProgramFacts.Json.Reader
import ProgramFacts.Program.Basic
import ProgramFacts.TypeRef.Source

/-!
# Reading programs

The JSON form of a program.  Every declaration is a record; an instruction is an object whose
members apart from `index` and `line` describe its operation, which `op` names.
-/

namespace ProgramFacts

/-- Reads a type in source form. -/
def TypeRef.ofJson? (v : Json) : Option TypeRef :=
  v.text?.bind fun s => (TypeRef.ofSource s).toOption

def Modifier.ofJson? (v : Json) : Option Modifier :=
  (v.choice? Json.isNull).bind Modifier.ofName?

def Operator.ofJson? (v : Json) : Option Operator :=
  (v.choice? Json.isNull).bind Operator.ofName?

def Local.ofJson? (v : Json) : Option Local :=
  match v.fields? ["name", "type"] with
  | some [name, type] => do
    return {
      name := ← Json.required Json.text? name
      type := ← Json.required TypeRef.ofJson? type }
  | _ => none

/-- Reads an unsigned 32-bit number. -/
def readWord? (v : Json) : Option UInt32 :=
  (v.naturalBelow? UInt32.size).map UInt32.ofNat

/-- Reads a constant of the kind with a given name; the value may be missing. -/
def Constant.ofKind? (kind : String) (value : Option Json) : Option Constant :=
  match kind with
  | "string" => (Json.required Json.text? value).map .string
  | "numeric" => (Json.required Json.text? value).map .numeric
  | "class" => (Json.required Json.text? value).map .classLiteral
  | "method_handle" => (Json.required Json.text? value).map .methodHandle
  | "null" =>
    match value with
    | none => some .null
    | some .null => some .null
    | some _ => none
  | _ => none

/-- Reads a constant: a kind and a value, by name or in this order. -/
def Constant.ofJson? : Json → Option Constant
  | .object members =>
    match Json.memberFields? ["kind", "value"] members with
    | some [some kind, value] =>
      (kind.choice? Json.isNullOrEmptyObject).bind fun k => Constant.ofKind? k value
    | _ => none
  | .array [kind, value] =>
    (kind.choice? Json.isNullOrEmptyObject).bind fun k => Constant.ofKind? k (some value)
  | _ => none

/-- The names of the operations, in the order of the numbers that may stand for them. -/
def Operation.names : List String :=
  ["constant", "binary_op", "return", "return_void", "unsupported"]

/-- Reads the name of an operation, which may also be given by its number. -/
def Operation.nameOf? : Json → Option String
  | .string t => t
  | v => (v.naturalBelow? Operation.names.length).bind fun i => Operation.names[i]?

/-- Reads an operation of a given name from the members of an instruction. -/
def Operation.ofMembers? (op : String) (members : List (Option String × Json)) :
    Option Operation :=
  match op with
  | "constant" =>
    match Json.memberFields? ["dest", "value"] members with
    | some [dest, value] => do
      return .constant
        (← Json.required Local.ofJson? dest)
        (← Json.required Constant.ofJson? value)
    | _ => none
  | "binary_op" =>
    match Json.memberFields? ["dest", "operator", "lhs", "rhs"] members with
    | some [dest, operator, lhs, rhs] => do
      return .binary
        (← Json.required Local.ofJson? dest)
        (← Json.required (fun v => (v.choice? Json.isNullOrEmptyObject).bind Operator.ofName?)
          operator)
        (← Json.required Local.ofJson? lhs)
        (← Json.required Local.ofJson? rhs)
    | _ => none
  | "return" =>
    match Json.memberFields? ["value"] members with
    | some [value] => return .returnValue (← Json.required Local.ofJson? value)
    | _ => none
  | "return_void" => some .returnVoid
  | "unsupported" =>
    match Json.memberFields? ["opcode"] members with
    | some [opcode] => return .unsupported (← Json.required Json.text? opcode)
    | _ => none
  | _ => none

/-- The containers that may nest inside a member of an instruction. -/
def Instruction.nesting : Nat :=
  120

def Instruction.ofJson? : Json → Option Instruction
  | .object members =>
    let others := members.filter fun m => m.1 != some "index" && m.1 != some "line"
    -- the other members are held back as a whole until the operation is known
    if others.all fun m => m.2.isBufferable Instruction.nesting then
      match Json.memberFields? ["index", "line", "op"] members with
      | some [index, line, op] => do
        return {
          index := ← Json.required readWord? index
          line := ← Json.withDefault none (Json.nullable readWord?) line
          operation := ← Operation.ofMembers? (← Json.required Operation.nameOf? op) others }
      | _ => none
    else
      none
  | _ => none

def FieldDecl.ofJson? (v : Json) : Option FieldDecl :=
  match v.fields? ["declaring_class", "name", "type", "modifiers"] with
  | some [declaringClass, name, type, modifiers] => do
    return {
      declaringClass := ← Json.withDefault "" Json.text? declaringClass
      name := ← Json.required Json.text? name
      type := ← Json.required TypeRef.ofJson? type
      modifiers := ← Json.withDefault [] (Json.listOf Modifier.ofJson?) modifiers }
  | _ => none

def MethodDecl.ofJson? (v : Json) : Option MethodDecl :=
  match v.fields? ["declaring_class", "name", "params", "return_type", "modifiers",
      "declared_exceptions", "body"] with
  | some [declaringClass, name, params, returnType, modifiers, declaredExceptions, body] => do
    return {
      declaringClass := ← Json.withDefault "" Json.text? declaringClass
      name := ← Json.required Json.text? name
      params := ← Json.withDefault [] (Json.listOf TypeRef.ofJson?) params
      returnType := ← Json.required TypeRef.ofJson? returnType
      modifiers := ← Json.withDefault [] (Json.listOf Modifier.ofJson?) modifiers
      declaredExceptions := ← Json.withDefault [] (Json.listOf TypeRef.ofJson?) declaredExceptions
      body := ← Json.withDefault [] (Json.listOf Instruction.ofJson?) body }
  | _ => none

def ClassDecl.ofJson? (v : Json) : Option ClassDecl :=
  match v.fields? ["name", "is_interface", "superclass", "interfaces", "modifiers", "fields",
      "methods", "application", "artifact"] with
  | some [name, isInterface, superclass, interfaces, modifiers, fields, methods, application,
      artifact] => do
    return {
      name := ← Json.required Json.text? name
      isInterface := ← Json.withDefault false Json.bool? isInterface
      superclass := ← Json.withDefault none (Json.nullable Json.text?) superclass
      interfaces := ← Json.withDefault [] (Json.listOf Json.text?) interfaces
      modifiers := ← Json.withDefault [] (Json.listOf Modifier.ofJson?) modifiers
      fields := ← Json.withDefault [] (Json.listOf FieldDecl.ofJson?) fields
      methods := ← Json.withDefault [] (Json.listOf MethodDecl.ofJson?) methods
      application := ← Json.withDefault false Json.bool? application
      artifact := ← Json.withDefault none (Json.nullable Json.text?) artifact }
  | _ => none

def Property.ofJson? (v : Json) : Option Property :=
  match v.fields? ["path", "key", "value"] with
  | some [path, key, value] => do
    return {
      path := ← Json.required Json.text? path
      key := ← Json.required Json.text? key
      value := ← Json.required Json.text? value }
  | _ => none

namespace Program

/-- Reads a program as it is written, without linking it. -/
def ofJson? (v : Json) : Option Program :=
  match v.fields? ["classes", "properties"] with
  | some [classes, properties] => do
    return {
      classes := ← Json.withDefault [] (Json.listOf ClassDecl.ofJson?) classes
      properties := ← Json.withDefault [] (Json.listOf Property.ofJson?) properties }
  | _ => none

/-- Reads the text of a program and links it. -/
def ofText? (s : String) : Option Program :=
  ((Json.ofText? s).bind ofJson?).map link

end Program
end ProgramFacts
