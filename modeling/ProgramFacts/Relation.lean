/-!
# The relational schema

The relations that an encoding fills, with the names, file names and arities that consumers of the
facts rely on.
-/

namespace ProgramFacts

/-- A relation of the schema. -/
inductive Relation where
  | stringRaw
  | stringConst
  | method
  | fieldSignature
  | classType
  | interfaceType
  | classHeap
  | directSuperClass
  | directSuperIface
  | arrayType
  | componentType
  | varType
  | varDeclaringMethod
  | assignHeapAlloc
  | assignNull
  | assignNumConst
  | assignLocal
  | assignBinop
  | assignOperType
  | assignOperFrom
  | returnValue
  | returnVoid
  | nativeReturnVar
  | unsupportedInstruction
  | formalParam
  | thisVar
  | methodDeclException
  | fieldModifier
  | classModifier
  | methodModifier
  | methodHandleConstant
  | appClass
  | classArtifact
  | properties
  deriving DecidableEq, Repr

namespace Relation

/-- What the schema says about a relation. -/
structure Entry where
  /-- The name of the relation in the schema. -/
  schemaName : String
  /-- The name of its fact file, without the extension. -/
  stem : String
  /-- The number of its columns. -/
  arity : Nat

def entry : Relation → Entry
  | stringRaw => ⟨"STRING_RAW", "StringRaw", 2⟩
  | stringConst => ⟨"STRING_CONST", "StringConstant", 1⟩
  | method => ⟨"METHOD", "Method", 6⟩
  | fieldSignature => ⟨"FIELD_SIGNATURE", "Field", 4⟩
  | classType => ⟨"CLASS_TYPE", "ClassType", 1⟩
  | interfaceType => ⟨"INTERFACE_TYPE", "InterfaceType", 1⟩
  | classHeap => ⟨"CLASS_HEAP", "ClassHeap", 2⟩
  | directSuperClass => ⟨"DIRECT_SUPER_CLASS", "DirectSuperclass", 2⟩
  | directSuperIface => ⟨"DIRECT_SUPER_IFACE", "DirectSuperinterface", 2⟩
  | arrayType => ⟨"ARRAY_TYPE", "ArrayType", 1⟩
  | componentType => ⟨"COMPONENT_TYPE", "ComponentType", 2⟩
  | varType => ⟨"VAR_TYPE", "Var-Type", 2⟩
  | varDeclaringMethod => ⟨"VAR_DECLARING_METHOD", "Var-DeclaringMethod", 2⟩
  | assignHeapAlloc => ⟨"ASSIGN_HEAP_ALLOC", "AssignHeapAllocation", 6⟩
  | assignNull => ⟨"ASSIGN_NULL", "AssignNull", 4⟩
  | assignNumConst => ⟨"ASSIGN_NUM_CONST", "AssignNumConstant", 5⟩
  | assignLocal => ⟨"ASSIGN_LOCAL", "AssignLocal", 5⟩
  | assignBinop => ⟨"ASSIGN_BINOP", "AssignBinop", 4⟩
  | assignOperType => ⟨"ASSIGN_OPER_TYPE", "AssignOperType", 2⟩
  | assignOperFrom => ⟨"ASSIGN_OPER_FROM", "AssignOperFrom", 2⟩
  | returnValue => ⟨"RETURN", "Return", 4⟩
  | returnVoid => ⟨"RETURN_VOID", "ReturnVoid", 3⟩
  | nativeReturnVar => ⟨"NATIVE_RETURN_VAR", "NativeReturnVar", 2⟩
  | unsupportedInstruction => ⟨"UNSUPPORTED_INSTRUCTION", "UnsupportedInstruction", 3⟩
  | formalParam => ⟨"FORMAL_PARAM", "FormalParam", 3⟩
  | thisVar => ⟨"THIS_VAR", "ThisVar", 2⟩
  | methodDeclException => ⟨"METHOD_DECL_EXCEPTION", "Method-DeclaresException", 2⟩
  | fieldModifier => ⟨"FIELD_MODIFIER", "Field-Modifier", 2⟩
  | classModifier => ⟨"CLASS_MODIFIER", "ClassModifier", 2⟩
  | methodModifier => ⟨"METHOD_MODIFIER", "Method-Modifier", 2⟩
  | methodHandleConstant => ⟨"METHOD_HANDLE_CONSTANT", "MethodHandleConstant", 2⟩
  | appClass => ⟨"APP_CLASS", "ApplicationClass", 1⟩
  | classArtifact => ⟨"CLASS_ARTIFACT", "Class-Artifact", 2⟩
  | properties => ⟨"PROPERTIES", "Properties", 3⟩

def schemaName (r : Relation) : String :=
  r.entry.schemaName

/-- The name of a relation's fact file, without the extension. -/
def stem (r : Relation) : String :=
  r.entry.stem

/-- The name of a relation's fact file. -/
def fileName (r : Relation) : String :=
  r.stem ++ ".facts"

/-- The number of columns of a relation. -/
def arity (r : Relation) : Nat :=
  r.entry.arity

/-- Every relation, in the order of the schema. -/
def all : List Relation :=
  [stringRaw, stringConst, method, fieldSignature, classType, interfaceType, classHeap,
    directSuperClass, directSuperIface, arrayType, componentType, varType, varDeclaringMethod,
    assignHeapAlloc, assignNull, assignNumConst, assignLocal, assignBinop, assignOperType,
    assignOperFrom, returnValue, returnVoid, nativeReturnVar, unsupportedInstruction, formalParam,
    thisVar, methodDeclException, fieldModifier, classModifier, methodModifier,
    methodHandleConstant, appClass, classArtifact, properties]

def ofSchemaName? (s : String) : Option Relation :=
  all.find? fun r => r.schemaName == s

end Relation

/-! ## Facts

A fact is a row of a relation, with as many cells as the relation has columns.  Rows are ordered
cell by cell, and cells by code point.
-/

/-- A row of a relation. -/
structure Fact where
  relation : Relation
  row : List String
  length_row : row.length = relation.arity
  deriving DecidableEq

namespace Fact

def of (relation : Relation) (row : List String)
    (length_row : row.length = relation.arity := by rfl) : Fact :=
  ⟨relation, row, length_row⟩

/-- The fact with a given row, if the row has the right number of cells. -/
def ofRow? (relation : Relation) (row : List String) : Option Fact :=
  if h : row.length = relation.arity then some ⟨relation, row, h⟩ else none

end Fact

end ProgramFacts
