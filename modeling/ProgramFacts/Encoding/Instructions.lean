import ProgramFacts.Encoding.Entities
import ProgramFacts.Encoding.State

/-!
# Encoding variables, constants and instructions

A variable is declared before any row mentions it.  String and class constants and method handles
are objects that an instruction allocates; null and numbers are written with the instruction.
-/

namespace ProgramFacts
namespace Encoding

/-- The step that declares a local variable of a method. -/
def localStep (method : String) (l : Local) : Step :=
  .declare (localId method l.name) l.type method

/-- A local variable of a method that is given by its identifier. -/
def variableIn (method : String) (l : Local) : Encoding String :=
  ofSteps [localStep method l] (localId method l.name)

def localVariable (settings : EncoderSettings) (m : MethodDecl) (l : Local) : Encoding String :=
  variableIn (m.id settings) l

/-- The row of an instruction that allocates an object into a variable. -/
def allocationRow (method : String) (i : Instruction) (heap var : String) : Fact :=
  .of .assignHeapAlloc
    [i.id method, i.index.toNat.repr, heap, var, method, i.lineNumber.toNat.repr]

/-- A string constant in a variable; the answer is the constant's identifier. -/
def stringAssignment
    (settings : EncoderSettings)
    (m : MethodDecl)
    (i : Instruction)
    (dest : Local)
    (value : String) :
    Encoding String :=
  let method := m.id settings
  let heap := settings.stringId value
  ofSteps
    (localStep method dest :: stringSteps settings value ++
      [.write (allocationRow method i heap (localId method dest.name))])
    heap

def nullAssignment
    (settings : EncoderSettings)
    (m : MethodDecl)
    (i : Instruction)
    (dest : Local) :
    Encoding Unit :=
  let method := m.id settings
  ofSteps
    [localStep method dest,
      .write (.of .assignNull
        [i.id method, i.index.toNat.repr, localId method dest.name, method])]
    ()

/-- A number in a variable. -/
def numericAssignment
    (settings : EncoderSettings)
    (m : MethodDecl)
    (i : Instruction)
    (dest : Local)
    (text : String) :
    Encoding Unit :=
  let method := m.id settings
  ofSteps
    [localStep method dest,
      .write (.of .assignNumConst
        [i.id method, i.index.toNat.repr, text, localId method dest.name, method])]
    ()

/-- Whether a class literal begins and ends like the descriptor of a class or array. -/
def isClassLiteral (literal : String) : Bool :=
  literal.toList.head? == some '[' ||
    (literal.toList.head? == some 'L' && literal.toList.getLast? == some ';')

/-- The class or array that a class literal denotes. -/
def literalType? (literal : String) : Option TypeRef :=
  if isClassLiteral literal then TypeRef.ofDescriptor? literal else none

/-- A class object in a variable; a literal that denotes no class or array is refused at once. -/
def classAssignment
    (settings : EncoderSettings)
    (m : MethodDecl)
    (i : Instruction)
    (dest : Local)
    (literal : String) :
    Encoding String :=
  let method := m.id settings
  match literalType? literal with
  | none =>
    -- not even the variable is declared
    ofSteps [.refuse (.unsupportedClassConstantSyntax literal (i.id method))] ""
  | some type =>
    let heap := classObjectId type.name
    ofSteps
      [.mention type,
        localStep method dest,
        .write (.of .classHeap [heap, type.name]),
        .write (allocationRow method i heap (localId method dest.name))]
      heap

/-- The base name of the temporaries that method handles are allocated into. -/
def handleTemp : String :=
  "$mhandleconstant"

/-- The type of method handles. -/
def handleType : TypeRef :=
  .named "java.lang.invoke.MethodHandle"

def handleLocal (number : Nat) : Local :=
  ⟨handleTemp ++ number.repr, handleType⟩

/-- A method handle: allocated into a fresh temporary, which is then copied to the variable. -/
def handleAssignment
    (settings : EncoderSettings)
    (numbering : Numbering)
    (m : MethodDecl)
    (i : Instruction)
    (dest : Local)
    (handle : String) :
    Encoding String :=
  let method := m.id settings
  let temp := handleLocal (numbering.next handleTemp)
  let heap := handleId handle
  ofSteps
    [localStep method dest,
      .draw handleTemp,
      localStep method temp,
      .write (.of .methodHandleConstant [heap, handle]),
      .write (allocationRow method i heap (localId method temp.name)),
      .write (.of .assignLocal
        [i.id method, i.index.toNat.repr, localId method temp.name, localId method dest.name,
          method])]
    heap

/-- A binary operation, with its operands in order. -/
def binaryOperation
    (settings : EncoderSettings)
    (m : MethodDecl)
    (i : Instruction)
    (dest : Local)
    (operator : Operator)
    (lhs rhs : Local) :
    Encoding Unit :=
  let method := m.id settings
  ofSteps
    [localStep method dest,
      localStep method lhs,
      localStep method rhs,
      .write (.of .assignBinop
        [i.id method, i.index.toNat.repr, localId method dest.name, method]),
      .write (.of .assignOperType [i.id method, operator.name]),
      .write (.of .assignOperFrom [i.id method, localId method lhs.name]),
      .write (.of .assignOperFrom [i.id method, localId method rhs.name])]
    ()

def returnValue
    (settings : EncoderSettings)
    (m : MethodDecl)
    (i : Instruction)
    (value : Local) :
    Encoding Unit :=
  let method := m.id settings
  ofSteps
    [localStep method value,
      .write (.of .returnValue
        [i.id method, i.index.toNat.repr, localId method value.name, method])]
    ()

/-- The return from a method without a value. -/
def returnVoid (settings : EncoderSettings) (m : MethodDecl) (i : Instruction) : Encoding Unit :=
  let method := m.id settings
  ofSteps [.write (.of .returnVoid [i.id method, i.index.toNat.repr, method])] ()

/-- The variable for the value that a native method returns. -/
def nativeReturn (settings : EncoderSettings) (m : MethodDecl) : Encoding String :=
  let method := m.id settings
  ofSteps
    [.declare (nativeReturnId method) m.returnType method,
      .write (.of .nativeReturnVar [nativeReturnId method, method])]
    (nativeReturnId method)

/-- The variable for a method's receiver. -/
def receiver (settings : EncoderSettings) (m : MethodDecl) : Encoding String :=
  let method := m.id settings
  ofSteps
    [.declare (thisId method) (.named m.declaringClass) method,
      .write (.of .thisVar [method, thisId method])]
    (thisId method)

def paramSteps (method : String) (index : Nat) (type : TypeRef) : List Step :=
  [.declare (paramId method index) type method,
    .write (.of .formalParam [index.repr, method, paramId method index])]

/-- The variable for a method's parameter. -/
def formalParam (settings : EncoderSettings) (m : MethodDecl) (index : Nat) : Encoding String :=
  let method := m.id settings
  match m.params[index]? with
  | none => ofSteps [.refuse (.parameterOutOfRange method index m.params.length)] ""
  | some type => ofSteps (paramSteps method index type) (paramId method index)

def declaredException (settings : EncoderSettings) (m : MethodDecl) (exception : TypeRef) :
    Encoding Unit :=
  ofSteps
    [.mention exception,
      .write (.of .methodDeclException [exception.name, m.id settings])]
    ()

/-- The mark of an instruction without a treatment of its own. -/
def unsupportedInstruction (settings : EncoderSettings) (m : MethodDecl) (i : Instruction) :
    Encoding String :=
  let method := m.id settings
  ofSteps
    [.write (.of .unsupportedInstruction [i.id method, i.index.toNat.repr, method])]
    (i.id method)

/-- An instruction; `numbering` names the temporaries that it needs. -/
def instruction
    (settings : EncoderSettings)
    (numbering : Numbering)
    (m : MethodDecl)
    (i : Instruction) :
    Plan :=
  match i.operation with
  | .constant dest (.string value) => (stringAssignment settings m i dest value).plan
  | .constant dest .null => (nullAssignment settings m i dest).plan
  | .constant dest (.numeric text) => (numericAssignment settings m i dest text).plan
  | .constant dest (.classLiteral literal) => (classAssignment settings m i dest literal).plan
  | .constant dest (.methodHandle handle) =>
    (handleAssignment settings numbering m i dest handle).plan
  | .binary dest operator lhs rhs => (binaryOperation settings m i dest operator lhs rhs).plan
  | .returnValue value => (returnValue settings m i value).plan
  | .returnVoid => (returnVoid settings m i).plan
  | .unsupported _ => (unsupportedInstruction settings m i).plan

/-- The instructions of a body in order, each with the numbers that earlier ones left. -/
def body (settings : EncoderSettings) (m : MethodDecl) : Numbering → List Instruction → Plan
  | _, [] => []
  | numbering, i :: rest =>
    let first := instruction settings numbering m i
    first ++ body settings m (numbering.advanceAll first.drawn) rest

end Encoding
end ProgramFacts
