import ProgramFacts.Proofs.Calls
import ProgramFacts.Proofs.Parts

/-!
# The relations that calls write to

Each call writes rows to a few relations that are known beforehand.  No call writes to a relation
about types other than by mentioning a type or declaring a variable.
-/

namespace ProgramFacts

/-- Whether the relation that a step writes to, if it writes a row, is an allowed one. -/
def Step.WritesOnly (allowed : Relation → Prop) : Step → Prop
  | write f => allowed f.relation
  | _ => True

theorem Step.WritesOnly.mono
    {allowed allowed' : Relation → Prop} {s : Step}
    (h : s.WritesOnly allowed) (hle : ∀ r, allowed r → allowed' r) :
    s.WritesOnly allowed' := by
  cases s with
  | write f => exact hle _ h
  | _ => trivial

/-! ## Parts of a program -/

namespace Encoding

/-- The relations that the declaration of a class is written to. -/
def classHeaderRelations : List Relation :=
  [.classType, .interfaceType, .classHeap, .classModifier, .directSuperClass, .directSuperIface,
    .appClass, .classArtifact]

def fieldRelations : List Relation :=
  [.fieldSignature, .fieldModifier]

/-- The relations that the declaration of a method is written to. -/
def methodHeaderRelations : List Relation :=
  [.stringRaw, .method, .methodModifier, .thisVar, .formalParam, .methodDeclException,
    .nativeReturnVar]

def instructionRelations : List Relation :=
  [.stringRaw, .stringConst, .classHeap, .assignHeapAlloc, .assignNull, .assignNumConst,
    .assignLocal, .assignBinop, .assignOperType, .assignOperFrom, .returnValue, .returnVoid,
    .unsupportedInstruction, .methodHandleConstant]

def propertyRelations : List Relation :=
  [.stringRaw, .stringConst, .properties]

def classRelations : List Relation :=
  classHeaderRelations ++ fieldRelations ++ methodHeaderRelations ++ instructionRelations

theorem writesOnly_classHeader (c : ClassDecl) :
    ∀ s ∈ (classHeader c).steps, s.WritesOnly (· ∈ classHeaderRelations) := by
  simp only [steps_classHeader, List.forall_mem_append, List.forall_mem_flatMap]
  cases hinterface : c.isInterface <;> cases c.application <;>
    simp [classHeaderRelations, classKindRow, hinterface, Step.WritesOnly, Fact.of]

theorem writesOnly_wholeField (c : ClassDecl) (f : FieldDecl) :
    ∀ s ∈ (wholeField c f).steps, s.WritesOnly (· ∈ fieldRelations) := by
  simp [fieldRelations, steps_wholeField, Step.WritesOnly, Fact.of, or_imp, forall_and]

theorem writesOnly_methodHeader (settings : EncoderSettings) (m : MethodDecl) :
    ∀ s ∈ (methodHeader settings m).steps, s.WritesOnly (· ∈ methodHeaderRelations) := by
  simp only [steps_methodHeader, List.forall_mem_append, List.forall_mem_flatMap]
  cases m.isStatic <;> cases m.isNative <;>
    simp [methodHeaderRelations, signatureStep, methodRow, paramSteps, Step.WritesOnly, Fact.of]

theorem writesOnly_instruction
    (settings : EncoderSettings) (n : Numbering) (m : MethodDecl) (i : Instruction) :
    ∀ s ∈ (instruction settings n m i).steps, s.WritesOnly (· ∈ instructionRelations) := by
  unfold instruction instructionRelations
  cases i.operation with
  | constant dest value =>
      cases value with
      | string s =>
          simp [stringAssignment, stringSteps, localStep, allocationRow, Encoding.ofSteps,
            Step.WritesOnly, Fact.of]
      | null => simp [nullAssignment, localStep, Encoding.ofSteps, Step.WritesOnly, Fact.of]
      | numeric text =>
          simp [numericAssignment, localStep, Encoding.ofSteps, Step.WritesOnly, Fact.of]
      | classLiteral literal =>
          cases htype : literalType? literal <;>
            simp [classAssignment, htype, localStep, allocationRow, Encoding.ofSteps,
              Step.WritesOnly, Fact.of]
      | methodHandle handle =>
          simp [handleAssignment, localStep, allocationRow, Encoding.ofSteps, Step.WritesOnly,
            Fact.of]
  | binary dest operator lhs rhs =>
      simp [binaryOperation, localStep, Encoding.ofSteps, Step.WritesOnly, Fact.of]
  | returnValue value =>
      simp [returnValue, localStep, Encoding.ofSteps, Step.WritesOnly, Fact.of]
  | returnVoid => simp [returnVoid, Encoding.ofSteps, Step.WritesOnly, Fact.of]
  | unsupported opcode =>
      simp [unsupportedInstruction, Encoding.ofSteps, Step.WritesOnly, Fact.of]

theorem writesOnly_property (settings : EncoderSettings) (q : Property) :
    ∀ s ∈ (property settings q).plan.steps, s.WritesOnly (· ∈ propertyRelations) := by
  simp [propertyRelations, steps_property, stringSteps, Step.WritesOnly, Fact.of]

theorem writesOnly_wholeMethod (settings : EncoderSettings) (m : MethodDecl) :
    ∀ s ∈ (wholeMethod settings m).plan.steps,
      s.WritesOnly (· ∈ methodHeaderRelations ++ instructionRelations) := by
  rw [plan_wholeMethod, Plan.steps_append, Plan.steps_flatMap, List.forall_mem_append,
    List.forall_mem_flatMap]
  constructor
  · intro s hs
    exact (writesOnly_methodHeader settings m s hs).mono fun r => List.mem_append_left _
  · intro e he s hs
    exact (writesOnly_instruction settings _ m e.2 s hs).mono fun r => List.mem_append_right _

theorem writesOnly_wholeClass (settings : EncoderSettings) (c : ClassDecl) :
    ∀ s ∈ (wholeClass settings c).plan.steps, s.WritesOnly (· ∈ classRelations) := by
  simp only [wholeClass, Plan.steps_append, Plan.steps_flatMap, Plan.steps_within,
    List.forall_mem_append, List.forall_mem_flatMap]
  refine ⟨⟨?_, ?_⟩, ?_⟩
  · intro s hs
    exact (writesOnly_classHeader c s hs).mono (by decide)
  · intro f hf s hs
    exact (writesOnly_wholeField c f s hs).mono (by decide)
  · intro m hm s hs
    exact (writesOnly_wholeMethod settings m s hs).mono (by decide)

theorem writesOnly_wholeProgram (settings : EncoderSettings) (p : Program) :
    ∀ s ∈ (wholeProgram settings p).plan.steps,
      s.WritesOnly (· ∈ classRelations ++ propertyRelations) := by
  simp only [wholeProgram, programClass, Plan.steps_append, Plan.steps_flatMap, Plan.steps_within,
    List.forall_mem_append, List.forall_mem_flatMap]
  constructor
  · intro c hc s hs
    exact (writesOnly_wholeClass settings c s hs).mono fun r => List.mem_append_left _
  · intro q hq s hs
    exact (writesOnly_property settings q s hs).mono fun r => List.mem_append_right _

end Encoding

/-! ## Calls -/

namespace Call

/-- The relations that a call writes rows to, apart from the rows of types and variables. -/
def relations : Call → List Relation
  | stringConstant _ => [.stringRaw, .stringConst]
  | signature _ => [.stringRaw]
  | method _ => [.stringRaw, .method]
  | field _ => [.fieldSignature]
  | classOrInterface _ => [.classType, .interfaceType, .classHeap]
  | superclass .. => [.directSuperClass]
  | superinterface .. => [.directSuperIface]
  | fieldModifier .. => [.fieldModifier]
  | classModifier .. => [.classType, .interfaceType, .classModifier]
  | methodModifier .. => [.methodModifier]
  | applicationClass _ => [.appClass]
  | classArtifact .. => [.classArtifact]
  | property _ => Encoding.propertyRelations
  | stringAssignment .. => [.stringRaw, .stringConst, .assignHeapAlloc]
  | nullAssignment .. => [.assignNull]
  | numericAssignment .. => [.assignNumConst]
  | classAssignment .. => [.classHeap, .assignHeapAlloc]
  | handleAssignment .. => [.methodHandleConstant, .assignHeapAlloc, .assignLocal]
  | binaryOperation .. => [.assignBinop, .assignOperType, .assignOperFrom]
  | returnValue .. => [.returnValue]
  | returnVoid .. => [.returnVoid]
  | nativeReturn _ => [.nativeReturnVar]
  | receiver _ => [.thisVar]
  | formalParam .. => [.formalParam]
  | declaredException .. => [.methodDeclException]
  | unsupportedInstruction .. => [.unsupportedInstruction]
  | instruction .. => Encoding.instructionRelations
  | wholeMethod _ => Encoding.methodHeaderRelations ++ Encoding.instructionRelations
  | wholeClass _ => Encoding.classRelations
  | wholeProgram _ => Encoding.classRelations ++ Encoding.propertyRelations
  | _ => []

/-- A call writes rows only to its relations. -/
theorem writesOnly_plan (settings : EncoderSettings) (c : Call) :
    ∀ s ∈ (c.plan settings).steps, s.WritesOnly (· ∈ c.relations) := by
  cases c with
  | classOrInterface c =>
      cases hinterface : c.isInterface <;>
        simp [plan, encoding, relations, Encoding.map, Encoding.classOrInterface,
          Encoding.classKindRow, hinterface, Encoding.ofSteps, Step.WritesOnly, Fact.of]
  | classModifier c modifier =>
      cases hinterface : c.isInterface <;>
        simp [plan, encoding, relations, Encoding.map, Encoding.classModifier,
          Encoding.classKindRow, hinterface, Encoding.ofSteps, Step.WritesOnly, Fact.of]
  | property q => exact Encoding.writesOnly_property settings q
  | classAssignment m i dest literal =>
      cases htype : Encoding.literalType? literal <;>
        simp [plan, encoding, relations, Encoding.map, Encoding.classAssignment, htype,
          Encoding.localStep, Encoding.allocationRow, Encoding.ofSteps, Step.WritesOnly, Fact.of]
  | formalParam m index =>
      cases hparam : m.params[index]? <;>
        simp [plan, encoding, relations, Encoding.map, Encoding.formalParam, hparam,
          Encoding.paramSteps, Encoding.ofSteps, Step.WritesOnly, Fact.of]
  | instruction numbering m i => exact Encoding.writesOnly_instruction settings numbering m i
  | wholeMethod m => exact Encoding.writesOnly_wholeMethod settings m
  | wholeClass c => exact Encoding.writesOnly_wholeClass settings c
  | wholeProgram p => exact Encoding.writesOnly_wholeProgram settings p
  | method m =>
      simp only [plan, encoding, relations, Encoding.map, Encoding.method, Encoding.ofSteps,
        Plan.steps_ofSteps, List.forall_mem_append, List.forall_mem_cons, List.forall_mem_map]
      simp [Encoding.signatureStep, Encoding.methodRow, Step.WritesOnly, Fact.of]
  | _ =>
      simp [plan, encoding, relations, Encoding.map, Encoding.stringConstant, Encoding.stringSteps,
        Encoding.signature, Encoding.signatureStep, Encoding.typeId, Encoding.classTypeId,
        Encoding.field, Encoding.superclass, Encoding.superinterface, Encoding.fieldModifier,
        Encoding.methodModifier, Encoding.applicationClass, Encoding.classArtifact,
        Encoding.localVariable, Encoding.variableIn, Encoding.localStep,
        Encoding.stringAssignment, Encoding.allocationRow, Encoding.nullAssignment,
        Encoding.numericAssignment, Encoding.handleAssignment, Encoding.binaryOperation,
        Encoding.returnValue, Encoding.returnVoid, Encoding.nativeReturn, Encoding.receiver,
        Encoding.declaredException, Encoding.unsupportedInstruction, Encoding.ofSteps,
        Step.WritesOnly, Fact.of]

/-- No call writes to a relation about types by itself. -/
theorem isAboutTypes_of_mem_relations {c : Call} {r : Relation} (h : r ∈ c.relations) :
    r.isAboutTypes = false := by
  revert r
  cases c <;> simp only [relations] <;> decide

end Call
end ProgramFacts
