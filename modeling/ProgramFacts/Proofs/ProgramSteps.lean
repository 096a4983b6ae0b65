import ProgramFacts.Proofs.DeclarationRows
import ProgramFacts.Proofs.Encodable

/-!
# The steps of a program by kind

The steps of a program mention the types of its fields, methods and class constants, declare the
variables of its methods, each in its method, and write the rows of its constants.
-/

namespace ProgramFacts

/-! ## Types and constants of a program -/

/-- The string constant of an instruction, if it has one. -/
def Instruction.stringConstant? (i : Instruction) : Option String :=
  match i.operation with
  | .constant _ (.string s) => some s
  | _ => none

/-- The type of the class constant of an instruction, if it has one. -/
def Instruction.classConstant? (i : Instruction) : Option TypeRef :=
  match i.operation with
  | .constant _ (.classLiteral literal) => TypeRef.ofDescriptor? literal
  | _ => none

namespace Program

/-- The instructions of all methods. -/
def instructions (p : Program) : List Instruction :=
  p.methods.flatMap MethodDecl.body

/-- The string constants of a program; the parts of its properties are among them. -/
def stringConstants (p : Program) : List String :=
  p.instructions.filterMap Instruction.stringConstant? ++
    p.properties.flatMap fun q => [q.path, q.key, q.value]

def classConstants (p : Program) : List TypeRef :=
  p.instructions.filterMap Instruction.classConstant?

/-- The types that a program mentions apart from those of variables. -/
def mentionedTypes (p : Program) : List TypeRef :=
  p.fields.map FieldDecl.type ++
    (p.methods.flatMap fun m => m.returnType :: m.params ++ m.declaredExceptions) ++
      p.classConstants

end Program

/-! ## Mentioned types -/

namespace Encoding

theorem mention_not_mem_classHeader (t : TypeRef) (c : ClassDecl) :
    Step.mention t ∉ (classHeader c).steps := by
  rw [steps_classHeader]
  cases c.application <;> simp

theorem mention_mem_wholeField_iff {t : TypeRef} {c : ClassDecl} {f : FieldDecl} :
    Step.mention t ∈ (wholeField c f).steps ↔ t = f.type := by
  simp [steps_wholeField]

theorem mention_mem_methodHeader_iff
    {t : TypeRef} {settings : EncoderSettings} {m : MethodDecl} :
    Step.mention t ∈ (methodHeader settings m).steps ↔
      t ∈ m.returnType :: m.params ++ m.declaredExceptions := by
  rw [steps_methodHeader]
  cases m.isStatic <;> cases m.isNative <;> simp [signatureStep, paramSteps]

theorem mention_mem_instruction_iff
    {t : TypeRef} {settings : EncoderSettings} {n : Numbering} {m : MethodDecl} {i : Instruction}
    (hliteral : i.HasAcceptedLiteral) :
    Step.mention t ∈ (instruction settings n m i).steps ↔ i.classConstant? = some t := by
  unfold instruction Instruction.classConstant?
  cases hop : i.operation with
  | constant dest value =>
      cases value with
      | classLiteral literal =>
          obtain ⟨type, htype, hprimitive⟩ := hliteral dest literal hop
          have hsome := literalType?_eq_some_iff.mpr ⟨htype, hprimitive⟩
          simp [classAssignment, hsome, htype, localStep, Encoding.ofSteps, eq_comm]
      | _ =>
          simp [stringAssignment, stringSteps, nullAssignment, numericAssignment, handleAssignment,
            localStep, Encoding.ofSteps]
  | _ =>
      simp [binaryOperation, returnValue, returnVoid, unsupportedInstruction, localStep,
        Encoding.ofSteps]

theorem mention_not_mem_property (t : TypeRef) (settings : EncoderSettings) (q : Property) :
    Step.mention t ∉ (property settings q).plan.steps := by
  simp [steps_property, stringSteps]

/-- The steps of a program mention its types. -/
theorem mention_mem_wholeProgram_iff
    {t : TypeRef} {settings : EncoderSettings} {p : Program}
    (hliterals : ∀ m ∈ p.methods, ∀ i ∈ m.body, i.HasAcceptedLiteral) :
    Step.mention t ∈ (wholeProgram settings p).plan.steps ↔ t ∈ p.mentionedTypes := by
  have hinstruction {c : ClassDecl} {m : MethodDecl} {k : Nat} {i : Instruction}
      (hc : c ∈ p.classes) (hm : m ∈ c.methods) (hi : (k, i) ∈ m.numberedBody) :
      Step.mention t ∈ (instruction settings (.ofHandles k) m i).steps ↔
        i.classConstant? = some t := by
    apply mention_mem_instruction_iff
    exact hliterals m (List.mem_flatMap.mpr ⟨c, hc, hm⟩) i (MethodDecl.mem_body_iff.mpr ⟨k, hi⟩)
  rw [mem_steps_wholeProgram]
  simp only [Program.mentionedTypes, Program.classConstants, Program.instructions, Program.fields,
    Program.methods, List.mem_append, List.mem_map, List.mem_flatMap, List.mem_filterMap]
  constructor
  · rintro (⟨c, hc, h | ⟨f, hf, h⟩ | ⟨m, hm, h | ⟨⟨k, i⟩, hi, h⟩⟩⟩ | ⟨q, -, h⟩)
    · exact absurd h (mention_not_mem_classHeader t c)
    · exact Or.inl (Or.inl ⟨f, ⟨c, hc, hf⟩, (mention_mem_wholeField_iff.mp h).symm⟩)
    · have htypes := mention_mem_methodHeader_iff.mp h
      exact Or.inl (Or.inr ⟨m, ⟨c, hc, hm⟩, List.mem_append.mp htypes⟩)
    · have hbody := MethodDecl.mem_body_iff.mpr ⟨k, hi⟩
      exact Or.inr ⟨i, ⟨m, ⟨c, hc, hm⟩, hbody⟩, (hinstruction hc hm hi).mp h⟩
    · exact absurd h (mention_not_mem_property t settings q)
  · rintro ((⟨f, ⟨c, hc, hf⟩, rfl⟩ | ⟨m, ⟨c, hc, hm⟩, h⟩) | ⟨i, ⟨m, ⟨c, hc, hm⟩, hi⟩, h⟩)
    · exact Or.inl ⟨c, hc, Or.inr (Or.inl ⟨f, hf, mention_mem_wholeField_iff.mpr rfl⟩)⟩
    · have htypes : Step.mention t ∈ (methodHeader settings m).steps :=
        mention_mem_methodHeader_iff.mpr (List.mem_append.mpr h)
      exact Or.inl ⟨c, hc, Or.inr (Or.inr ⟨m, hm, Or.inl htypes⟩)⟩
    · obtain ⟨k, hk⟩ := MethodDecl.mem_body_iff.mp hi
      exact Or.inl ⟨c, hc, Or.inr (Or.inr ⟨m, hm,
        Or.inr ⟨(k, i), hk, (hinstruction hc hm hk).mpr h⟩⟩)⟩

end Encoding

/-! ## Declared variables -/

namespace Step

/-- Whether a step declares a variable, if it declares one, in a given method. -/
def DeclaresIn (method : String) : Step → Prop
  | declare _ _ other => other = method
  | _ => True

theorem mem_registrations_iff {list : List Step} {var : String} {type : TypeRef} :
    (var, type) ∈ registrations list ↔ ∃ method, declare var type method ∈ list := by
  rw [registrations, List.mem_filterMap]
  constructor
  · rintro ⟨s, hs, hregistered⟩
    cases s with
    | declare other given method =>
        obtain ⟨rfl, rfl⟩ : other = var ∧ given = type := by
          simpa [registered?] using hregistered
        exact ⟨method, hs⟩
    | _ => cases hregistered
  · rintro ⟨method, h⟩
    exact ⟨declare var type method, h, rfl⟩

theorem declare_mem_iff
    {list : List Step} {method : String} (hin : ∀ s ∈ list, s.DeclaresIn method)
    {var other : String} {type : TypeRef} :
    declare var type other ∈ list ↔ other = method ∧ (var, type) ∈ registrations list := by
  rw [mem_registrations_iff]
  constructor
  · intro h
    exact ⟨hin _ h, other, h⟩
  · rintro ⟨rfl, method, h⟩
    obtain rfl : method = other := hin _ h
    exact h

end Step

namespace Encoding

theorem declaresIn_methodHeader (settings : EncoderSettings) (m : MethodDecl) :
    ∀ s ∈ (methodHeader settings m).steps, s.DeclaresIn (m.id settings) := by
  simp only [steps_methodHeader, List.forall_mem_append, List.forall_mem_flatMap]
  cases m.isStatic <;> cases m.isNative <;> simp [signatureStep, paramSteps, Step.DeclaresIn]

theorem declaresIn_instruction
    (settings : EncoderSettings) (n : Numbering) (m : MethodDecl) (i : Instruction) :
    ∀ s ∈ (instruction settings n m i).steps, s.DeclaresIn (m.id settings) := by
  unfold instruction
  cases i.operation with
  | constant dest value =>
      cases value with
      | classLiteral literal =>
          cases htype : literalType? literal <;>
            simp [classAssignment, htype, localStep, Encoding.ofSteps, Step.DeclaresIn]
      | _ =>
          simp [stringAssignment, stringSteps, nullAssignment, numericAssignment, handleAssignment,
            localStep, Encoding.ofSteps, Step.DeclaresIn]
  | _ =>
      simp [binaryOperation, returnValue, returnVoid, unsupportedInstruction, localStep,
        Encoding.ofSteps, Step.DeclaresIn]

theorem declaresIn_wholeMethod (settings : EncoderSettings) (m : MethodDecl) :
    ∀ s ∈ (wholeMethod settings m).plan.steps, s.DeclaresIn (m.id settings) := by
  rw [plan_wholeMethod, Plan.steps_append, Plan.steps_flatMap, List.forall_mem_append,
    List.forall_mem_flatMap]
  exact ⟨declaresIn_methodHeader settings m,
    fun e _ => declaresIn_instruction settings _ m e.2⟩

/-- The steps of a program declare the variables of its methods, each in its method. -/
theorem declare_mem_wholeProgram_iff
    {settings : EncoderSettings} {p : Program}
    (hliterals : ∀ m ∈ p.methods, ∀ i ∈ m.body, i.HasAcceptedLiteral)
    {var method : String} {type : TypeRef} :
    Step.declare var type method ∈ (wholeProgram settings p).plan.steps ↔
      ∃ m ∈ p.methods, method = m.id settings ∧ (var, type) ∈ m.supplied settings := by
  have hno {steps : List Step} (hnil : Step.registrations steps = []) :
      Step.declare var type method ∉ steps := by
    intro h
    have hmem := Step.mem_registrations_iff.mpr ⟨method, h⟩
    rw [hnil] at hmem
    exact absurd hmem List.not_mem_nil
  have hmethod {m : MethodDecl} (hm : m ∈ p.methods) :
      Step.declare var type method ∈ (wholeMethod settings m).plan.steps ↔
        method = m.id settings ∧ (var, type) ∈ m.supplied settings := by
    rw [Step.declare_mem_iff (declaresIn_wholeMethod settings m),
      registrations_wholeMethod settings (hliterals m hm)]
  simp only [wholeProgram, programClass, wholeClass, Plan.steps_append, Plan.steps_flatMap,
    Plan.steps_within, List.mem_append, List.mem_flatMap]
  constructor
  · rintro (⟨c, hc, (h | ⟨f, -, h⟩) | ⟨m, hm, h⟩⟩ | ⟨q, -, h⟩)
    · exact absurd h (hno (registrations_classHeader c))
    · exact absurd h (hno (registrations_wholeField c f))
    · have hmem := List.mem_flatMap.mpr ⟨c, hc, hm⟩
      exact ⟨m, hmem, (hmethod hmem).mp h⟩
    · exact absurd h (hno (registrations_property settings q))
  · rintro ⟨m, hmem, h⟩
    obtain ⟨c, hc, hm⟩ := List.mem_flatMap.mp hmem
    exact Or.inl ⟨c, hc, Or.inr ⟨m, hm, (hmethod hmem).mpr h⟩⟩

end Encoding

/-! ## Constants -/

/-- The rows of the constant of an instruction, apart from its allocation. -/
def Instruction.constantRows (settings : EncoderSettings) (i : Instruction) :
    Relation → List (List String)
  | .stringRaw =>
    i.stringConstant?.toList.map fun s => [settings.stringId s, settings.rawString s]
  | .stringConst => i.stringConstant?.toList.map fun s => [settings.stringId s]
  | .classHeap => i.classConstant?.toList.map fun t => ["<class " ++ t.name ++ ">", t.name]
  | _ => []

namespace Encoding

/-- An instruction whose class literal is accepted writes the rows of its constant. -/
theorem mem_written_instruction_iff
    {settings : EncoderSettings} {n : Numbering} {m : MethodDecl} {i : Instruction}
    (hliteral : i.HasAcceptedLiteral)
    {r : Relation} (hr : r = .stringRaw ∨ r = .stringConst ∨ r = .classHeap)
    {row : List String} :
    (r, row) ∈ Step.written (instruction settings n m i).steps ↔
      row ∈ i.constantRows settings r := by
  unfold instruction
  cases hop : i.operation with
  | constant dest value =>
      cases value with
      | string s =>
          rcases hr with rfl | rfl | rfl <;>
            simp [Instruction.constantRows, Instruction.stringConstant?,
              Instruction.classConstant?, hop, stringAssignment, stringSteps, localStep,
              allocationRow, Encoding.ofSteps, Fact.of]
      | classLiteral literal =>
          obtain ⟨type, htype, hprimitive⟩ := hliteral dest literal hop
          have hsome := literalType?_eq_some_iff.mpr ⟨htype, hprimitive⟩
          rcases hr with rfl | rfl | rfl <;>
            simp [Instruction.constantRows, Instruction.stringConstant?,
              Instruction.classConstant?, hop, htype, classAssignment, hsome, localStep,
              allocationRow, classObjectId, Encoding.ofSteps, Fact.of]
      | _ =>
          rcases hr with rfl | rfl | rfl <;>
            simp [Instruction.constantRows, Instruction.stringConstant?,
              Instruction.classConstant?, hop, nullAssignment, numericAssignment,
              handleAssignment, localStep, allocationRow, Encoding.ofSteps, Fact.of]
  | _ =>
      rcases hr with rfl | rfl | rfl <;>
        simp [Instruction.constantRows, Instruction.stringConstant?,
          Instruction.classConstant?, hop, binaryOperation, returnValue, returnVoid,
          unsupportedInstruction, localStep, Encoding.ofSteps, Fact.of]

end Encoding

end ProgramFacts
