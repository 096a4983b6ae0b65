import ProgramFacts.Generation
import ProgramFacts.Proofs.Run

/-!
# The parts of a program's plan

The plan of a program is made of the plans of its classes, fields, methods and instructions.  The
only thing that one instruction passes on to the next is the number of method handles so far, so
that the plan of a body is given by its instructions, each with that number.
-/

namespace ProgramFacts

/-! ## Numbers of method handles -/

/-- Whether an instruction puts a method handle into a variable. -/
def Instruction.isHandle (i : Instruction) : Bool :=
  match i.operation with
  | .constant _ (.methodHandle _) => true
  | _ => false

/-- Instructions in order, each with the number of method handles before it, `number` at first. -/
def Instruction.numberedFrom : Nat → List Instruction → List (Nat × Instruction)
  | _, [] => []
  | number, i :: rest =>
    (number, i) :: numberedFrom (if i.isHandle then number + 1 else number) rest

/-- The instructions of a body, each with the number of method handles before it. -/
def MethodDecl.numberedBody (m : MethodDecl) : List (Nat × Instruction) :=
  Instruction.numberedFrom 0 m.body

theorem Instruction.mem_numberedFrom_iff
    {number k : Nat} {instructions : List Instruction} {i : Instruction} :
    (k, i) ∈ numberedFrom number instructions ↔
      ∃ n, instructions[n]? = some i ∧
        k = number + (instructions.take n).countP Instruction.isHandle := by
  induction instructions generalizing number with
  | nil => simp [numberedFrom]
  | cons j rest ih =>
      rw [numberedFrom, List.mem_cons, ih]
      constructor
      · rintro (h | ⟨n, hn, hk⟩)
        · obtain ⟨rfl, rfl⟩ := Prod.mk.inj h
          exact ⟨0, rfl, rfl⟩
        · refine ⟨n + 1, hn, ?_⟩
          rw [hk, List.take_succ_cons, List.countP_cons]
          split <;> omega
      · rintro ⟨n, hn, hk⟩
        cases n with
        | zero =>
            obtain rfl : j = i := by simpa using hn
            exact Or.inl (by simp [hk])
        | succ n =>
            refine Or.inr ⟨n, hn, ?_⟩
            rw [hk, List.take_succ_cons, List.countP_cons]
            split <;> omega

theorem MethodDecl.mem_numberedBody_iff {m : MethodDecl} {k : Nat} {i : Instruction} :
    (k, i) ∈ m.numberedBody ↔
      ∃ n, m.body[n]? = some i ∧ k = (m.body.take n).countP Instruction.isHandle := by
  simp [numberedBody, Instruction.mem_numberedFrom_iff]

theorem MethodDecl.mem_body_iff {m : MethodDecl} {i : Instruction} :
    i ∈ m.body ↔ ∃ k, (k, i) ∈ m.numberedBody := by
  rw [List.mem_iff_getElem?]
  constructor
  · rintro ⟨n, hn⟩
    exact ⟨_, mem_numberedBody_iff.mpr ⟨n, hn, rfl⟩⟩
  · rintro ⟨k, hk⟩
    obtain ⟨n, hn, -⟩ := mem_numberedBody_iff.mp hk
    exact ⟨n, hn⟩

namespace Numbering

/-- The numbering in which some temporaries for method handles have been used. -/
def ofHandles (number : Nat) : Numbering :=
  ⟨[(Encoding.handleTemp, number)]⟩

@[simp] theorem next_empty (basename : String) : empty.next basename = 0 := rfl

@[simp] theorem next_ofHandles (number : Nat) :
    (ofHandles number).next Encoding.handleTemp = number := by
  simp [next, ofHandles]

@[simp] theorem next_advance (n : Numbering) (basename : String) :
    (n.advance basename).next basename = n.next basename + 1 := by
  simp [next, advance]

end Numbering

namespace Encoding

/-! ## Bodies -/

theorem plan_instruction_congr
    {n n' : Numbering} (h : n.next handleTemp = n'.next handleTemp)
    (settings : EncoderSettings) (m : MethodDecl) (i : Instruction) :
    instruction settings n m i = instruction settings n' m i := by
  have hhandle : ∀ dest handle,
      handleAssignment settings n m i dest handle =
        handleAssignment settings n' m i dest handle := by
    intro dest handle
    simp only [handleAssignment, h]
  simp only [instruction, hhandle]

theorem drawn_instruction
    (settings : EncoderSettings) (n : Numbering) (m : MethodDecl) (i : Instruction) :
    Plan.drawn (instruction settings n m i) = if i.isHandle then [handleTemp] else [] := by
  unfold instruction Instruction.isHandle
  cases hop : i.operation with
  | constant dest value =>
      cases value with
      | string s => rfl
      | null => rfl
      | numeric text => rfl
      | classLiteral literal =>
          simp only [classAssignment]
          split <;> rfl
      | methodHandle handle => rfl
  | binary dest operator lhs rhs => rfl
  | returnValue value => rfl
  | returnVoid => rfl
  | unsupported opcode => rfl

theorem next_advanceAll_drawn
    (settings : EncoderSettings) (n : Numbering) (m : MethodDecl) (i : Instruction) :
    (n.advanceAll (Plan.drawn (instruction settings n m i))).next handleTemp =
      if i.isHandle then n.next handleTemp + 1 else n.next handleTemp := by
  rw [drawn_instruction]
  split
  · exact Numbering.next_advance n handleTemp
  · rfl

/-- The steps of a body are those of its instructions, which are told how many method handles
precede them. -/
theorem body_eq_flatMap
    (settings : EncoderSettings) (m : MethodDecl) (n : Numbering)
    (instructions : List Instruction) :
    body settings m n instructions =
      (Instruction.numberedFrom (n.next handleTemp) instructions).flatMap fun e =>
        instruction settings (.ofHandles e.1) m e.2 := by
  induction instructions generalizing n with
  | nil => rfl
  | cons i rest ih =>
      have hfirst : instruction settings (.ofHandles (n.next handleTemp)) m i =
          instruction settings n m i :=
        plan_instruction_congr (by simp) settings m i
      rw [body, ih, next_advanceAll_drawn, Instruction.numberedFrom, List.flatMap_cons, hfirst]

/-! ## Methods, classes and programs -/

/-- The plan of a method without its body: its declaration and its implicit variables. -/
def methodHeader (settings : EncoderSettings) (m : MethodDecl) : Plan :=
  (method settings m).plan ++
  m.modifiers.flatMap (fun modifier => (methodModifier settings m modifier).plan) ++
  (if m.isStatic then [] else (receiver settings m).plan) ++
  (List.range m.params.length).flatMap (fun index => (formalParam settings m index).plan) ++
  m.declaredExceptions.flatMap (fun exception => (declaredException settings m exception).plan) ++
  (if m.isNative then (nativeReturn settings m).plan else [])

theorem plan_wholeMethod (settings : EncoderSettings) (m : MethodDecl) :
    (wholeMethod settings m).plan =
      methodHeader settings m ++
        m.numberedBody.flatMap fun e => instruction settings (.ofHandles e.1) m e.2 := by
  rw [wholeMethod, body_eq_flatMap]
  rfl

/-- Every step of a program belongs to what a class declares, to one of its fields, to one of its
methods, to an instruction of one of its methods, or to a property. -/
theorem mem_steps_wholeProgram
    {settings : EncoderSettings} {p : Program} {s : Step} :
    s ∈ (wholeProgram settings p).plan.steps ↔
      (∃ c ∈ p.classes,
        s ∈ (classHeader c).steps ∨
        (∃ f ∈ c.fields, s ∈ (wholeField c f).steps) ∨
        ∃ m ∈ c.methods,
          s ∈ (methodHeader settings m).steps ∨
          ∃ e ∈ m.numberedBody, s ∈ (instruction settings (.ofHandles e.1) m e.2).steps) ∨
      ∃ q ∈ p.properties, s ∈ (property settings q).plan.steps := by
  simp [wholeProgram, programClass, wholeClass, plan_wholeMethod]

/-- A parameter is encoded with its index and its type. -/
theorem flatMap_formalParam (settings : EncoderSettings) (m : MethodDecl) :
    ((List.range m.params.length).flatMap fun index => (formalParam settings m index).plan.steps) =
      m.params.zipIdx.flatMap fun e => paramSteps (m.id settings) e.2 e.1 := by
  have hmap :
      ((List.range m.params.length).map fun index => (formalParam settings m index).plan.steps) =
        m.params.zipIdx.map fun e => paramSteps (m.id settings) e.2 e.1 := by
    apply List.ext_getElem
    · simp
    · intro index hrange hzip
      have hindex : index < m.params.length := by simpa using hrange
      simp [formalParam, List.getElem?_eq_getElem hindex, Encoding.ofSteps]
  rw [List.flatMap_def, List.flatMap_def, hmap]

theorem steps_classHeader (c : ClassDecl) :
    (classHeader c).steps =
      [Step.write (classKindRow c), Step.write (.of .classHeap [classObjectId c.name, c.name])] ++
      (c.modifiers.flatMap fun modifier =>
        [Step.write (classKindRow c), Step.write (.of .classModifier [modifier.name, c.name])]) ++
      c.superclass.toList.map (fun super => Step.write (.of .directSuperClass [c.name, super])) ++
      c.interfaces.map (fun super => Step.write (.of .directSuperIface [c.name, super])) ++
      (if c.application then [Step.write (.of .appClass [c.name])] else []) ++
      c.artifact.toList.map (fun artifact =>
        Step.write (.of .classArtifact [artifact, c.name])) := by
  cases happlication : c.application <;>
    simp [classHeader, classOrInterface, classModifier, superclass, superinterface,
      applicationClass, classArtifact, Encoding.ofSteps, List.map_eq_flatMap, happlication]

theorem steps_wholeField (c : ClassDecl) (f : FieldDecl) :
    (wholeField c f).steps =
      [.mention f.type,
        .write (.of .fieldSignature [f.signature, f.declaringClass, f.name, f.type.name])] ++
      f.modifiers.map fun modifier => .write (.of .fieldModifier [modifier.name, f.signature]) := by
  simp [wholeField, field, fieldModifier, Encoding.ofSteps, List.map_eq_flatMap]

theorem steps_property (settings : EncoderSettings) (q : Property) :
    (property settings q).plan.steps =
      stringSteps settings q.path ++ stringSteps settings q.key ++ stringSteps settings q.value ++
        [.write (.of .properties
          [settings.stringId q.path, settings.stringId q.key, settings.stringId q.value])] := by
  simp [property, Encoding.ofSteps]

theorem steps_methodHeader (settings : EncoderSettings) (m : MethodDecl) :
    (methodHeader settings m).steps =
      (Step.mention m.returnType :: m.params.map Step.mention ++
        [signatureStep settings m.signature, Step.write (methodRow settings m)]) ++
      m.modifiers.map (fun modifier =>
        Step.write (.of .methodModifier [modifier.name, m.id settings])) ++
      (if m.isStatic then [] else
        [Step.declare (thisId (m.id settings)) (.named m.declaringClass) (m.id settings),
          Step.write (.of .thisVar [m.id settings, thisId (m.id settings)])]) ++
      (m.params.zipIdx.flatMap fun e => paramSteps (m.id settings) e.2 e.1) ++
      (m.declaredExceptions.flatMap fun exception =>
        [Step.mention exception,
          Step.write (.of .methodDeclException [exception.name, m.id settings])]) ++
      (if m.isNative then
        [Step.declare (nativeReturnId (m.id settings)) m.returnType (m.id settings),
          Step.write (.of .nativeReturnVar [nativeReturnId (m.id settings), m.id settings])]
      else []) := by
  simp only [methodHeader, Plan.steps_append, Plan.steps_flatMap, flatMap_formalParam]
  cases m.isStatic <;> cases m.isNative <;>
    simp [method, methodModifier, receiver, declaredException, nativeReturn, Encoding.ofSteps,
      List.map_eq_flatMap]

end Encoding

end ProgramFacts
