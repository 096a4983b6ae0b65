import ProgramFacts.Proofs.Calls
import ProgramFacts.Proofs.Descriptor
import ProgramFacts.Proofs.Parts

/-!
# Programs that can be encoded

Encoding a program succeeds exactly if the types that it declares are resolved, its class literals
are descriptors of classes or arrays, and the type that it supplies first for each variable is
resolved.  An unresolved type that is supplied for a variable later does no harm.
-/

namespace ProgramFacts

/-! ## The types that a program supplies -/

/-- The variables that an instruction of a method mentions, in order, with the types it supplies for
them; `number` method handles precede it in the body. -/
def Instruction.supplied (method : String) (number : Nat) (i : Instruction) :
    List (String × TypeRef) :=
  let entry (l : Local) : String × TypeRef := (method ++ "/" ++ l.name, l.type)
  match i.operation with
  | .constant dest (.methodHandle _) =>
    [entry dest,
      entry ⟨"$mhandleconstant" ++ number.repr, .named "java.lang.invoke.MethodHandle"⟩]
  | .constant dest _ => [entry dest]
  | .binary dest _ lhs rhs => [entry dest, entry lhs, entry rhs]
  | .returnValue value => [entry value]
  | .returnVoid => []
  | .unsupported _ => []

/-- The implicit variables of a method, in order, with their types. -/
def MethodDecl.suppliedImplicitly (settings : EncoderSettings) (m : MethodDecl) :
    List (String × TypeRef) :=
  let method := m.id settings
  (if m.isStatic then [] else [(method ++ "/@this", .named m.declaringClass)]) ++
  m.params.zipIdx.map (fun e => (method ++ "/@parameter" ++ e.2.repr, e.1)) ++
  (if m.isNative then [(method ++ "/@native-return", m.returnType)] else [])

/-- The variables of a method, in the order in which it mentions them, with the types it supplies
for them. -/
def MethodDecl.supplied (settings : EncoderSettings) (m : MethodDecl) : List (String × TypeRef) :=
  m.suppliedImplicitly settings ++
    m.numberedBody.flatMap fun e => e.2.supplied (m.id settings) e.1

/-- The variables of a program, in the order in which it mentions them, with the types it supplies
for them. -/
def Program.supplied (settings : EncoderSettings) (p : Program) : List (String × TypeRef) :=
  p.methods.flatMap (MethodDecl.supplied settings)

/-- Whether the class literal of an instruction, if it has one, is the descriptor of a class or
array. -/
def Instruction.HasAcceptedLiteral (i : Instruction) : Prop :=
  ∀ dest literal, i.operation = .constant dest (.classLiteral literal) →
    ∃ type, TypeRef.ofDescriptor? literal = some type ∧ ∀ p, type ≠ .primitive p

/-- The condition under which a program can be encoded. -/
structure Program.Encodable (settings : EncoderSettings) (p : Program) : Prop where
  fields : ∀ c ∈ p.classes, ∀ f ∈ c.fields, f.type.isResolved = true
  returnTypes : ∀ m ∈ p.methods, m.returnType.isResolved = true
  params : ∀ m ∈ p.methods, ∀ type ∈ m.params, type.isResolved = true
  exceptions : ∀ m ∈ p.methods, ∀ type ∈ m.declaredExceptions, type.isResolved = true
  literals : ∀ m ∈ p.methods, ∀ i ∈ m.body, i.HasAcceptedLiteral
  /-- The type that is supplied first for a variable is resolved. -/
  firstTypes : ∀ var type, (p.supplied settings).lookup var = some type → type.isResolved = true

/-! ## Registrations of the parts -/

namespace Encoding

theorem flatMap_const_nil {α β : Type} (items : List α) :
    (items.flatMap fun _ => ([] : List β)) = [] :=
  List.flatMap_eq_nil_iff.mpr fun _ _ => rfl

theorem registrations_classHeader (c : ClassDecl) :
    Step.registrations (classHeader c).steps = [] := by
  rw [steps_classHeader]
  cases c.application <;> simp [List.map_eq_flatMap]

theorem registrations_wholeField (c : ClassDecl) (f : FieldDecl) :
    Step.registrations (wholeField c f).steps = [] := by
  simp [steps_wholeField, List.map_eq_flatMap]

theorem registrations_property (settings : EncoderSettings) (q : Property) :
    Step.registrations (property settings q).plan.steps = [] := by
  simp [steps_property, stringSteps]

theorem registrations_methodHeader (settings : EncoderSettings) (m : MethodDecl) :
    Step.registrations (methodHeader settings m).steps = m.suppliedImplicitly settings := by
  rw [steps_methodHeader, MethodDecl.suppliedImplicitly]
  cases m.isStatic <;> cases m.isNative <;>
    simp [signatureStep, paramSteps, thisId, paramId, nativeReturnId, List.map_eq_flatMap,
      flatMap_const_nil]

theorem registrations_instruction
    (settings : EncoderSettings) (m : MethodDecl) (number : Nat)
    {i : Instruction} (hliteral : i.HasAcceptedLiteral) :
    Step.registrations (instruction settings (.ofHandles number) m i).steps =
      i.supplied (m.id settings) number := by
  unfold instruction Instruction.supplied
  cases hop : i.operation with
  | constant dest value =>
      cases value with
      | classLiteral literal =>
          obtain ⟨type, htype, hprimitive⟩ := hliteral dest literal hop
          have hsome := literalType?_eq_some_iff.mpr ⟨htype, hprimitive⟩
          simp only [classAssignment, hsome, Encoding.ofSteps, Plan.steps_ofSteps]
          rfl
      | methodHandle handle =>
          simp only [handleAssignment, Encoding.ofSteps, Plan.steps_ofSteps,
            Numbering.next_ofHandles]
          rfl
      | _ => rfl
  | _ => rfl

theorem registrations_wholeMethod
    (settings : EncoderSettings) {m : MethodDecl} (hliterals : ∀ i ∈ m.body, i.HasAcceptedLiteral) :
    Step.registrations (wholeMethod settings m).plan.steps = m.supplied settings := by
  have hbody : (m.numberedBody.flatMap fun e =>
      Step.registrations (instruction settings (.ofHandles e.1) m e.2).steps) =
        m.numberedBody.flatMap fun e => e.2.supplied (m.id settings) e.1 := by
    apply List.flatMap_congr
    intro e he
    have hbody : e.2 ∈ m.body := MethodDecl.mem_body_iff.mpr ⟨e.1, he⟩
    exact registrations_instruction settings m e.1 (hliterals e.2 hbody)
  rw [plan_wholeMethod, Plan.steps_append, Plan.steps_flatMap, Step.registrations_append,
    Step.registrations_flatMap, registrations_methodHeader, hbody, MethodDecl.supplied]

/-- The steps of a program register the variables that it mentions, with the types it supplies. -/
theorem registrations_wholeProgram
    (settings : EncoderSettings) {p : Program}
    (hliterals : ∀ m ∈ p.methods, ∀ i ∈ m.body, i.HasAcceptedLiteral) :
    Step.registrations (wholeProgram settings p).plan.steps = p.supplied settings := by
  have hmethods :
      (p.methods.flatMap fun m => Step.registrations (wholeMethod settings m).plan.steps) =
        p.supplied settings := by
    apply List.flatMap_congr
    intro m hm
    exact registrations_wholeMethod settings (hliterals m hm)
  rw [← hmethods, Program.methods, List.flatMap_assoc]
  simp [wholeProgram, programClass, wholeClass, registrations_classHeader,
    registrations_wholeField, registrations_property, flatMap_const_nil]

end Encoding

/-! ## Steps that can pass -/

/-- Whether a step can succeed, whatever types are recorded for variables. -/
def Step.CanPass : Step → Prop
  | mention type => type.isResolved = true
  | refuse _ => False
  | _ => True

theorem Step.forall_passes_iff {final : RecordedTypes} {list : List Step} :
    (∀ s ∈ list, s.Passes final) ↔
      (∀ s ∈ list, s.CanPass) ∧
        ∀ e ∈ registrations list,
          ∃ recorded, final.get? e.1 = some recorded ∧ recorded.isResolved = true := by
  induction list with
  | nil => simp
  | cons s rest ih =>
      rw [List.forall_mem_cons, List.forall_mem_cons, ih]
      cases s with
      | declare var type method =>
          rw [registrations_declare, List.forall_mem_cons]
          simp only [Passes, CanPass, true_and]
          exact and_left_comm
      | _ => simp [Passes, CanPass, and_assoc]

/-- A plan runs to its end from the beginning exactly if its steps can pass and the type that is
given first for each variable is resolved. -/
theorem Plan.failure_run_empty_eq_none_iff (p : Plan) :
    (Plan.run .empty p).failure = none ↔
      (∀ s ∈ p.steps, s.CanPass) ∧
        ∀ var type, (Step.registrations p.steps).lookup var = some type →
          type.isResolved = true := by
  have hget : ∀ var, (RecordedTypes.empty.recordAll (Step.registrations p.steps)).get? var =
      (Step.registrations p.steps).lookup var := by
    intro var
    rw [RecordedTypes.get?_recordAll]
    exact Option.none_or
  rw [failure_run_eq_none_iff, Step.forall_passes_iff]
  simp only [hget]
  refine and_congr_right fun _ => ⟨?_, ?_⟩
  · intro h var type hlookup
    obtain ⟨before, after, hlist, -⟩ := List.lookup_eq_some_iff.mp hlookup
    obtain ⟨recorded, hrecorded, hresolved⟩ := h (var, type) (by simp [hlist])
    rw [hlookup] at hrecorded
    cases hrecorded
    exact hresolved
  · rintro h ⟨var, type⟩ hmem
    cases hlookup : (Step.registrations p.steps).lookup var with
    | none => simpa using List.lookup_eq_none_iff.mp hlookup _ hmem
    | some recorded => exact ⟨recorded, rfl, h var recorded hlookup⟩

namespace Encoding

theorem canPass_classHeader (c : ClassDecl) : ∀ s ∈ (classHeader c).steps, s.CanPass := by
  simp only [steps_classHeader, List.forall_mem_append, List.forall_mem_flatMap]
  cases c.application <;> simp [Step.CanPass]

theorem canPass_wholeField_iff (c : ClassDecl) (f : FieldDecl) :
    (∀ s ∈ (wholeField c f).steps, s.CanPass) ↔ f.type.isResolved = true := by
  simp [steps_wholeField, Step.CanPass]

theorem canPass_property (settings : EncoderSettings) (q : Property) :
    ∀ s ∈ (property settings q).plan.steps, s.CanPass := by
  simp [steps_property, stringSteps, Step.CanPass]

theorem canPass_methodHeader_iff (settings : EncoderSettings) (m : MethodDecl) :
    (∀ s ∈ (methodHeader settings m).steps, s.CanPass) ↔
      m.returnType.isResolved = true ∧ (∀ type ∈ m.params, type.isResolved = true) ∧
        ∀ type ∈ m.declaredExceptions, type.isResolved = true := by
  simp only [steps_methodHeader, List.forall_mem_append, List.forall_mem_flatMap]
  cases m.isStatic <;> cases m.isNative <;>
    simp [signatureStep, paramSteps, Step.CanPass, and_assoc]

theorem canPass_instruction_iff
    (settings : EncoderSettings) (m : MethodDecl) (n : Numbering) (i : Instruction) :
    (∀ s ∈ (instruction settings n m i).steps, s.CanPass) ↔ i.HasAcceptedLiteral := by
  unfold instruction Instruction.HasAcceptedLiteral
  cases hop : i.operation with
  | constant dest value =>
      cases value with
      | classLiteral literal =>
          cases htype : literalType? literal with
          | none =>
              have hno : ¬ ∃ type, TypeRef.ofDescriptor? literal = some type ∧
                  ∀ p, type ≠ .primitive p := by
                rintro ⟨type, haccepted⟩
                rw [literalType?_eq_some_iff.mpr haccepted] at htype
                cases htype
              simpa [classAssignment, htype, Encoding.ofSteps, Step.CanPass] using hno
          | some type =>
              have haccepted := literalType?_eq_some_iff.mp htype
              have hresolved := TypeRef.isResolved_of_ofDescriptor? haccepted.1
              simpa [classAssignment, htype, localStep, Encoding.ofSteps, Step.CanPass, hresolved]
                using ⟨type, haccepted⟩
      | string s => simp [stringAssignment, stringSteps, localStep, Encoding.ofSteps, Step.CanPass]
      | null => simp [nullAssignment, localStep, Encoding.ofSteps, Step.CanPass]
      | numeric text => simp [numericAssignment, localStep, Encoding.ofSteps, Step.CanPass]
      | methodHandle handle => simp [handleAssignment, localStep, Encoding.ofSteps, Step.CanPass]
  | binary dest operator lhs rhs =>
      simp [binaryOperation, localStep, Encoding.ofSteps, Step.CanPass]
  | returnValue value => simp [returnValue, localStep, Encoding.ofSteps, Step.CanPass]
  | returnVoid => simp [returnVoid, Encoding.ofSteps, Step.CanPass]
  | unsupported opcode => simp [unsupportedInstruction, Encoding.ofSteps, Step.CanPass]

/-- The steps of a program can pass exactly if the types it declares are resolved and its class
literals are accepted. -/
theorem canPass_wholeProgram_iff (settings : EncoderSettings) (p : Program) :
    (∀ s ∈ (wholeProgram settings p).plan.steps, s.CanPass) ↔
      (∀ c ∈ p.classes, ∀ f ∈ c.fields, f.type.isResolved = true) ∧
        ∀ m ∈ p.methods, (m.returnType.isResolved = true ∧
          (∀ type ∈ m.params, type.isResolved = true) ∧
          ∀ type ∈ m.declaredExceptions, type.isResolved = true) ∧
          ∀ i ∈ m.body, i.HasAcceptedLiteral := by
  have hbody : ∀ m : MethodDecl,
      (∀ e ∈ m.numberedBody, e.2.HasAcceptedLiteral) ↔ ∀ i ∈ m.body, i.HasAcceptedLiteral := by
    intro m
    constructor
    · intro h i hi
      obtain ⟨k, hk⟩ := MethodDecl.mem_body_iff.mp hi
      exact h _ hk
    · rintro h ⟨k, i⟩ he
      exact h i (MethodDecl.mem_body_iff.mpr ⟨k, he⟩)
  simp only [wholeProgram, programClass, wholeClass, plan_wholeMethod, Plan.steps_append,
    Plan.steps_flatMap, Plan.steps_within, List.forall_mem_append, List.forall_mem_flatMap,
    canPass_wholeField_iff, canPass_methodHeader_iff, canPass_instruction_iff, hbody,
    Program.methods]
  constructor
  · rintro ⟨h, -⟩
    exact ⟨fun c hc => (h c hc).1.2, fun c hc => (h c hc).2⟩
  · rintro ⟨hfields, hmethods⟩
    exact ⟨fun c hc => ⟨⟨canPass_classHeader c, hfields c hc⟩, hmethods c hc⟩,
      fun q _ => canPass_property settings q⟩

end Encoding

/-! ## Encoded programs -/

/-- A program is encoded with success on a fresh encoder exactly if it meets the condition. -/
theorem generate_eq_ok_iff_encodable
    (settings : EncoderSettings) (journaled : Bool) (p : Program) :
    (∃ statistics, ((Encoder.fresh settings journaled).generate p).result = .ok statistics) ↔
      p.Encodable settings := by
  have hsuccess :
      (∃ statistics, ((Encoder.fresh settings journaled).generate p).result = .ok statistics) ↔
        (Plan.run .empty (Encoding.wholeProgram settings p).plan).failure = none := by
    constructor
    · rintro ⟨statistics, h⟩
      exact Encoder.failure_run_of_generate_fresh h
    · intro h
      exact ⟨_, (Encoder.result_perform_eq_ok_iff _ _ _).mpr ⟨h, rfl⟩⟩
  rw [hsuccess, Plan.failure_run_empty_eq_none_iff, Encoding.canPass_wholeProgram_iff]
  constructor
  · rintro ⟨⟨hfields, hmethods⟩, hfirst⟩
    rw [Encoding.registrations_wholeProgram settings fun m hm => (hmethods m hm).2] at hfirst
    exact
      { fields := hfields
        returnTypes := fun m hm => (hmethods m hm).1.1
        params := fun m hm => (hmethods m hm).1.2.1
        exceptions := fun m hm => (hmethods m hm).1.2.2
        literals := fun m hm => (hmethods m hm).2
        firstTypes := hfirst }
  · intro h
    rw [Encoding.registrations_wholeProgram settings h.literals]
    refine ⟨⟨h.fields, ?_⟩, h.firstTypes⟩
    intro m hm
    exact ⟨⟨h.returnTypes m hm, h.params m hm, h.exceptions m hm⟩, h.literals m hm⟩

end ProgramFacts
