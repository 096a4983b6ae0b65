import ProgramFacts.Proofs.Calls
import ProgramFacts.Proofs.FailingRun

/-!
# What a failed call leaves behind

A call that encodes one thing mentions types and declares variables before it writes rows of its
own, and writing these never fails.  Where such a call fails, at most the rows of types and
variables stay behind; and a call whose arguments are refused leaves the encoder as it was.
-/

namespace ProgramFacts

/-! ## Steps that can fail -/

namespace Step

/-- The relations that the rows of a step belong to. -/
def relations : Step → List Relation
  | write f => [f.relation]
  | mention _ => [.arrayType, .componentType]
  | declare .. => [.arrayType, .componentType, .varType, .varDeclaringMethod]
  | draw _ => []
  | refuse _ => []

/-- Whether a step is of a kind that can fail. -/
def canFail : Step → Bool
  | write _ => false
  | draw _ => false
  | _ => true

theorem relation_mem_of_mem_rowsUnder
    {final : RecordedTypes} {s : Step} {f : Fact} (hf : f ∈ s.rowsUnder final) :
    f.relation ∈ s.relations := by
  cases s with
  | write g =>
      obtain rfl : f = g := List.mem_singleton.mp hf
      exact List.mem_singleton_self _
  | mention type => simpa [relations] using relation_of_mem_arrayRows hf
  | declare var type method =>
      rcases mem_variableRows.mp hf with hf | rfl | rfl
      · rcases relation_of_mem_arrayRows hf with h | h <;> simp [relations, h]
      · simp [relations, Fact.of]
      · simp [relations, Fact.of]
  | draw basename => exact absurd hf List.not_mem_nil
  | refuse error => exact absurd hf List.not_mem_nil

theorem canFail_of_failure_run
    {types : RecordedTypes} {s : Step} {e : EncodeError} (h : (s.run types).failure = some e) :
    s.canFail = true := by
  cases s with
  | write f => cases h
  | draw basename => cases h
  | _ => rfl

end Step

namespace Plan

/-- If the steps before any that can fail write to given relations only, then a run that fails has
written to these relations only. -/
theorem relation_mem_of_failure_run
    {types : RecordedTypes} {p : Plan} {allowed : List Relation} {e : EncodeError}
    (hsteps : p.steps.Pairwise fun s later => later.canFail = true → s.relations ⊆ allowed)
    (h : (Plan.run types p).failure = some e) :
    ∀ f ∈ (Plan.run types p).rows, f.relation ∈ allowed := by
  obtain ⟨before, t, after, rfl, hbefore, hfails, hrows⟩ := exists_failing_task h
  obtain ⟨cause, hcause, -⟩ := Task.exists_cause_of_failure_run hfails
  intro f hf
  rw [hrows, rows_run_of_success hbefore] at hf
  obtain ⟨s, hs, hf⟩ := List.mem_flatMap.mp hf
  -- the step that failed stands after every step that has written rows
  rw [steps_append, steps_cons, List.pairwise_append] at hsteps
  have hallowed := hsteps.2.2 s hs t.step List.mem_cons_self (Step.canFail_of_failure_run hcause)
  exact hallowed (Step.relation_mem_of_mem_rowsUnder hf)

/-- If no step comes before one that refuses, then a run that fails because of a refusal has done
nothing. -/
theorem run_of_refusal
    {types : RecordedTypes} {p : Plan} {e : EncodeError}
    (hsteps : p.steps.Pairwise fun _ later => ∀ error, later ≠ .refuse error)
    (hcause : ∀ typeName, e.rootCause ≠ .invalidTypeKind typeName)
    (h : (Plan.run types p).failure = some e) :
    (Plan.run types p).rows = [] ∧ (Plan.run types p).types = types := by
  obtain ⟨before, t, after, rfl, hbefore, hfails, hrows⟩ := exists_failing_task h
  obtain ⟨cause, hfailure, hroot⟩ := Task.exists_cause_of_failure_run hfails
  rcases Step.eq_refuse_of_failure_run hfailure with ⟨typeName, rfl⟩ | hrefuse
  · exact absurd hroot.symm (hcause typeName)
  · cases before with
    | nil =>
        have hfirst : (t.run types).failure = some e := hfails
        refine ⟨hrows, ?_⟩
        rw [List.nil_append, run_cons_of_failure hfirst, Task.types_run, hrefuse]
        rfl
    | cons first rest =>
        rw [List.cons_append, steps_cons, List.pairwise_cons] at hsteps
        have hmem : t.step ∈ Plan.steps (rest ++ t :: after) := by simp
        exact absurd hrefuse (hsteps.1 t.step hmem cause)

end Plan

/-! ## Calls -/

namespace Call

/-- Whether a call encodes one thing, not a whole method, class or program. -/
def isSingle : Call → Bool
  | wholeMethod _ => false
  | wholeClass _ => false
  | wholeProgram _ => false
  | _ => true

/-- The relations that a call can leave rows in if it fails. -/
def leftovers : Call → List Relation
  | method _ => [.arrayType, .componentType]
  | classAssignment .. => [.arrayType, .componentType]
  | handleAssignment .. => [.arrayType, .componentType, .varType, .varDeclaringMethod]
  | binaryOperation .. => [.arrayType, .componentType, .varType, .varDeclaringMethod]
  | instruction .. => [.arrayType, .componentType, .varType, .varDeclaringMethod]
  | wholeMethod _ => Relation.all
  | wholeClass _ => Relation.all
  | wholeProgram _ => Relation.all
  | _ => []

theorem pairwise_instruction
    (settings : EncoderSettings) (n : Numbering) (m : MethodDecl) (i : Instruction) :
    (Encoding.instruction settings n m i).steps.Pairwise fun s later =>
      (later.canFail = true →
        s.relations ⊆ [.arrayType, .componentType, .varType, .varDeclaringMethod]) ∧
      ∀ error, later ≠ .refuse error := by
  unfold Encoding.instruction
  cases i.operation with
  | constant dest value =>
      cases value with
      | classLiteral literal =>
          cases htype : Encoding.literalType? literal <;>
            simp [Encoding.classAssignment, htype, Encoding.localStep, Encoding.ofSteps,
              Step.canFail, Step.relations]
      | _ =>
          simp [Encoding.stringAssignment, Encoding.stringSteps, Encoding.nullAssignment,
            Encoding.numericAssignment, Encoding.handleAssignment, Encoding.localStep,
            Encoding.ofSteps, Step.canFail, Step.relations]
  | _ =>
      simp [Encoding.binaryOperation, Encoding.returnValue, Encoding.returnVoid,
        Encoding.unsupportedInstruction, Encoding.localStep, Encoding.ofSteps, Step.canFail,
        Step.relations]

/-- The steps of a call that come before one that can fail write to the relations of its leftovers
only, and nothing comes before the refusal of a call's arguments. -/
theorem pairwise_steps (settings : EncoderSettings) {c : Call} (h : c.isSingle = true) :
    (c.plan settings).steps.Pairwise fun s later =>
      (later.canFail = true → s.relations ⊆ c.leftovers) ∧ ∀ error, later ≠ .refuse error := by
  cases c with
  | method m =>
      have hsteps : ((method m).plan settings).steps =
          (m.returnType :: m.params).map Step.mention ++
            [Encoding.signatureStep settings m.signature,
              .write (Encoding.methodRow settings m)] := by
        simp [plan, encoding, Encoding.map, Encoding.method, Encoding.ofSteps]
      rw [hsteps, List.pairwise_append, List.pairwise_map]
      refine ⟨List.pairwise_of_forall ?_, ?_, ?_⟩
      · simp [Step.relations, leftovers]
      · simp [Encoding.signatureStep, Step.canFail]
      · simp [Encoding.signatureStep, Step.canFail]
  | classOrInterface c =>
      simp [plan, encoding, Encoding.map, Encoding.classOrInterface, Encoding.ofSteps,
        Step.canFail]
  | classAssignment m i dest literal =>
      cases htype : Encoding.literalType? literal <;>
        simp [plan, encoding, Encoding.map, Encoding.classAssignment, htype, Encoding.localStep,
          Encoding.ofSteps, Step.canFail, Step.relations, leftovers]
  | formalParam m index =>
      cases hparam : m.params[index]? <;>
        simp [plan, encoding, Encoding.map, Encoding.formalParam, hparam,
          Encoding.paramSteps, Encoding.ofSteps, Step.canFail]
  | instruction numbering m i => exact pairwise_instruction settings numbering m i
  | wholeMethod m => cases h
  | wholeClass c => cases h
  | wholeProgram p => cases h
  | _ =>
      simp [plan, encoding, Encoding.map, Encoding.stringConstant, Encoding.stringSteps,
        Encoding.signature, Encoding.signatureStep, Encoding.typeId, Encoding.classTypeId,
        Encoding.field, Encoding.superclass, Encoding.superinterface, Encoding.fieldModifier,
        Encoding.classModifier, Encoding.methodModifier, Encoding.applicationClass,
        Encoding.classArtifact, Encoding.property, Encoding.localVariable, Encoding.variableIn,
        Encoding.localStep, Encoding.stringAssignment, Encoding.nullAssignment,
        Encoding.numericAssignment, Encoding.handleAssignment, Encoding.binaryOperation,
        Encoding.returnValue, Encoding.returnVoid, Encoding.nativeReturn, Encoding.receiver,
        Encoding.declaredException, Encoding.unsupportedInstruction, Encoding.ofSteps, Step.canFail,
        Step.relations, leftovers]

/-- A single call leaves rows about types and variables at most. -/
theorem isAboutTypes_of_mem_leftovers
    {c : Call} (h : c.isSingle = true) {r : Relation} (hr : r ∈ c.leftovers) :
    r.isAboutTypes = true := by
  revert r
  cases c with
  | wholeMethod m => cases h
  | wholeClass c => cases h
  | wholeProgram p => cases h
  | _ =>
      simp only [leftovers]
      decide

end Call

namespace Encoder

/-- If a call that encodes one thing fails, whatever was encoded before, then the rows that it
appends are about types and variables.  Which of these it can leave depends on what is encoded:
after a method only levels of array types stay behind, and nothing after a field, a declared
exception or a single variable.  A class literal that denotes no class and a parameter that the
method does not have leave the encoder as it was. -/
theorem leftovers_of_error
    {e : Encoder} {c : Call} (hsingle : c.isSingle = true) {error : EncodeError}
    (h : (e.call c).result = .error error) :
    (∃ appended,
      (e.call c).encoder.store.accepted.toList = e.store.accepted.toList ++ appended ∧
      ∀ f ∈ appended, f.relation.isAboutTypes = true ∧ f.relation ∈ c.leftovers) ∧
    ((∃ literal instruction, error = .unsupportedClassConstantSyntax literal instruction) ∨
        (∃ method index arity, error = .parameterOutOfRange method index arity) →
      (e.call c).encoder = e) := by
  have hfailure : (Plan.run e.types (c.plan e.settings)).failure = some error :=
    (result_perform_eq_error_iff _ _ _).mp h
  have hsteps := c.pairwise_steps e.settings hsingle
  constructor
  · have hleft := Plan.relation_mem_of_failure_run (hsteps.imp And.left) hfailure
    refine ⟨_, accepted_call e c, ?_⟩
    intro f hf
    exact ⟨Call.isAboutTypes_of_mem_leftovers hsingle (hleft f hf), hleft f hf⟩
  · intro herror
    have hcause : ∀ typeName, error.rootCause ≠ .invalidTypeKind typeName := by
      intro typeName
      rcases herror with ⟨literal, instruction, rfl⟩ | ⟨method, index, arity, rfl⟩
      · simp [EncodeError.rootCause]
      · simp [EncodeError.rootCause]
    obtain ⟨hrows, htypes⟩ := Plan.run_of_refusal (hsteps.imp And.right) hcause hfailure
    have hencoder : (e.call c).encoder =
        { e with
          store := e.store.addAll (Plan.run e.types (c.plan e.settings)).rows
          types := (Plan.run e.types (c.plan e.settings)).types } := rfl
    rw [hencoder, hrows, htypes]
    rfl

end Encoder

/-- A static method without parameters. -/
def operandMethod : MethodDecl where
  declaringClass := "A"
  name := "m"
  params := []
  returnType := .primitive .void
  modifiers := [.static]
  declaredExceptions := []
  body := []

/-- The first operand of an operation has an unresolved type, and the variable before it holds an
array; and a class literal that is refused. -/
theorem Encoder.leftovers_of_error_operandMethod :
    let e := fresh .standard true
    let x : Local := ⟨"x", .array (.primitive .int)⟩
    let y : Local := ⟨"y", .unresolved "T"⟩
    let c := Call.binaryOperation operandMethod ⟨0, none, .binary x .add y y⟩ x .add y y
    let i' : Instruction := ⟨1, none, .constant x (.classLiteral "int")⟩
    let c' := Call.classAssignment operandMethod i' x "int"
    let place := "<A: void m()>/assign-class/instruction1"
    c.isSingle = true ∧ c'.isSingle = true ∧
    (e.call c).result = .error (.invalidTypeKind "?T") ∧
    (e.call c').result = .error (.unsupportedClassConstantSyntax "int" place) ∧
    (e.call c).run.rows.map Fact.relation =
      [.arrayType, .componentType, .varType, .varDeclaringMethod] ∧
    (∃ appended,
      (e.call c).encoder.store.accepted.toList = e.store.accepted.toList ++ appended ∧
      ∀ f ∈ appended, f.relation.isAboutTypes = true ∧ f.relation ∈ c.leftovers) ∧
    (e.call c').encoder = e := by
  intro e x y c i' c' place
  have h : (e.call c).result = .error (.invalidTypeKind "?T") := by decide +kernel
  have h' : (e.call c').result = .error (.unsupportedClassConstantSyntax "int" place) := by
    decide +kernel
  have hrows : (e.call c).run.rows.map Fact.relation =
      [.arrayType, .componentType, .varType, .varDeclaringMethod] := by
    decide +kernel
  exact ⟨rfl, rfl, h, h', hrows, (leftovers_of_error rfl h).1,
    (leftovers_of_error rfl h').2 (Or.inl ⟨_, _, rfl⟩)⟩

end ProgramFacts
