import ProgramFacts.Proofs.Encodable
import ProgramFacts.Proofs.FailingRun
import ProgramFacts.Proofs.Rerun
import ProgramFacts.Proofs.WrittenRelations

/-!
# Programs that fail

When the encoding of a program fails, the error names the first class that fails and, in it, the
first field that fails, or else the first method that fails; the cause is an unresolved type or a
class literal that is none.  What has been written is what the classes before write, and then what
the class writes when it is cut off after the field, declaration or instruction that failed.
-/

namespace ProgramFacts

/-! ## Causes -/

namespace EncodeError

/-- Whether an error is a cause for which the encoding of a program can stop. -/
def IsCause : EncodeError → Prop
  | invalidTypeKind _ => True
  | unsupportedClassConstantSyntax _ _ => True
  | _ => False

theorem IsCause.within {e : EncodeError} (h : e.IsCause) (unit : String) :
    e.within unit = .inUnit unit e := by
  cases e with
  | inUnit outer source => cases h
  | _ => rfl

end EncodeError

namespace Encoding

/-! ## The error of a method -/

theorem units_ofSteps (steps : List Step) : ∀ t ∈ Plan.ofSteps steps, t.units = [] := by
  simp [Plan.ofSteps]

theorem units_instruction
    (settings : EncoderSettings) (n : Numbering) (m : MethodDecl) (i : Instruction) :
    ∀ t ∈ instruction settings n m i, t.units = [] := by
  unfold instruction
  cases i.operation with
  | constant dest value =>
      cases value with
      | classLiteral literal =>
          simp only [classAssignment]
          split <;> exact units_ofSteps _
      | _ => exact units_ofSteps _
  | _ => exact units_ofSteps _

theorem units_methodHeader (settings : EncoderSettings) (m : MethodDecl) :
    ∀ t ∈ methodHeader settings m, t.units = [] := by
  have hparam : ∀ index, ∀ t ∈ (formalParam settings m index).plan, t.units = [] := by
    intro index
    simp only [formalParam]
    split <;> exact units_ofSteps _
  simp only [methodHeader, List.forall_mem_append, List.forall_mem_flatMap]
  refine ⟨⟨⟨⟨⟨units_ofSteps _, fun _ _ => units_ofSteps _⟩, ?_⟩, fun index _ => hparam index⟩,
    fun _ _ => units_ofSteps _⟩, ?_⟩
  · split
    · simp
    · exact units_ofSteps _
  · split
    · exact units_ofSteps _
    · simp

/-- The declaration of a method refuses nothing; the index of each parameter is in range. -/
theorem refuse_not_mem_methodHeader
    (settings : EncoderSettings) (m : MethodDecl) (e : EncodeError) :
    Step.refuse e ∉ (methodHeader settings m).steps := by
  rw [steps_methodHeader]
  cases m.isStatic <;> cases m.isNative <;> simp [signatureStep, paramSteps]

theorem isCause_of_refuse_mem_instruction
    {settings : EncoderSettings} {n : Numbering} {m : MethodDecl} {i : Instruction}
    {e : EncodeError} (h : Step.refuse e ∈ (instruction settings n m i).steps) : e.IsCause := by
  unfold instruction at h
  cases hop : i.operation with
  | constant dest value =>
      cases value with
      | classLiteral literal =>
          cases htype : literalType? literal with
          | none =>
              obtain rfl : e = .unsupportedClassConstantSyntax literal (i.id (m.id settings)) := by
                simpa [hop, classAssignment, htype, Encoding.ofSteps] using h
              trivial
          | some type => simp [hop, classAssignment, htype, localStep, Encoding.ofSteps] at h
      | _ =>
          simp [hop, stringAssignment, stringSteps, nullAssignment, numericAssignment,
            handleAssignment, localStep, Encoding.ofSteps] at h
  | _ =>
      simp [hop, binaryOperation, returnValue, returnVoid, unsupportedInstruction, localStep,
        Encoding.ofSteps] at h

theorem isCause_of_failure_wholeMethod
    {settings : EncoderSettings} {m : MethodDecl} {types : RecordedTypes} {e : EncodeError}
    (h : (Plan.run types (wholeMethod settings m).plan).failure = some e) : e.IsCause := by
  rw [plan_wholeMethod] at h
  have hunits : ∀ t ∈ methodHeader settings m ++
      m.numberedBody.flatMap (fun e => instruction settings (.ofHandles e.1) m e.2),
      t.units = [] := by
    rw [List.forall_mem_append, List.forall_mem_flatMap]
    exact ⟨units_methodHeader settings m, fun e _ => units_instruction settings _ m e.2⟩
  obtain ⟨s, hs, types', hfailure⟩ := Plan.exists_failing_step hunits h
  rcases Step.eq_refuse_of_failure_run hfailure with ⟨typeName, rfl⟩ | rfl
  · trivial
  · rw [Plan.steps_append, Plan.steps_flatMap, List.mem_append, List.mem_flatMap] at hs
    rcases hs with hs | ⟨e, -, hs⟩
    · exact absurd hs (refuse_not_mem_methodHeader settings m _)
    · exact isCause_of_refuse_mem_instruction hs

/-! ## Methods with another body -/

theorem body_of_other_body
    (settings : EncoderSettings) (m : MethodDecl) (other : List Instruction)
    (n : Numbering) (instructions : List Instruction) :
    body settings { m with body := other } n instructions = body settings m n instructions := by
  induction instructions generalizing n with
  | nil => rfl
  | cons i rest ih =>
      have hfirst : instruction settings n { m with body := other } i =
          instruction settings n m i := rfl
      rw [body, body, hfirst, ih]

theorem plan_wholeMethod_of_other_body
    (settings : EncoderSettings) (m : MethodDecl) (other : List Instruction) :
    (wholeMethod settings { m with body := other }).plan =
      methodHeader settings m ++ body settings m .empty other := by
  rw [← body_of_other_body settings m other]
  rfl

theorem body_prefix_append
    (settings : EncoderSettings) (m : MethodDecl) (n : Numbering)
    (first second : List Instruction) :
    body settings m n first <+: body settings m n (first ++ second) := by
  induction first generalizing n with
  | nil => exact List.nil_prefix
  | cons i first ih => exact (List.prefix_append_right_inj _).mpr (ih _)

/-- If a body fails after what precedes it, then in an instruction after those before it have
succeeded. -/
theorem exists_failing_instruction
    {settings : EncoderSettings} {m : MethodDecl} {n : Numbering} {types : RecordedTypes}
    {p : Plan} {instructions : List Instruction} {e : EncodeError}
    (hp : (Plan.run types p).failure = none)
    (h : (Plan.run types (p ++ body settings m n instructions)).failure = some e) :
    ∃ done i rest, instructions = done ++ i :: rest ∧
      (Plan.run types (p ++ body settings m n done)).failure = none ∧
      (Plan.run types (p ++ body settings m n (done ++ [i]))).failure = some e := by
  induction instructions generalizing p n with
  | nil => simp [body, hp] at h
  | cons i rest ih =>
      rw [body, ← List.append_assoc] at h
      cases hi : (Plan.run types (p ++ instruction settings n m i)).failure with
      | some e' =>
          rw [Plan.run_append_of_failure hi] at h
          exact ⟨[], i, rest, rfl, by simpa [body] using hp, by simpa [body] using h⟩
      | none =>
          obtain ⟨done, j, rest, rfl, hdone, hj⟩ := ih hi h
          refine ⟨i :: done, j, rest, rfl, ?_, ?_⟩
          · rw [body, ← List.append_assoc, hdone]
          · rw [List.cons_append, body, ← List.append_assoc, hj]

/-- If a method fails, then in its declaration, or in an instruction after those before it have
succeeded. -/
theorem exists_failing_body
    {settings : EncoderSettings} {m : MethodDecl} {types : RecordedTypes} {e : EncodeError}
    (h : (Plan.run types (wholeMethod settings m).plan).failure = some e) :
    (Plan.run types (wholeMethod settings { m with body := [] }).plan).failure = some e ∨
      ∃ done i rest, m.body = done ++ i :: rest ∧
        (Plan.run types (wholeMethod settings { m with body := done }).plan).failure = none ∧
        (Plan.run types (wholeMethod settings { m with body := done ++ [i] }).plan).failure =
          some e := by
  have hplan : (wholeMethod settings m).plan =
      methodHeader settings m ++ body settings m .empty m.body := rfl
  simp only [plan_wholeMethod_of_other_body]
  cases hheader : (Plan.run types (methodHeader settings m)).failure with
  | some e' =>
      rw [hplan, Plan.run_append_of_failure hheader] at h
      rw [body, List.append_nil]
      exact Or.inl h
  | none => exact Or.inr (exists_failing_instruction hheader h)

/-! ## Headers, properties and fields -/

/-- Steps that declare no variables and can pass do pass. -/
theorem failure_run_of_canPass
    {p : Plan} (hpass : ∀ s ∈ p.steps, s.CanPass) (hnone : Step.registrations p.steps = [])
    (types : RecordedTypes) :
    (Plan.run types p).failure = none := by
  rw [Plan.failure_run_eq_none_iff, Step.forall_passes_iff, hnone]
  exact ⟨hpass, by simp⟩

theorem failure_run_classHeader (types : RecordedTypes) (c : ClassDecl) :
    (Plan.run types (classHeader c)).failure = none :=
  failure_run_of_canPass (canPass_classHeader c) (registrations_classHeader c) types

theorem failure_run_properties
    (settings : EncoderSettings) (types : RecordedTypes) (properties : List Property) :
    (Plan.run types (properties.flatMap fun q => (property settings q).plan)).failure = none := by
  apply failure_run_of_canPass
  · rw [Plan.steps_flatMap, List.forall_mem_flatMap]
    exact fun q _ => canPass_property settings q
  · simp [registrations_property, flatMap_const_nil]

theorem error_of_failure_wholeField
    {types : RecordedTypes} {c : ClassDecl} {f : FieldDecl} {e : EncodeError}
    (h : (Plan.run types (wholeField c f)).failure = some e) :
    e = .inUnit ("field " ++ c.name ++ "." ++ f.name) f.type.kindError := by
  cases hresolved : f.type.isResolved with
  | true =>
      have hpass := (canPass_wholeField_iff c f).mpr hresolved
      rw [failure_run_of_canPass hpass (registrations_wholeField c f)] at h
      cases h
  | false =>
      have hfield : (Plan.run types (field f).plan).failure = some f.type.kindError := by
        simp [field, Encoding.ofSteps, Plan.ofSteps, Plan.run, Task.run, Step.run, hresolved,
          Run.failed, Run.andThen]
      rw [wholeField, Plan.failure_run_append, Plan.run_within, Run.within, hfield,
        Option.map_some, Option.some_or] at h
      cases h
      rfl

end Encoding

/-! ## Classes that are cut off -/

namespace ClassDecl

/-- A class up to some of its fields. -/
def upToFields (c : ClassDecl) (fields : List FieldDecl) : ClassDecl :=
  { c with fields := fields, methods := [] }

def upToMethods (c : ClassDecl) (methods : List MethodDecl) : ClassDecl :=
  { c with methods := methods }

/-- A class up to a part of the body of a method, which comes after some other methods. -/
def upToBody (c : ClassDecl) (methods : List MethodDecl) (m : MethodDecl)
    (body : List Instruction) : ClassDecl :=
  c.upToMethods (methods ++ [{ m with body := body }])

end ClassDecl

namespace Encoding

/-- The plan of a method as a member of its class. -/
def memberMethod (settings : EncoderSettings) (m : MethodDecl) : Plan :=
  Plan.within ("method " ++ m.id settings) (wholeMethod settings m).plan

theorem failure_run_memberMethod
    (settings : EncoderSettings) (m : MethodDecl) (types : RecordedTypes) :
    (Plan.run types (memberMethod settings m)).failure =
      (Plan.run types (wholeMethod settings m).plan).failure.map fun e =>
        e.within ("method " ++ m.id settings) := by
  rw [memberMethod, Plan.run_within, Run.within]

theorem plan_upToFields
    (settings : EncoderSettings) (c : ClassDecl) (fields : List FieldDecl) :
    (wholeClass settings (c.upToFields fields)).plan =
      classHeader c ++ fields.flatMap (wholeField c) :=
  List.append_nil _

theorem plan_upToMethods
    (settings : EncoderSettings) (c : ClassDecl) (methods : List MethodDecl) :
    (wholeClass settings (c.upToMethods methods)).plan =
      classHeader c ++ c.fields.flatMap (wholeField c) ++
        methods.flatMap (memberMethod settings) :=
  rfl

theorem plan_upToBody
    (settings : EncoderSettings) (c : ClassDecl) (methods : List MethodDecl) (m : MethodDecl)
    (body : List Instruction) :
    (wholeClass settings (c.upToBody methods m body)).plan =
      (wholeClass settings (c.upToMethods methods)).plan ++
        memberMethod settings { m with body := body } := by
  rw [ClassDecl.upToBody, plan_upToMethods, plan_upToMethods]
  simp

theorem prefix_upToFields
    {settings : EncoderSettings} {c : ClassDecl} {fields later : List FieldDecl}
    (hfields : c.fields = fields ++ later) :
    (wholeClass settings (c.upToFields fields)).plan <+: (wholeClass settings c).plan := by
  rw [plan_upToFields, wholeClass, hfields, List.flatMap_append, ← List.append_assoc,
    List.append_assoc _ (later.flatMap _)]
  exact List.prefix_append _ _

theorem prefix_upToBody
    {settings : EncoderSettings} {c : ClassDecl} {methods later : List MethodDecl}
    {m : MethodDecl} {done rest : List Instruction}
    (hmethods : c.methods = methods ++ m :: later) (hbody : m.body = done ++ rest) :
    (wholeClass settings (c.upToBody methods m done)).plan <+: (wholeClass settings c).plan := by
  have hmethod : (wholeMethod settings { m with body := done }).plan <+:
      (wholeMethod settings m).plan := by
    have hplan : (wholeMethod settings m).plan =
        methodHeader settings m ++ body settings m .empty m.body := rfl
    rw [plan_wholeMethod_of_other_body, hplan, hbody]
    exact (List.prefix_append_right_inj _).mpr (body_prefix_append settings m .empty done rest)
  have hmember : memberMethod settings { m with body := done } <+: memberMethod settings m :=
    Plan.within_isPrefix ("method " ++ m.id settings) hmethod
  have hplan : (wholeClass settings c).plan =
      (wholeClass settings (c.upToMethods methods)).plan ++
        (memberMethod settings m ++ later.flatMap (memberMethod settings)) := by
    have hall : (wholeClass settings c).plan =
        (wholeClass settings (c.upToMethods c.methods)).plan := rfl
    rw [hall, plan_upToMethods, plan_upToMethods, hmethods]
    simp
  rw [plan_upToBody, hplan]
  exact (List.prefix_append_right_inj _).mpr (hmember.trans (List.prefix_append _ _))

/-- A class that is cut off in a method fails exactly if this method does. -/
theorem failure_run_upToBody
    {settings : EncoderSettings} {c : ClassDecl} {types : RecordedTypes}
    {methods : List MethodDecl}
    (hbefore :
      (Plan.run types (wholeClass settings (c.upToMethods methods)).plan).failure = none)
    (m : MethodDecl) (body : List Instruction) :
    (Plan.run types (wholeClass settings (c.upToBody methods m body)).plan).failure =
      (Plan.run (Plan.run types (wholeClass settings (c.upToMethods methods)).plan).types
        (wholeMethod settings { m with body := body }).plan).failure.map
          fun e => e.within ("method " ++ m.id settings) := by
  rw [plan_upToBody, Plan.failure_run_append, hbefore, Option.none_or, failure_run_memberMethod]
  rfl

end Encoding

/-! ## Where a class stops -/

namespace Encoder

def encodeClass (d : Encoder) (c : ClassDecl) : Performed Statistics :=
  d.perform (Encoding.wholeClass d.settings c)

/-- Whether a class with its members is encoded with success. -/
def Encodes (d : Encoder) (c : ClassDecl) : Prop :=
  ∃ statistics, (d.encodeClass c).result = .ok statistics

theorem encodes_iff {d : Encoder} {c : ClassDecl} :
    d.Encodes c ↔ (Plan.run d.types (Encoding.wholeClass d.settings c).plan).failure = none := by
  constructor
  · rintro ⟨statistics, h⟩
    exact ((result_perform_eq_ok_iff _ _ _).mp h).1
  · intro h
    exact ⟨_, (result_perform_eq_ok_iff _ _ _).mpr ⟨h, rfl⟩⟩

/-- In which member the encoding of a class stops, and up to where the class is encoded then: up to
a field, to the declaration of a method, or to an instruction.  What comes before is encoded with
success. -/
inductive StopsIn (d : Encoder) (c : ClassDecl) :
    (member : String) → (part : ClassDecl) → Prop where
  | field {fields later : List FieldDecl} {f : FieldDecl}
      (hfields : c.fields = fields ++ f :: later)
      (hbefore : d.Encodes (c.upToFields fields)) :
      StopsIn d c ("field " ++ c.name ++ "." ++ f.name) (c.upToFields (fields ++ [f]))
  | declaration {methods later : List MethodDecl} {m : MethodDecl}
      (hmethods : c.methods = methods ++ m :: later)
      (hbefore : d.Encodes (c.upToMethods methods)) :
      StopsIn d c ("method " ++ m.id d.settings) (c.upToBody methods m [])
  | instruction {methods later : List MethodDecl} {m : MethodDecl}
      {done rest : List Instruction} {i : Instruction}
      (hmethods : c.methods = methods ++ m :: later) (hbody : m.body = done ++ i :: rest)
      (hbefore : d.Encodes (c.upToBody methods m done)) :
      StopsIn d c ("method " ++ m.id d.settings) (c.upToBody methods m (done ++ [i]))

/-- How a class fails with an error: it stops in a member for some cause, and the part of the class
that ends there fails with the same error. -/
structure FailsIn
    (d : Encoder) (c : ClassDecl) (e : EncodeError) (member : String) (part : ClassDecl)
    (cause : EncodeError) : Prop where
  error : e = .inUnit member cause
  isCause : cause.IsCause
  stopsIn : d.StopsIn c member part
  failure : (Plan.run d.types (Encoding.wholeClass d.settings part).plan).failure = some e
  isBeginning :
    (Encoding.wholeClass d.settings part).plan <+: (Encoding.wholeClass d.settings c).plan

variable {d : Encoder} {c part : ClassDecl} {member : String} {e : EncodeError}

/-- The layer of a member is never taken for the layer of its class. -/
theorem StopsIn.member_ne_class (h : d.StopsIn c member part) (name : String) :
    member ≠ "class " ++ name := by
  intro hmember
  have hhead := congrArg (fun s => s.toList.head?) hmember
  cases h <;> simp at hhead

theorem exists_failsIn_of_fields
    (h : (Plan.run d.types
      (Encoding.classHeader c ++ c.fields.flatMap (Encoding.wholeField c))).failure = some e) :
    ∃ member part cause, d.FailsIn c e member part cause := by
  obtain ⟨fields, f, later, hfields, hbefore, hf⟩ :=
    Plan.exists_failing_item (Encoding.failure_run_classHeader d.types c) h
  have hencodes : d.Encodes (c.upToFields fields) := by
    rw [encodes_iff, Encoding.plan_upToFields]
    exact hbefore
  have herror := Encoding.error_of_failure_wholeField hf
  refine ⟨_, _, _, herror, trivial, .field hfields hencodes, ?_, ?_⟩
  · rw [Encoding.plan_upToFields, List.flatMap_append, ← List.append_assoc, List.flatMap_singleton,
      Plan.failure_run_append, hbefore, Option.none_or]
    exact hf
  · apply Encoding.prefix_upToFields
    rw [hfields, List.append_assoc, List.singleton_append]

theorem exists_failsIn_of_methods
    (hfields : (Plan.run d.types
      (Encoding.classHeader c ++ c.fields.flatMap (Encoding.wholeField c))).failure = none)
    (h : (Plan.run d.types (Encoding.wholeClass d.settings c).plan).failure = some e) :
    ∃ member part cause, d.FailsIn c e member part cause := by
  obtain ⟨methods, m, later, hmethods, hbefore, hm⟩ := Plan.exists_failing_item hfields h
  have hbefore : (Plan.run d.types
      (Encoding.wholeClass d.settings (c.upToMethods methods)).plan).failure = none := hbefore
  have hfailure := (Encoding.failure_run_memberMethod d.settings m _).symm.trans hm
  obtain ⟨cause, hcause, rfl⟩ := Option.map_eq_some_iff.mp hfailure
  have hisCause := Encoding.isCause_of_failure_wholeMethod hcause
  rcases Encoding.exists_failing_body hcause with hheader | ⟨done, i, rest, hbody, hdone, hi⟩
  · refine ⟨_, _, cause, hisCause.within _, hisCause,
      .declaration hmethods (encodes_iff.mpr hbefore), ?_, ?_⟩
    · rw [Encoding.failure_run_upToBody hbefore]
      exact Option.map_eq_some_iff.mpr ⟨cause, hheader, rfl⟩
    · exact Encoding.prefix_upToBody hmethods (List.nil_append m.body).symm
  · refine ⟨_, _, cause, hisCause.within _, hisCause, .instruction hmethods hbody ?_, ?_, ?_⟩
    · rw [encodes_iff, Encoding.failure_run_upToBody hbefore]
      exact Option.map_eq_none_iff.mpr hdone
    · rw [Encoding.failure_run_upToBody hbefore]
      exact Option.map_eq_some_iff.mpr ⟨cause, hi, rfl⟩
    · apply Encoding.prefix_upToBody hmethods
      rw [hbody, List.append_assoc, List.singleton_append]

/-- A class that fails does so in one of its members, for some cause. -/
theorem exists_failsIn
    (h : (Plan.run d.types (Encoding.wholeClass d.settings c).plan).failure = some e) :
    ∃ member part cause, d.FailsIn c e member part cause := by
  cases hfields : (Plan.run d.types
      (Encoding.classHeader c ++ c.fields.flatMap (Encoding.wholeField c))).failure with
  | none => exact exists_failsIn_of_methods hfields h
  | some e' =>
      rw [Encoding.wholeClass, Plan.run_append_of_failure hfields] at h
      exact exists_failsIn_of_fields h

end Encoder

/-! ## What the classes before have written -/

theorem FactStore.addAll_append (s : FactStore) (first second : List Fact) :
    s.addAll (first ++ second) = (s.addAll first).addAll second :=
  List.foldl_append

theorem ne_properties_of_mem_rows_classes
    {settings : EncoderSettings} {types : RecordedTypes} {classes : List ClassDecl} {f : Fact}
    (hf : f ∈ (Plan.run types (classes.flatMap (Encoding.programClass settings))).rows) :
    f.relation ≠ .properties := by
  have hsteps : ∀ s ∈ Plan.steps (classes.flatMap (Encoding.programClass settings)),
      s.WritesOnly (· ∈ Encoding.classRelations) := by
    simp only [Encoding.programClass, Plan.steps_flatMap, Plan.steps_within,
      List.forall_mem_flatMap]
    exact fun c _ => Encoding.writesOnly_wholeClass settings c
  have hrows : ∀ f ∈ [] ++
      (Plan.run types (classes.flatMap (Encoding.programClass settings))).rows,
      f.relation ≠ .properties := by
    apply Plan.run_invariant fun rows _ => ∀ f ∈ rows, f.relation ≠ .properties
    · intro s hs before types hbefore g hg hrelation
      rcases List.mem_append.mp hg with hg | hg
      · exact hbefore g hg hrelation
      · have hother : g.relation.isAboutTypes = false := by
          rw [hrelation]
          rfl
        have hwrites := hsteps s hs
        rw [(Step.mem_rows_run_iff hother).mp hg, Step.WritesOnly, hrelation] at hwrites
        revert hwrites
        decide
    · simp
  exact hrows f hf

namespace Encoder

theorem perform_eq_of_failure
    {α : Type} {e : Encoder} {x y : Encoding α} {error : EncodeError}
    (hrun : Plan.run e.types x.plan = Plan.run e.types y.plan)
    (h : (Plan.run e.types y.plan).failure = some error) :
    e.perform x = e.perform y := by
  simp only [perform, hrun, h]

def afterClasses (e : Encoder) (classes : List ClassDecl) : Encoder :=
  (e.generate ⟨classes, []⟩).encoder

theorem types_afterClasses (e : Encoder) (classes : List ClassDecl) :
    (e.afterClasses classes).types =
      (Plan.run e.types (classes.flatMap (Encoding.programClass e.settings))).types := by
  simp [afterClasses, generate, perform, Encoding.wholeProgram]

theorem store_afterClasses (e : Encoder) (classes : List ClassDecl) :
    (e.afterClasses classes).store = e.store.addAll
      (Plan.run e.types (classes.flatMap (Encoding.programClass e.settings))).rows := by
  simp [afterClasses, generate, perform, Encoding.wholeProgram]

/-- A program leaves the encoder as the class does that fails. -/
theorem encoder_generate_of_failing_class
    {e : Encoder} {p : Program} {before after : List ClassDecl} {c : ClassDecl}
    {error : EncodeError} (hclasses : p.classes = before ++ c :: after)
    (hbefore : (Plan.run e.types
      (before.flatMap (Encoding.programClass e.settings))).failure = none)
    (hc : (Plan.run (e.afterClasses before).types
      (Encoding.programClass e.settings c)).failure = some error) :
    (e.generate p).encoder = ((e.afterClasses before).encodeClass c).encoder := by
  have hbegin : before.flatMap (Encoding.programClass e.settings) ++
        Encoding.programClass e.settings c <+:
      (Encoding.wholeProgram e.settings p).plan := by
    rw [Encoding.wholeProgram, hclasses, List.flatMap_append, List.flatMap_cons]
    simp
  have hrun := Plan.run_append_of_success hbefore (Encoding.programClass e.settings c)
  rw [← types_afterClasses] at hrun
  have hfails := (congrArg Run.failure hrun).trans hc
  have hwhole := (Plan.run_of_isPrefix hbegin hfails).trans hrun
  have hwithin : Plan.run (e.afterClasses before).types (Encoding.programClass e.settings c) =
      (Plan.run (e.afterClasses before).types
        (Encoding.wholeClass e.settings c).plan).within ("class " ++ c.name) :=
    Plan.run_within _ _ _
  simp only [generate, encodeClass, perform, hwhole, hwithin, Run.within, FactStore.addAll_append,
    ← store_afterClasses]
  rfl

/-! ## Main result -/

/-- How the encoding of a program stopped: the classes of `before` were encoded with success, and
then `c` failed in a member for some cause, when it had been encoded up to `part`. -/
structure Stopped
    (e : Encoder) (p : Program) (before : List ClassDecl) (c part : ClassDecl) (member : String)
    (cause : EncodeError) : Prop where
  classes : ∃ after, p.classes = before ++ c :: after
  encoded : ∃ statistics, (e.generate ⟨before, []⟩).result = .ok statistics
  failed : ((e.afterClasses before).encodeClass c).result = .error (.inUnit member cause)
  isCause : cause.IsCause
  stopsIn : (e.afterClasses before).StopsIn c member part
  /-- Nothing of the class after `part` was encoded. -/
  upToPart : (e.afterClasses before).encodeClass c = (e.afterClasses before).encodeClass part
  /-- Nothing of the program after the class was encoded. -/
  upToClass : (e.generate p).encoder = ((e.afterClasses before).encodeClass c).encoder
  journal : (e.generate p).encoder.store.journal =
    (e.afterClasses before).store.journal ++
      if e.store.journaled then ((e.afterClasses before).encodeClass part).run.rows else []
  noProperties : ∀ f ∈ (e.generate p).run.rows, f.relation ≠ .properties

/-- If the encoding of a program fails, then in the first class that fails, and there in the first
field that fails, or else in the first method that fails; the error names this class and this
member, and has nothing but the cause under them.  The journal ends with the rows of the class up
to the failing field, declaration or instruction, after those of the classes before. -/
theorem generate_stopped
    {e : Encoder} {p : Program} {error : EncodeError} (h : (e.generate p).result = .error error) :
    ∃ before c part member cause,
      error = .inUnit ("class " ++ c.name) (.inUnit member cause) ∧
        e.Stopped p before c part member cause := by
  have hrun := (result_perform_eq_error_iff _ _ _).mp h
  -- properties never fail, so that the classes do
  have hclasses : (Plan.run e.types
      (p.classes.flatMap (Encoding.programClass e.settings))).failure = some error := by
    rw [Encoding.wholeProgram, Plan.failure_run_append, Encoding.failure_run_properties,
      Option.or_none] at hrun
    exact hrun
  have hrows : (e.generate p).run.rows =
      (Plan.run e.types (p.classes.flatMap (Encoding.programClass e.settings))).rows :=
    congrArg Run.rows (Plan.run_append_of_failure hclasses _)
  have hempty : (Plan.run e.types []).failure = none := rfl
  obtain ⟨before, c, after, hp, hbefore, hc⟩ := Plan.exists_failing_item hempty hclasses
  rw [List.nil_append] at hbefore hc
  rw [← types_afterClasses] at hc
  have hencoder := encoder_generate_of_failing_class hp hbefore hc
  rw [Encoding.programClass, Plan.run_within] at hc
  obtain ⟨inner, hinner, rfl⟩ := Option.map_eq_some_iff.mp hc
  have hfailed : ((e.afterClasses before).encodeClass c).result = .error inner :=
    (result_perform_eq_error_iff _ _ _).mpr hinner
  obtain ⟨member, part, cause, hfailsIn⟩ := exists_failsIn hinner
  obtain rfl := hfailsIn.error
  have hsame : (e.afterClasses before).encodeClass c = (e.afterClasses before).encodeClass part :=
    perform_eq_of_failure (Plan.run_of_isPrefix hfailsIn.isBeginning hfailsIn.failure)
      hfailsIn.failure
  have hencoded : (Plan.run e.types
      (Encoding.wholeProgram e.settings ⟨before, []⟩).plan).failure = none := by
    simpa [Encoding.wholeProgram] using hbefore
  have hjournaled : (e.afterClasses before).store.journaled = e.store.journaled :=
    FactStore.journaled_addAll _ _
  refine ⟨before, c, part, member, cause, if_neg (hfailsIn.stopsIn.member_ne_class c.name), ?_⟩
  exact
    { classes := ⟨after, hp⟩
      encoded := ⟨_, (result_perform_eq_ok_iff _ _ _).mpr ⟨hencoded, rfl⟩⟩
      failed := hfailed
      isCause := hfailsIn.isCause
      stopsIn := hfailsIn.stopsIn
      upToPart := hsame
      upToClass := hencoder
      journal := by
        rw [hencoder, hsame, ← hjournaled]
        exact journal_perform _ _
      noProperties := by
        rw [hrows]
        exact fun f => ne_properties_of_mem_rows_classes }

end Encoder

/-- A static method without parameters that returns nothing. -/
def plainMethod (name : String) (body : List Instruction) : MethodDecl where
  declaringClass := "B"
  name := name
  params := []
  returnType := .primitive .void
  modifiers := [.static]
  declaredExceptions := []
  body := body

/-- A program whose second class fails in its second method, at the second instruction. -/
def refusedProgram : Program where
  classes :=
    [⟨"A", false, none, [], [], [⟨"A", "f", .named "B", [.final]⟩], [], true, none⟩,
      ⟨"B", false, some "A", [], [], [⟨"B", "g", .primitive .int, []⟩],
        [plainMethod "ready" [⟨0, none, .returnVoid⟩],
          plainMethod "refused"
            [⟨0, none, .constant ⟨"x", .primitive .int⟩ (.numeric "1")⟩,
              ⟨1, some 3, .constant ⟨"k", .named "java.lang.Class"⟩ (.classLiteral "int")⟩,
              ⟨2, none, .returnVoid⟩]],
        true, none⟩,
      ⟨"C", true, none, [], [], [], [], false, none⟩]
  properties := [⟨"app.properties", "limit", "1"⟩]

/-- A class literal that is none, with members and classes after it. -/
theorem Encoder.generate_stopped_refusedProgram :
    let error : EncodeError :=
      .inUnit "class B" (.inUnit "method <B: void refused()>"
        (.unsupportedClassConstantSyntax "int" "<B: void refused()>/assign-class/instruction1"))
    ((fresh .standard true).generate refusedProgram).result = .error error ∧
      ∃ before c part member cause,
        error = .inUnit ("class " ++ c.name) (.inUnit member cause) ∧
          (fresh .standard true).Stopped refusedProgram before c part member cause := by
  intro error
  have h : ((fresh .standard true).generate refusedProgram).result = .error error := by
    decide +kernel
  exact ⟨h, generate_stopped h⟩

end ProgramFacts
