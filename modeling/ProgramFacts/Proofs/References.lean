import ProgramFacts.Proofs.Discipline
import ProgramFacts.Proofs.Parts

/-!
# References between rows

Rows refer to objects, strings, methods and fields by their identifiers.  Whoever encodes programs,
one after another and with success or not, finds at every moment of the journal that what a row
refers to has a row of its own, which was written before.
-/

namespace ProgramFacts

/-! ## The references of the schema -/

/-- A column that holds identifiers of entries of other relations. -/
structure ForeignKey where
  column : Nat
  /-- The relations one of which has the identifier in its first column. -/
  targets : List Relation

namespace Relation

/-- A column of objects: strings, classes or method handles. -/
def heapKeys (column : Nat) : List ForeignKey :=
  [⟨column, [stringConst, classHeap, methodHandleConstant]⟩]

/-- A column of strings, each of which has its text. -/
def stringKeys (column : Nat) : List ForeignKey :=
  [⟨column, [stringRaw]⟩]

/-- A column of methods, each of which is declared and has the text of its signature. -/
def methodKeys (column : Nat) : List ForeignKey :=
  [⟨column, [method]⟩, ⟨column, [stringRaw]⟩]

def fieldKeys (column : Nat) : List ForeignKey :=
  [⟨column, [fieldSignature]⟩]

/-- The columns of a relation by which its rows refer to others. -/
def foreignKeys : Relation → List ForeignKey
  | stringConst => stringKeys 0
  | properties => stringKeys 0 ++ stringKeys 1 ++ stringKeys 2
  | fieldModifier => fieldKeys 1
  | methodModifier => methodKeys 1
  | thisVar => methodKeys 0
  | formalParam => methodKeys 1
  | nativeReturnVar => methodKeys 1
  | methodDeclException => methodKeys 1
  | varDeclaringMethod => methodKeys 1
  | assignHeapAlloc => heapKeys 2 ++ methodKeys 4
  | assignNull => methodKeys 3
  | assignNumConst => methodKeys 4
  | assignLocal => methodKeys 4
  | assignBinop => methodKeys 3
  | returnValue => methodKeys 3
  | returnVoid => methodKeys 2
  | unsupportedInstruction => methodKeys 2
  | _ => []

end Relation

namespace Fact

/-- Whether some facts have a row of a relation that begins with an identifier. -/
def HasKey (facts : List Fact) (r : Relation) (id : String) : Prop :=
  ∃ f ∈ facts, f.relation = r ∧ f.row.head? = some id

theorem HasKey.mono
    {facts more : List Fact} {r : Relation} {id : String}
    (h : HasKey facts r id) (hle : facts ⊆ more) : HasKey more r id := by
  obtain ⟨f, hf, hkey⟩ := h
  exact ⟨f, hle hf, hkey⟩

/-- Whether a row has an identifier in each column by which it refers to others, and each of these
is the key of a row that it may refer to. -/
def Resolved (keys : Relation → String → Prop) (f : Fact) : Prop :=
  ∀ k ∈ f.relation.foreignKeys, ∃ id, f.row[k.column]? = some id ∧ ∃ r ∈ k.targets, keys r id

theorem Resolved.mono
    {keys keys' : Relation → String → Prop} {f : Fact} (h : f.Resolved keys)
    (hle : ∀ r id, keys r id → keys' r id) : f.Resolved keys' := by
  intro k hk
  obtain ⟨id, hid, r, hr, hkey⟩ := h k hk
  exact ⟨id, hid, r, hr, hle r id hkey⟩

theorem resolved_of_mem_arrayRows
    {keys : Relation → String → Prop} {t : TypeRef} {f : Fact} (hf : f ∈ t.arrayRows) :
    f.Resolved keys := by
  intro k hk
  rcases relation_of_mem_arrayRows hf with h | h <;> simp [h, Relation.foreignKeys] at hk

end Fact

/-! ## The discipline -/

namespace Step

/-- Whether some steps write a row of a relation that begins with an identifier. -/
def HasKey (known : List Step) (r : Relation) (id : String) : Prop :=
  ∃ f, write f ∈ known ∧ f.relation = r ∧ f.row.head? = some id

theorem HasKey.mono
    {known later : List Step} {r : Relation} {id : String}
    (h : HasKey known r id) (hle : known ⊆ later) : HasKey later r id := by
  obtain ⟨f, hf, hkey⟩ := h
  exact ⟨f, hle hf, hkey⟩

@[simp] theorem hasKey_append_iff {known more : List Step} {r : Relation} {id : String} :
    HasKey (known ++ more) r id ↔ HasKey known r id ∨ HasKey more r id := by
  simp [HasKey, or_and_right, exists_or]

@[simp] theorem hasKey_nil_iff {r : Relation} {id : String} : HasKey [] r id ↔ False := by
  simp [HasKey]

@[simp] theorem hasKey_cons_write_iff
    {f : Fact} {known : List Step} {r : Relation} {id : String} :
    HasKey (write f :: known) r id ↔
      f.relation = r ∧ f.row.head? = some id ∨ HasKey known r id := by
  simp [HasKey, or_and_right, exists_or]

@[simp] theorem hasKey_cons_iff_of_ne_write
    {s : Step} (h : ∀ f, s ≠ write f) {known : List Step} {r : Relation} {id : String} :
    HasKey (s :: known) r id ↔ HasKey known r id := by
  simp [HasKey, fun f => (h f).symm]

/-- Whether some steps declare a method and write the text of its signature. -/
structure HasMethod (known : List Step) (method : String) : Prop where
  row : HasKey known .method method
  text : HasKey known .stringRaw method

theorem HasMethod.mono
    {known later : List Step} {method : String}
    (h : HasMethod known method) (hle : known ⊆ later) : HasMethod later method :=
  ⟨h.row.mono hle, h.text.mono hle⟩

/-- Whether a step refers to nothing but what the known steps write. -/
def Resolved (known : List Step) : Step → Prop
  | write f => f.Resolved (HasKey known)
  | declare _ _ method => HasMethod known method
  | _ => True

end Step

/-- The discipline by which a row is written before others refer to it. -/
def referentialClosure : Discipline where
  supports journal f := f.Resolved (Fact.HasKey journal)
  ready := Step.Resolved
  supports_mono h hle := h.mono fun _ _ hkey => hkey.mono hle
  ready_mono := by
    intro known later s h hle
    cases s with
    | write f => exact Fact.Resolved.mono h fun _ _ hkey => hkey.mono hle
    | declare var type method => exact Step.HasMethod.mono h hle
    | _ => trivial
  supports_of_ready := by
    intro journal known s hleft hready types f hf
    have hkeys : ∀ r id, Step.HasKey known r id → Fact.HasKey journal r id := by
      rintro r id ⟨g, hg, hkey⟩
      exact ⟨g, hleft _ hg, hkey⟩
    cases s with
    | write g =>
        obtain rfl : f = g := by simpa [Step.run, Run.wrote] using hf
        exact Fact.Resolved.mono hready hkeys
    | mention type =>
        apply Fact.resolved_of_mem_arrayRows (t := type)
        simp only [Step.run] at hf
        split at hf
        · exact hf
        · cases hf
    | declare var type method =>
        have hrows : f ∈ variableRows var (types.resolve var type) method := by
          simp only [Step.run] at hf
          split at hf
          · exact hf
          · cases hf
        rcases mem_variableRows.mp hrows with harray | rfl | rfl
        · exact Fact.resolved_of_mem_arrayRows harray
        · simp [Fact.Resolved, Fact.of, Relation.foreignKeys]
        · have hrow := hkeys _ _ hready.row
          have htext := hkeys _ _ hready.text
          simp [Fact.Resolved, Fact.of, Relation.foreignKeys, Relation.methodKeys, hrow, htext]
    | draw basename => simp [Step.run] at hf
    | refuse error => simp [Step.run, Run.failed] at hf

@[simp] theorem ready_referentialClosure : referentialClosure.ready = Step.Resolved := rfl

/-! ## Plans -/

namespace Encoding

variable {known : List Step} (settings : EncoderSettings) (m : MethodDecl)

theorem closed_instruction
    (h : Step.HasMethod known (m.id settings)) (numbering : Numbering) (i : Instruction) :
    referentialClosure.Ordered known (instruction settings numbering m i).steps := by
  have hlater : ∀ later, Step.HasMethod (known ++ later) (m.id settings) :=
    fun later => h.mono (List.subset_append_left known later)
  unfold instruction
  cases i.operation with
  | constant dest value =>
      cases value with
      | string s =>
          simp [stringAssignment, stringSteps, localStep, allocationRow, Encoding.ofSteps,
            Step.Resolved, Fact.Resolved, Fact.of, Relation.foreignKeys, Relation.methodKeys,
            Relation.heapKeys, Relation.stringKeys, h, h.row, h.text]
      | null =>
          simp [nullAssignment, localStep, Encoding.ofSteps, Step.Resolved, Fact.Resolved,
            Fact.of, Relation.foreignKeys, Relation.methodKeys, h, h.row, h.text]
      | numeric text =>
          simp [numericAssignment, localStep, Encoding.ofSteps, Step.Resolved, Fact.Resolved,
            Fact.of, Relation.foreignKeys, Relation.methodKeys, h, h.row, h.text]
      | classLiteral literal =>
          cases htype : literalType? literal with
          | none => simp [classAssignment, htype, Encoding.ofSteps, Step.Resolved]
          | some type =>
              simp [classAssignment, htype, localStep, allocationRow, Encoding.ofSteps,
                Step.Resolved, Fact.Resolved, Fact.of, Relation.foreignKeys,
                Relation.methodKeys, Relation.heapKeys, hlater, h.row, h.text]
      | methodHandle handle =>
          simp [handleAssignment, localStep, allocationRow, Encoding.ofSteps, Step.Resolved,
            Fact.Resolved, Fact.of, Relation.foreignKeys, Relation.methodKeys,
            Relation.heapKeys, h, hlater, h.row, h.text]
  | binary dest operator lhs rhs =>
      simp [binaryOperation, localStep, Encoding.ofSteps, Step.Resolved, Fact.Resolved, Fact.of,
        Relation.foreignKeys, Relation.methodKeys, h, hlater, h.row, h.text]
  | returnValue value =>
      simp [returnValue, localStep, Encoding.ofSteps, Step.Resolved, Fact.Resolved, Fact.of,
        Relation.foreignKeys, Relation.methodKeys, h, h.row, h.text]
  | returnVoid =>
      simp [returnVoid, Encoding.ofSteps, Step.Resolved, Fact.Resolved, Fact.of,
        Relation.foreignKeys, Relation.methodKeys, h.row, h.text]
  | unsupported opcode =>
      simp [unsupportedInstruction, Encoding.ofSteps, Step.Resolved, Fact.Resolved, Fact.of,
        Relation.foreignKeys, Relation.methodKeys, h.row, h.text]

/-- A method is declared by its first steps. -/
theorem hasMethod_method :
    Step.HasMethod (method settings m).plan.steps (m.id settings) := by
  constructor <;>
    simp [method, signatureStep, methodRow, Encoding.ofSteps, Fact.of, MethodDecl.id]

theorem closed_method : referentialClosure.Ordered [] (method settings m).plan.steps := by
  apply Discipline.Ordered.of_ready
  simp [method, signatureStep, methodRow, Encoding.ofSteps, Step.Resolved, Fact.Resolved, Fact.of,
    Relation.foreignKeys, or_imp, forall_and]

theorem closed_receiver (h : Step.HasMethod known (m.id settings)) :
    referentialClosure.Ordered known (receiver settings m).plan.steps := by
  simp [receiver, Encoding.ofSteps, Step.Resolved, Fact.Resolved, Fact.of, Relation.foreignKeys,
    Relation.methodKeys, h, h.row, h.text]

theorem closed_formalParam (h : Step.HasMethod known (m.id settings)) (index : Nat) :
    referentialClosure.Ordered known (formalParam settings m index).plan.steps := by
  cases hparam : m.params[index]? with
  | none => simp [formalParam, hparam, Encoding.ofSteps, Step.Resolved]
  | some type =>
      simp [formalParam, hparam, paramSteps, Encoding.ofSteps, Step.Resolved, Fact.Resolved,
        Fact.of, Relation.foreignKeys, Relation.methodKeys, h, h.row, h.text]

theorem closed_nativeReturn (h : Step.HasMethod known (m.id settings)) :
    referentialClosure.Ordered known (nativeReturn settings m).plan.steps := by
  simp [nativeReturn, Encoding.ofSteps, Step.Resolved, Fact.Resolved, Fact.of,
    Relation.foreignKeys, Relation.methodKeys, h, h.row, h.text]

/-- A method is declared before anything refers to it. -/
theorem closed_wholeMethod :
    referentialClosure.Ordered [] (wholeMethod settings m).plan.steps := by
  have h := hasMethod_method settings m
  simp only [plan_wholeMethod, methodHeader, Plan.steps_append, Plan.steps_flatMap,
    List.append_assoc]
  apply Discipline.Ordered.append_known (closed_method settings m)
  rw [List.nil_append]
  refine .append ?_ (.append ?_ (.append ?_ (.append ?_ (.append ?_ ?_))))
  · refine .flatMap fun modifier _ => ?_
    simp [methodModifier, Encoding.ofSteps, Step.Resolved, Fact.Resolved, Fact.of,
      Relation.foreignKeys, Relation.methodKeys, h.row, h.text]
  · split
    · trivial
    · exact closed_receiver settings m h
  · exact .flatMap fun index _ => closed_formalParam settings m h index
  · refine .flatMap fun exception _ => ?_
    simp [declaredException, Encoding.ofSteps, Step.Resolved, Fact.Resolved, Fact.of,
      Relation.foreignKeys, Relation.methodKeys, h.row, h.text]
  · split
    · exact closed_nativeReturn settings m h
    · trivial
  · exact .flatMap fun e _ => closed_instruction settings m h (.ofHandles e.1) e.2

theorem closed_classHeader (c : ClassDecl) :
    referentialClosure.Ordered [] (classHeader c).steps := by
  apply Discipline.Ordered.of_ready
  simp only [steps_classHeader, List.forall_mem_append, List.forall_mem_flatMap]
  cases hinterface : c.isInterface <;> cases c.application <;>
    simp [classKindRow, hinterface, Step.Resolved, Fact.Resolved, Fact.of, Relation.foreignKeys]

/-- A field has its row before a modifier refers to it. -/
theorem closed_wholeField (c : ClassDecl) (f : FieldDecl) :
    referentialClosure.Ordered [] (wholeField c f).steps := by
  rw [steps_wholeField]
  apply Discipline.Ordered.append_known
  · simp [Step.Resolved, Fact.Resolved, Fact.of, Relation.foreignKeys]
  · apply Discipline.Ordered.of_ready
    simp [Step.Resolved, Fact.Resolved, Fact.of, Relation.foreignKeys, Relation.fieldKeys]

theorem closed_property (q : Property) :
    referentialClosure.Ordered [] (property settings q).plan.steps := by
  simp [steps_property, stringSteps, Step.Resolved, Fact.Resolved, Fact.of, Relation.foreignKeys,
    Relation.stringKeys]

/-- In a program everything has its row before others refer to it. -/
theorem closed_wholeProgram (p : Program) :
    referentialClosure.Ordered [] (wholeProgram settings p).plan.steps := by
  simp only [wholeProgram, programClass, wholeClass, Plan.steps_append, Plan.steps_flatMap,
    Plan.steps_within]
  apply Discipline.Ordered.append
  · refine .flatMap fun c _ => .append (.append ?_ ?_) ?_
    · exact closed_classHeader c
    · exact .flatMap fun f _ => closed_wholeField c f
    · exact .flatMap fun m _ => closed_wholeMethod settings m
  · exact .flatMap fun q _ => closed_property settings q

end Encoding

/-! ## Journals -/

/-- Encodes programs one after another, whether they succeed or fail. -/
def Encoder.generateAll (e : Encoder) (ps : List Program) : Encoder :=
  ps.foldl (fun e p => (e.generate p).encoder) e

theorem Encoder.generateAll_eq_calls (e : Encoder) (ps : List Program) :
    e.generateAll ps = e.calls (ps.map Call.wholeProgram) := by
  rw [generateAll, calls, List.foldl_map]
  rfl

/-- At every moment of a journal, whichever programs were encoded and whichever of them failed, what
a row refers to has a row. -/
theorem resolved_of_prefix_journal
    (settings : EncoderSettings) (ps : List Program) (pre : List Fact)
    (hpre : pre <+: ((Encoder.fresh settings true).generateAll ps).store.journal)
    (f : Fact) (hf : f ∈ pre) :
    f.Resolved (Fact.HasKey pre) := by
  rw [Encoder.generateAll_eq_calls] at hpre
  refine referentialClosure.supported_journal ?_ pre hpre f hf
  intro c hc
  obtain ⟨p, -, rfl⟩ := List.mem_map.mp hc
  exact Encoding.closed_wholeProgram settings p

/-- A method that puts a text into a variable and then fails. -/
def haltingMethod : MethodDecl where
  declaringClass := "A"
  name := "m"
  params := []
  returnType := .primitive .void
  modifiers := [.static]
  declaredExceptions := []
  body :=
    [⟨0, none, .constant ⟨"s", .named "S"⟩ (.string "x")⟩,
      ⟨1, none, .constant ⟨"t", .unresolved "T"⟩ .null⟩]

/-- A program that fails, and one with a property. -/
def referringPrograms : List Program :=
  [⟨[⟨"A", false, none, [], [], [], [haltingMethod], false, none⟩], []⟩,
    ⟨[], [⟨"p", "k", "v"⟩]⟩]

/-- The journal of these programs, up to the middle of the property. -/
def referringJournal : List Fact :=
  [.of .classType ["A"],
    .of .classHeap ["<class A>", "A"],
    .of .stringRaw ["<A: void m()>", "<A: void m()>"],
    .of .method ["<A: void m()>", "m", "void()", "A", "void", "()V"],
    .of .methodModifier ["static", "<A: void m()>"],
    .of .varType ["<A: void m()>/s", "S"],
    .of .varDeclaringMethod ["<A: void m()>/s", "<A: void m()>"],
    .of .stringRaw ["x", "x"],
    .of .stringConst ["x"],
    .of .assignHeapAlloc
      ["<A: void m()>/assign-string/instruction0", "0", "x", "<A: void m()>/s", "<A: void m()>",
        "0"],
    .of .stringRaw ["p", "p"],
    .of .stringConst ["p"]]

theorem resolved_referringJournal :
    referringJournal <+:
        ((Encoder.fresh .standard true).generateAll referringPrograms).store.journal ∧
      ∀ f ∈ referringJournal, f.Resolved (Fact.HasKey referringJournal) := by
  have hpre : referringJournal <+:
      ((Encoder.fresh .standard true).generateAll referringPrograms).store.journal := by
    decide +kernel
  exact ⟨hpre, resolved_of_prefix_journal .standard referringPrograms referringJournal hpre⟩

end ProgramFacts
