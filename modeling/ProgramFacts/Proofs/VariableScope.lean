import Mathlib.Tactic.MkIffOfInductiveProp
import ProgramFacts.Proofs.Discipline
import ProgramFacts.Proofs.WrittenRelations

/-!
# The scope of variables

A variable is declared before any row uses it, and an operation is written before the rows about
its operator and operands.  This holds at every moment of a journal, whatever an encoder is asked
to do and wherever it fails.
-/

namespace ProgramFacts

/-! ## Variables that a row uses -/

/-- Whether the rows of a relation use variables or operations. -/
def Relation.isScoped : Relation → Bool
  | assignHeapAlloc | assignNull | assignNumConst | assignLocal | assignBinop | assignOperType
  | assignOperFrom | returnValue | formalParam | thisVar | nativeReturnVar => true
  | _ => false

theorem Relation.isScoped_of_isAboutTypes {r : Relation} (h : r.isAboutTypes = true) :
    r.isScoped = false := by
  revert h
  cases r <;> decide

namespace Fact

/-- The variables in the variable columns of a row, each with the method in the method column. -/
def usedVariables (f : Fact) : List (String × String) :=
  match f.relation, f.row with
  | .assignHeapAlloc, [_, _, _, var, method, _] => [(var, method)]
  | .assignNull, [_, _, var, method] => [(var, method)]
  | .assignNumConst, [_, _, _, var, method] => [(var, method)]
  | .assignLocal, [_, _, source, dest, method] => [(source, method), (dest, method)]
  | .assignBinop, [_, _, var, method] => [(var, method)]
  | .returnValue, [_, _, var, method] => [(var, method)]
  | .formalParam, [_, method, var] => [(var, method)]
  | .thisVar, [method, var] => [(var, method)]
  | .nativeReturnVar, [var, method] => [(var, method)]
  | _, _ => []

/-- The operand that a row names without a method. -/
def operand? (f : Fact) : Option String :=
  match f.relation, f.row with
  | .assignOperFrom, [_, var] => some var
  | _, _ => none

/-- The operation that a row adds something to. -/
def operation? (f : Fact) : Option String :=
  match f.relation, f.row with
  | .assignOperType, [insn, _] => some insn
  | .assignOperFrom, [insn, _] => some insn
  | _, _ => none

/-- Whether a fact uses only what there is: variables that are declared in its method, operands
that are declared in some method, and operations. -/
@[mk_iff]
structure InScope
    (declared : String → String → Prop) (operation : String → Prop) (f : Fact) : Prop where
  used : ∀ e ∈ f.usedVariables, declared e.1 e.2
  operand : ∀ var ∈ f.operand?, ∃ method, declared var method
  operation : ∀ insn ∈ f.operation?, operation insn

theorem InScope.mono
    {declared declared' : String → String → Prop} {operation operation' : String → Prop}
    {f : Fact} (h : f.InScope declared operation)
    (hdeclared : ∀ var method, declared var method → declared' var method)
    (hoperation : ∀ insn, operation insn → operation' insn) :
    f.InScope declared' operation' where
  used e he := hdeclared _ _ (h.used e he)
  operand var hvar := by
    obtain ⟨method, hmethod⟩ := h.operand var hvar
    exact ⟨method, hdeclared _ _ hmethod⟩
  operation insn hinsn := hoperation _ (h.operation insn hinsn)

/-- Whether a journal holds a type and the declaring method of a variable. -/
def Declared (journal : List Fact) (var method : String) : Prop :=
  (∃ type, HasRow journal .varType [var, type]) ∧
    HasRow journal .varDeclaringMethod [var, method]

/-- Whether a journal holds a row of an operation. -/
def IsOperation (journal : List Fact) (insn : String) : Prop :=
  ∃ index var method, HasRow journal .assignBinop [insn, index, var, method]

theorem inScope_of_isScoped_eq_false
    {declared : String → String → Prop} {operation : String → Prop} {f : Fact}
    (h : f.relation.isScoped = false) : f.InScope declared operation := by
  have hused : f.usedVariables = [] := by
    unfold Fact.usedVariables
    split <;> simp_all [Relation.isScoped]
  have hoperand : f.operand? = none := by
    unfold Fact.operand?
    split <;> simp_all [Relation.isScoped]
  have hoperation : f.operation? = none := by
    unfold Fact.operation?
    split <;> simp_all [Relation.isScoped]
  exact ⟨by simp [hused], by simp [hoperand], by simp [hoperation]⟩

end Fact

/-! ## The discipline -/

/-- Whether a step writes nothing but what the known steps bring into scope. -/
def Step.InScope (known : List Step) : Step → Prop
  | write f => f.InScope
      (fun var method => ∃ type, declare var type method ∈ known)
      (fun insn => ∃ f index var method,
        write f ∈ known ∧ f.relation = .assignBinop ∧ f.row = [insn, index, var, method])
  | _ => True

/-- The discipline by which variables are declared before they are used. -/
def variableScope : Discipline where
  supports journal f := f.InScope (Fact.Declared journal) (Fact.IsOperation journal)
  ready := Step.InScope
  supports_mono := by
    intro journal later f h hle
    apply h.mono
    · rintro var method ⟨⟨type, htype⟩, hmethod⟩
      exact ⟨⟨type, htype.mono hle⟩, hmethod.mono hle⟩
    · rintro insn ⟨index, var, method, hrow⟩
      exact ⟨index, var, method, hrow.mono hle⟩
  ready_mono := by
    intro known later s h hle
    cases s with
    | write f =>
        apply Fact.InScope.mono h
        · rintro var method ⟨type, hmem⟩
          exact ⟨type, hle hmem⟩
        · rintro insn ⟨g, index, var, method, hmem, hrow⟩
          exact ⟨g, index, var, method, hle hmem, hrow⟩
    | _ => trivial
  supports_of_ready := by
    intro journal known s hleft hready types f hf
    by_cases htypes : f.relation.isAboutTypes = true
    · exact Fact.inScope_of_isScoped_eq_false (Relation.isScoped_of_isAboutTypes htypes)
    · rw [Step.mem_rows_run_iff (by simpa using htypes)] at hf
      subst hf
      apply Fact.InScope.mono hready
      · rintro var method ⟨type, hmem⟩
        exact hleft _ hmem
      · rintro insn ⟨g, index, var, method, hmem, hrow⟩
        exact ⟨index, var, method, g, hleft _ hmem, hrow⟩

@[simp] theorem ready_variableScope : variableScope.ready = Step.InScope := rfl

/-! ## Plans -/

namespace Encoding

/-- Rows without variables and operations can be written in any order. -/
theorem ordered_of_writesOnly
    {known steps : List Step} (h : ∀ s ∈ steps, s.WritesOnly (·.isScoped = false)) :
    variableScope.Ordered known steps := by
  induction steps generalizing known with
  | nil => trivial
  | cons s rest ih =>
      refine ⟨?_, ih fun s' hs' => h s' (List.mem_cons_of_mem s hs')⟩
      cases s with
      | write f => exact Fact.inScope_of_isScoped_eq_false (h (.write f) List.mem_cons_self)
      | _ => trivial

variable (settings : EncoderSettings) (m : MethodDecl) (i : Instruction) (dest : Local)

theorem ordered_stringAssignment (value : String) :
    variableScope.Ordered [] (stringAssignment settings m i dest value).plan.steps := by
  simp [stringAssignment, stringSteps, localStep, allocationRow, Encoding.ofSteps, Step.InScope,
    Fact.inScope_iff, Fact.usedVariables, Fact.operand?, Fact.operation?, Fact.of]

theorem ordered_nullAssignment :
    variableScope.Ordered [] (nullAssignment settings m i dest).plan.steps := by
  simp [nullAssignment, localStep, Encoding.ofSteps, Step.InScope, Fact.inScope_iff,
    Fact.usedVariables, Fact.operand?, Fact.operation?, Fact.of]

theorem ordered_numericAssignment (text : String) :
    variableScope.Ordered [] (numericAssignment settings m i dest text).plan.steps := by
  simp [numericAssignment, localStep, Encoding.ofSteps, Step.InScope, Fact.inScope_iff,
    Fact.usedVariables, Fact.operand?, Fact.operation?, Fact.of]

theorem ordered_classAssignment (literal : String) :
    variableScope.Ordered [] (classAssignment settings m i dest literal).plan.steps := by
  cases htype : literalType? literal with
  | none => simp [classAssignment, htype, Encoding.ofSteps, Step.InScope]
  | some type =>
      simp [classAssignment, htype, localStep, allocationRow, Encoding.ofSteps, Step.InScope,
        Fact.inScope_iff, Fact.usedVariables, Fact.operand?, Fact.operation?, Fact.of]

theorem ordered_handleAssignment (numbering : Numbering) (handle : String) :
    variableScope.Ordered []
      (handleAssignment settings numbering m i dest handle).plan.steps := by
  simp [handleAssignment, localStep, allocationRow, Encoding.ofSteps, Step.InScope,
    Fact.inScope_iff, Fact.usedVariables, Fact.operand?, Fact.operation?, Fact.of, or_imp,
    forall_and]

theorem ordered_binaryOperation (operator : Operator) (lhs rhs : Local) :
    variableScope.Ordered [] (binaryOperation settings m i dest operator lhs rhs).plan.steps := by
  simp [binaryOperation, localStep, Encoding.ofSteps, Step.InScope, Fact.inScope_iff,
    Fact.usedVariables, Fact.operand?, Fact.operation?, Fact.of, exists_or]

theorem ordered_returnValue (value : Local) :
    variableScope.Ordered [] (returnValue settings m i value).plan.steps := by
  simp [returnValue, localStep, Encoding.ofSteps, Step.InScope, Fact.inScope_iff,
    Fact.usedVariables, Fact.operand?, Fact.operation?, Fact.of]

theorem ordered_nativeReturn :
    variableScope.Ordered [] (nativeReturn settings m).plan.steps := by
  simp [nativeReturn, Encoding.ofSteps, Step.InScope, Fact.inScope_iff,
    Fact.usedVariables, Fact.operand?, Fact.operation?, Fact.of]

theorem ordered_receiver :
    variableScope.Ordered [] (receiver settings m).plan.steps := by
  simp [receiver, Encoding.ofSteps, Step.InScope, Fact.inScope_iff,
    Fact.usedVariables, Fact.operand?, Fact.operation?, Fact.of]

theorem ordered_formalParam (index : Nat) :
    variableScope.Ordered [] (formalParam settings m index).plan.steps := by
  cases hparam : m.params[index]? with
  | none => simp [formalParam, hparam, Encoding.ofSteps, Step.InScope]
  | some type =>
      simp [formalParam, hparam, paramSteps, Encoding.ofSteps, Step.InScope, Fact.inScope_iff,
        Fact.usedVariables, Fact.operand?, Fact.operation?, Fact.of]

theorem ordered_instruction (numbering : Numbering) :
    variableScope.Ordered [] (instruction settings numbering m i).steps := by
  unfold instruction
  cases i.operation with
  | constant dest value =>
      cases value with
      | string s => exact ordered_stringAssignment settings m i dest s
      | null => exact ordered_nullAssignment settings m i dest
      | numeric text => exact ordered_numericAssignment settings m i dest text
      | classLiteral literal => exact ordered_classAssignment settings m i dest literal
      | methodHandle handle => exact ordered_handleAssignment settings m i dest numbering handle
  | binary dest operator lhs rhs =>
      exact ordered_binaryOperation settings m i dest operator lhs rhs
  | returnValue value => exact ordered_returnValue settings m i value
  | returnVoid =>
      apply ordered_of_writesOnly
      simp [returnVoid, Encoding.ofSteps, Step.WritesOnly, Fact.of, Relation.isScoped]
  | unsupported opcode =>
      apply ordered_of_writesOnly
      simp [unsupportedInstruction, Encoding.ofSteps, Step.WritesOnly, Fact.of, Relation.isScoped]

theorem ordered_methodHeader : variableScope.Ordered [] (methodHeader settings m).steps := by
  simp only [methodHeader, Plan.steps_append, Plan.steps_flatMap]
  refine .append (.append (.append (.append (.append ?_ ?_) ?_) ?_) ?_) ?_
  · apply ordered_of_writesOnly
    simp [method, signatureStep, methodRow, Encoding.ofSteps, Step.WritesOnly, Fact.of,
      Relation.isScoped, or_imp, forall_and]
  · refine .flatMap fun modifier _ => ordered_of_writesOnly ?_
    simp [methodModifier, Encoding.ofSteps, Step.WritesOnly, Fact.of, Relation.isScoped]
  · split
    · trivial
    · exact ordered_receiver settings m
  · exact .flatMap fun index _ => ordered_formalParam settings m index
  · refine .flatMap fun exception _ => ordered_of_writesOnly ?_
    simp [declaredException, Encoding.ofSteps, Step.WritesOnly, Fact.of, Relation.isScoped]
  · split
    · exact ordered_nativeReturn settings m
    · trivial

theorem ordered_wholeMethod :
    variableScope.Ordered [] (wholeMethod settings m).plan.steps := by
  rw [plan_wholeMethod, Plan.steps_append, Plan.steps_flatMap]
  apply Discipline.Ordered.append
  · exact ordered_methodHeader settings m
  · exact .flatMap fun e _ => ordered_instruction settings m e.2 (.ofHandles e.1)

theorem ordered_wholeClass (c : ClassDecl) :
    variableScope.Ordered [] (wholeClass settings c).plan.steps := by
  simp only [wholeClass, Plan.steps_append, Plan.steps_flatMap, Plan.steps_within]
  refine .append (.append ?_ ?_) ?_
  · apply ordered_of_writesOnly
    intro s hs
    exact (writesOnly_classHeader c s hs).mono (by decide)
  · refine .flatMap fun f _ => ordered_of_writesOnly ?_
    intro s hs
    exact (writesOnly_wholeField c f s hs).mono (by decide)
  · exact .flatMap fun m _ => ordered_wholeMethod settings m

theorem ordered_wholeProgram (p : Program) :
    variableScope.Ordered [] (wholeProgram settings p).plan.steps := by
  simp only [wholeProgram, programClass, Plan.steps_append, Plan.steps_flatMap, Plan.steps_within]
  apply Discipline.Ordered.append
  · exact .flatMap fun c _ => ordered_wholeClass settings c
  · refine .flatMap fun q _ => ordered_of_writesOnly ?_
    intro s hs
    exact (writesOnly_property settings q s hs).mono (by decide)

end Encoding

/-- Whatever is called for, variables are declared before they are used. -/
theorem Call.ordered_plan (settings : EncoderSettings) (c : Call) :
    variableScope.Ordered [] (c.plan settings).steps := by
  cases c with
  | stringAssignment m i dest value =>
      exact Encoding.ordered_stringAssignment settings m i dest value
  | nullAssignment m i dest => exact Encoding.ordered_nullAssignment settings m i dest
  | numericAssignment m i dest text =>
      exact Encoding.ordered_numericAssignment settings m i dest text
  | classAssignment m i dest literal =>
      exact Encoding.ordered_classAssignment settings m i dest literal
  | handleAssignment numbering m i dest handle =>
      exact Encoding.ordered_handleAssignment settings m i dest numbering handle
  | binaryOperation m i dest operator lhs rhs =>
      exact Encoding.ordered_binaryOperation settings m i dest operator lhs rhs
  | returnValue m i value => exact Encoding.ordered_returnValue settings m i value
  | nativeReturn m => exact Encoding.ordered_nativeReturn settings m
  | receiver m => exact Encoding.ordered_receiver settings m
  | formalParam m index => exact Encoding.ordered_formalParam settings m index
  | instruction numbering m i => exact Encoding.ordered_instruction settings m i numbering
  | wholeMethod m => exact Encoding.ordered_wholeMethod settings m
  | wholeClass c => exact Encoding.ordered_wholeClass settings c
  | wholeProgram p => exact Encoding.ordered_wholeProgram settings p
  | _ =>
      apply Encoding.ordered_of_writesOnly
      intro s hs
      refine (writesOnly_plan settings _ s hs).mono ?_
      simp only [relations]
      decide

/-! ## Journals -/

/-- At every moment of a journal, whatever was called for and whatever failed, the variables that a
row uses have a type and are declared in its method, and the operation that a row adds to is
written. -/
theorem inScope_of_prefix_journal
    (settings : EncoderSettings) (cs : List Call) (pre : List Fact)
    (hpre : pre <+: ((Encoder.fresh settings true).calls cs).store.journal)
    (f : Fact) (hf : f ∈ pre) :
    f.InScope (Fact.Declared pre) (Fact.IsOperation pre) :=
  Discipline.supported_journal (fun c _ => c.ordered_plan settings) pre hpre f hf

/-- A method without parameters. -/
def bareMethod : MethodDecl where
  declaringClass := "A"
  name := "m"
  params := []
  returnType := .primitive .int
  modifiers := []
  declaredExceptions := []
  body := []

/-- The addition of a variable to itself. -/
def doubling : Instruction where
  index := 0
  line := none
  operation := .binary ⟨"x", .primitive .int⟩ .add ⟨"y", .primitive .int⟩ ⟨"y", .primitive .int⟩

/-- A call that fails, and one that writes an operation. -/
def scopeCalls : List Call :=
  [.returnValue bareMethod doubling ⟨"z", .unresolved "Z"⟩,
    .instruction .empty bareMethod doubling]

/-- The journal of these calls, without its last row. -/
def scopeJournal : List Fact :=
  [.of .varType ["<A: int m()>/x", "int"],
    .of .varDeclaringMethod ["<A: int m()>/x", "<A: int m()>"],
    .of .varType ["<A: int m()>/y", "int"],
    .of .varDeclaringMethod ["<A: int m()>/y", "<A: int m()>"],
    .of .varType ["<A: int m()>/y", "int"],
    .of .varDeclaringMethod ["<A: int m()>/y", "<A: int m()>"],
    .of .assignBinop ["<A: int m()>/binop/instruction0", "0", "<A: int m()>/x", "<A: int m()>"],
    .of .assignOperType ["<A: int m()>/binop/instruction0", "add"],
    .of .assignOperFrom ["<A: int m()>/binop/instruction0", "<A: int m()>/y"]]

theorem inScope_scopeJournal :
    scopeJournal <+: ((Encoder.fresh .standard true).calls scopeCalls).store.journal ∧
      ∀ f ∈ scopeJournal,
        f.InScope (Fact.Declared scopeJournal) (Fact.IsOperation scopeJournal) := by
  have hpre :
      scopeJournal <+: ((Encoder.fresh .standard true).calls scopeCalls).store.journal := by
    decide +kernel
  exact ⟨hpre, inScope_of_prefix_journal .standard scopeCalls scopeJournal hpre⟩

end ProgramFacts
