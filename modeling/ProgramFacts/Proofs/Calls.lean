import ProgramFacts.Encoder
import ProgramFacts.Proofs.FactStore
import ProgramFacts.Proofs.Run

/-!
# Sequences of calls

An encoder can be asked to encode single types, constants, declarations, variables and
instructions, and whole methods, classes and programs, in any order and with any arguments.  A
state that can come about is the state after some sequence of such calls on a fresh encoder.
-/

namespace ProgramFacts

/-- What an encoder can be asked to do. -/
inductive Call where
  | stringConstant (s : String)
  | signature (s : String)
  | signatureId (s : String)
  | typeId (type : TypeRef)
  | classTypeId (name : String)
  | methodId (m : MethodDecl)
  | method (m : MethodDecl)
  | field (f : FieldDecl)
  | classOrInterface (c : ClassDecl)
  | superclass (c : ClassDecl) (super : String)
  | superinterface (c : ClassDecl) (super : String)
  | fieldModifier (f : FieldDecl) (modifier : Modifier)
  | classModifier (c : ClassDecl) (modifier : Modifier)
  | methodModifier (m : MethodDecl) (modifier : Modifier)
  | applicationClass (c : ClassDecl)
  | classArtifact (c : ClassDecl) (artifact : String)
  | property (p : Property)
  | localVariable (m : MethodDecl) (l : Local)
  | variableIn (scope : String) (l : Local)
  | stringAssignment (m : MethodDecl) (i : Instruction) (dest : Local) (value : String)
  | nullAssignment (m : MethodDecl) (i : Instruction) (dest : Local)
  | numericAssignment (m : MethodDecl) (i : Instruction) (dest : Local) (text : String)
  | classAssignment (m : MethodDecl) (i : Instruction) (dest : Local) (literal : String)
  | handleAssignment
      (numbering : Numbering) (m : MethodDecl) (i : Instruction) (dest : Local) (handle : String)
  | binaryOperation
      (m : MethodDecl) (i : Instruction) (dest : Local) (operator : Operator) (lhs rhs : Local)
  | returnValue (m : MethodDecl) (i : Instruction) (value : Local)
  | returnVoid (m : MethodDecl) (i : Instruction)
  | nativeReturn (m : MethodDecl)
  | receiver (m : MethodDecl)
  | formalParam (m : MethodDecl) (index : Nat)
  | declaredException (m : MethodDecl) (exception : TypeRef)
  | unsupportedInstruction (m : MethodDecl) (i : Instruction)
  | instruction (numbering : Numbering) (m : MethodDecl) (i : Instruction)
  | wholeMethod (m : MethodDecl)
  | wholeClass (c : ClassDecl)
  | wholeProgram (p : Program)

/-- What an encoder answers to a call that succeeds. -/
inductive Answer where
  | done
  | text (s : String)
  /-- Whether the instruction has a treatment of its own. -/
  | instruction (treated : Bool)
  | statistics (s : Statistics)
  deriving DecidableEq

/-- The same steps with an answer that is computed from the answer. -/
def Encoding.map {α β : Type} (f : α → β) (x : Encoding α) : Encoding β :=
  ⟨x.plan, f x.answer⟩

namespace Call

def encoding (settings : EncoderSettings) : Call → Encoding Answer
  | stringConstant s => (Encoding.stringConstant settings s).map .text
  | signature s => (Encoding.signature settings s).map .text
  | signatureId s => .ofSteps [] (.text (settings.signatureId s))
  | typeId type => (Encoding.typeId type).map .text
  | classTypeId name => (Encoding.classTypeId name).map .text
  | methodId m => .ofSteps [] (.text (m.id settings))
  | method m => (Encoding.method settings m).map .text
  | field f => (Encoding.field f).map .text
  | classOrInterface c => (Encoding.classOrInterface c).map .text
  | superclass c super => (Encoding.superclass c super).map fun _ => .done
  | superinterface c super => (Encoding.superinterface c super).map fun _ => .done
  | fieldModifier f modifier => (Encoding.fieldModifier f modifier).map fun _ => .done
  | classModifier c modifier => (Encoding.classModifier c modifier).map fun _ => .done
  | methodModifier m modifier => (Encoding.methodModifier settings m modifier).map fun _ => .done
  | applicationClass c => (Encoding.applicationClass c).map fun _ => .done
  | classArtifact c artifact => (Encoding.classArtifact c artifact).map fun _ => .done
  | property p => (Encoding.property settings p).map fun _ => .done
  | localVariable m l => (Encoding.localVariable settings m l).map .text
  | variableIn scope l => (Encoding.variableIn scope l).map .text
  | stringAssignment m i dest value =>
    (Encoding.stringAssignment settings m i dest value).map .text
  | nullAssignment m i dest => (Encoding.nullAssignment settings m i dest).map fun _ => .done
  | numericAssignment m i dest text =>
    (Encoding.numericAssignment settings m i dest text).map fun _ => .done
  | classAssignment m i dest literal =>
    (Encoding.classAssignment settings m i dest literal).map .text
  | handleAssignment numbering m i dest handle =>
    (Encoding.handleAssignment settings numbering m i dest handle).map .text
  | binaryOperation m i dest operator lhs rhs =>
    (Encoding.binaryOperation settings m i dest operator lhs rhs).map fun _ => .done
  | returnValue m i value => (Encoding.returnValue settings m i value).map fun _ => .done
  | returnVoid m i => (Encoding.returnVoid settings m i).map fun _ => .done
  | nativeReturn m => (Encoding.nativeReturn settings m).map .text
  | receiver m => (Encoding.receiver settings m).map .text
  | formalParam m index => (Encoding.formalParam settings m index).map .text
  | declaredException m exception =>
    (Encoding.declaredException settings m exception).map fun _ => .done
  | unsupportedInstruction m i => (Encoding.unsupportedInstruction settings m i).map .text
  | instruction numbering m i =>
    ⟨Encoding.instruction settings numbering m i, .instruction !i.isUnsupported⟩
  | wholeMethod m => (Encoding.wholeMethod settings m).map .statistics
  | wholeClass c => (Encoding.wholeClass settings c).map .statistics
  | wholeProgram p => (Encoding.wholeProgram settings p).map .statistics

def plan (settings : EncoderSettings) (c : Call) : Plan :=
  (c.encoding settings).plan

end Call

namespace Encoder

theorem result_perform_eq_ok_iff {α : Type} (e : Encoder) (x : Encoding α) (answer : α) :
    (e.perform x).result = .ok answer ↔
      (Plan.run e.types x.plan).failure = none ∧ x.answer = answer := by
  unfold perform
  cases h : (Plan.run e.types x.plan).failure <;> simp [h]

theorem result_perform_eq_error_iff
    {α : Type} (e : Encoder) (x : Encoding α) (error : EncodeError) :
    (e.perform x).result = .error error ↔ (Plan.run e.types x.plan).failure = some error := by
  unfold perform
  cases h : (Plan.run e.types x.plan).failure <;> simp [h]

@[simp] theorem accepted_perform {α : Type} (e : Encoder) (x : Encoding α) :
    (e.perform x).encoder.store.accepted.toList =
      e.store.accepted.toList ++ (Plan.run e.types x.plan).rows :=
  FactStore.toList_accepted_addAll _ _

theorem failure_run_of_generate_fresh
    {settings : EncoderSettings} {journaled : Bool} {p : Program} {statistics : Statistics}
    (h : ((fresh settings journaled).generate p).result = .ok statistics) :
    (Plan.run .empty (Encoding.wholeProgram settings p).plan).failure = none :=
  ((result_perform_eq_ok_iff _ _ _).mp h).1

/-- After a program is encoded with success on a fresh encoder, a relation that is not about types
has the rows that the steps of the program write to it. -/
theorem mem_facts_generate_fresh_iff
    {settings : EncoderSettings} {journaled : Bool} {p : Program} {statistics : Statistics}
    (h : ((fresh settings journaled).generate p).result = .ok statistics)
    {r : Relation} (hr : r.isAboutTypes = false) {row : List String} :
    row ∈ ((fresh settings journaled).generate p).encoder.store.facts r ↔
      ∃ f, Step.write f ∈ (Encoding.wholeProgram settings p).plan.steps ∧
        f.relation = r ∧ f.row = row := by
  have haccepted : ((fresh settings journaled).generate p).encoder.store.accepted.toList =
      (Plan.run .empty (Encoding.wholeProgram settings p).plan).rows := accepted_perform _ _
  rw [FactStore.mem_facts_iff, haccepted,
    ← Plan.taken_eq_steps (failure_run_of_generate_fresh h)]
  constructor
  · rintro ⟨f, hf, rfl, hrow⟩
    exact ⟨f, (Plan.mem_rows_run_iff hr).mp hf, rfl, hrow⟩
  · rintro ⟨f, hf, rfl, hrow⟩
    exact ⟨f, (Plan.mem_rows_run_iff hr).mpr hf, rfl, hrow⟩

/-- Performs what a call asks for. -/
def call (e : Encoder) (c : Call) : Performed Answer :=
  e.perform (c.encoding e.settings)

/-- Performs the calls of a list in order, whether they succeed or fail. -/
def calls (e : Encoder) (cs : List Call) : Encoder :=
  cs.foldl (fun e c => (e.call c).encoder) e

@[simp] theorem calls_cons (e : Encoder) (c : Call) (cs : List Call) :
    e.calls (c :: cs) = (e.call c).encoder.calls cs := rfl

theorem run_call (e : Encoder) (c : Call) :
    (e.call c).run = Plan.run e.types (c.plan e.settings) := rfl

@[simp] theorem types_call (e : Encoder) (c : Call) :
    (e.call c).encoder.types = (Plan.run e.types (c.plan e.settings)).types := rfl

@[simp] theorem accepted_call (e : Encoder) (c : Call) :
    (e.call c).encoder.store.accepted.toList =
      e.store.accepted.toList ++ (Plan.run e.types (c.plan e.settings)).rows :=
  FactStore.toList_accepted_addAll _ _

@[simp] theorem journaled_call (e : Encoder) (c : Call) :
    (e.call c).encoder.store.journaled = e.store.journaled :=
  FactStore.journaled_addAll _ _

theorem calls_append (e : Encoder) (cs cs' : List Call) :
    e.calls (cs ++ cs') = (e.calls cs).calls cs' :=
  List.foldl_append

/-- What every call keeps, a sequence of calls keeps. -/
theorem calls_invariant
    (invariant : Encoder → Prop)
    (hcall : ∀ e c, invariant e → invariant (e.call c).encoder)
    {e : Encoder} (h : invariant e) (cs : List Call) :
    invariant (e.calls cs) := by
  induction cs generalizing e with
  | nil => exact h
  | cons c cs ih => exact ih (hcall e c h)

@[simp] theorem settings_calls (e : Encoder) (cs : List Call) :
    (e.calls cs).settings = e.settings :=
  calls_invariant (fun later => later.settings = e.settings) (fun _ _ h => h) rfl cs

@[simp] theorem journaled_calls (e : Encoder) (cs : List Call) :
    (e.calls cs).store.journaled = e.store.journaled :=
  calls_invariant (fun later => later.store.journaled = e.store.journaled)
    (fun later c h => (journaled_call later c).trans h) rfl cs

end Encoder
end ProgramFacts
