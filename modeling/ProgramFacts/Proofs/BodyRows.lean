import ProgramFacts.Proofs.Descriptor
import ProgramFacts.Proofs.WrittenRelations

/-!
# The rows of method bodies

The schema assigns rows to each kind of instruction.  Once a program is encoded on a fresh encoder,
the relations about instructions hold the rows of all instructions of all its methods, and nothing
else.
-/

namespace ProgramFacts

/-- Whether only instructions write rows to a relation. -/
def Relation.isAboutBodies : Relation → Bool
  | assignHeapAlloc | assignNull | assignNumConst | assignLocal | assignBinop | assignOperType
  | assignOperFrom | returnValue | returnVoid | unsupportedInstruction
  | methodHandleConstant => true
  | _ => false

theorem Relation.isAboutTypes_of_isAboutBodies {r : Relation} (h : r.isAboutBodies = true) :
    r.isAboutTypes = false := by
  revert h
  cases r <;> decide

/-- The rows that the schema assigns to an instruction of a method in the relations about
instructions, if `number` method handles precede it in the body. -/
def Instruction.bodyRows
    (settings : EncoderSettings) (m : MethodDecl) (number : Nat) (i : Instruction) :
    List (Relation × List String) :=
  let method := m.id settings
  let insn (label : String) := method ++ "/" ++ label ++ "/instruction" ++ i.index.toNat.repr
  let index := i.index.toNat.repr
  let line := (i.line.getD 0).toNat.repr
  let var (name : String) := method ++ "/" ++ name
  match i.operation with
  | .constant dest (.string s) =>
    [(.assignHeapAlloc,
      [insn "assign-string", index, settings.stringId s, var dest.name, method, line])]
  | .constant dest .null => [(.assignNull, [insn "assign-null", index, var dest.name, method])]
  | .constant dest (.numeric text) =>
    [(.assignNumConst, [insn "assign-num", index, text, var dest.name, method])]
  | .constant dest (.classLiteral literal) =>
    match TypeRef.ofDescriptor? literal with
    | none => []
    | some type =>
      [(.assignHeapAlloc,
        [insn "assign-class", index, "<class " ++ type.name ++ ">", var dest.name, method, line])]
  | .constant dest (.methodHandle handle) =>
    let heap := "<handle " ++ handle ++ ">"
    let temp := var ("$mhandleconstant" ++ number.repr)
    [(.methodHandleConstant, [heap, handle]),
      (.assignHeapAlloc, [insn "assign-handle", index, heap, temp, method, line]),
      (.assignLocal, [insn "assign-handle", index, temp, var dest.name, method])]
  | .binary dest operator lhs rhs =>
    [(.assignBinop, [insn "binop", index, var dest.name, method]),
      (.assignOperType, [insn "binop", operator.name]),
      (.assignOperFrom, [insn "binop", var lhs.name]),
      (.assignOperFrom, [insn "binop", var rhs.name])]
  | .returnValue value => [(.returnValue, [insn "return", index, var value.name, method])]
  | .returnVoid => [(.returnVoid, [insn "return-void", index, method])]
  | .unsupported opcode =>
    [(.unsupportedInstruction, [insn ("unsupported " ++ opcode), index, method])]

theorem Instruction.length_of_mem_bodyRows
    {settings : EncoderSettings} {m : MethodDecl} {number : Nat} {i : Instruction}
    {r : Relation} {row : List String}
    (h : (r, row) ∈ i.bodyRows settings m number) :
    row.length = r.arity := by
  have harity : ∀ e ∈ i.bodyRows settings m number, e.2.length = e.1.arity := by
    unfold bodyRows
    cases i.operation with
    | constant dest value =>
        cases value with
        | classLiteral literal =>
            cases htype : TypeRef.ofDescriptor? literal <;>
              simp [htype, Relation.arity, Relation.entry]
        | _ => simp [Relation.arity, Relation.entry]
    | _ => simp [Relation.arity, Relation.entry]
  exact harity _ h

namespace Encoding

/-- An instruction that is not refused writes its rows. -/
theorem write_mem_instruction_iff
    {settings : EncoderSettings} {m : MethodDecl} {number : Nat} {i : Instruction}
    (hrefuse : ∀ e, Step.refuse e ∉ (instruction settings (.ofHandles number) m i).steps)
    {f : Fact} (hf : f.relation.isAboutBodies = true) :
    Step.write f ∈ (instruction settings (.ofHandles number) m i).steps ↔
      (f.relation, f.row) ∈ i.bodyRows settings m number := by
  have hno : ∀ r : Relation, r.isAboutBodies = false → f.relation ≠ r := by
    rintro r hr rfl
    simp [hf] at hr
  unfold instruction at hrefuse ⊢
  unfold Instruction.bodyRows
  cases hop : i.operation with
  | constant dest value =>
      cases value with
      | string s =>
          simp [stringAssignment, stringSteps, localStep, allocationRow, localId, Encoding.ofSteps,
            Fact.eq_iff, Fact.of, Instruction.id, Operation.label, hop, Instruction.lineNumber,
            hno .stringRaw rfl, hno .stringConst rfl]
      | null =>
          simp [nullAssignment, localStep, localId, Encoding.ofSteps, Fact.eq_iff, Fact.of,
            Instruction.id, Operation.label, hop]
      | numeric text =>
          simp [numericAssignment, localStep, localId, Encoding.ofSteps, Fact.eq_iff, Fact.of,
            Instruction.id, Operation.label, hop]
      | classLiteral literal =>
          cases htype : literalType? literal with
          | none =>
              simp [hop, classAssignment, htype, Encoding.ofSteps] at hrefuse
          | some type =>
              have hdescriptor := (literalType?_eq_some_iff.mp htype).1
              simp [classAssignment, htype, hdescriptor, localStep, allocationRow, localId,
                classObjectId, Encoding.ofSteps, Fact.eq_iff, Fact.of, Instruction.id,
                Operation.label, hop, Instruction.lineNumber, hno .classHeap rfl]
      | methodHandle handle =>
          simp only [handleAssignment, Numbering.next_ofHandles]
          simp [handleTemp, localStep, allocationRow, localId, handleId, handleLocal,
            Encoding.ofSteps, Fact.eq_iff, Fact.of, Instruction.id, Operation.label, hop,
            Instruction.lineNumber]
  | binary dest operator lhs rhs =>
      simp [binaryOperation, localStep, localId, Encoding.ofSteps, Fact.eq_iff, Fact.of,
        Instruction.id, Operation.label, hop]
  | returnValue value =>
      simp [returnValue, localStep, localId, Encoding.ofSteps, Fact.eq_iff, Fact.of,
        Instruction.id, Operation.label, hop]
  | returnVoid =>
      simp [returnVoid, Encoding.ofSteps, Fact.eq_iff, Fact.of, Instruction.id, Operation.label,
        hop]
  | unsupported opcode =>
      simp [unsupportedInstruction, Encoding.ofSteps, Fact.eq_iff, Fact.of, Instruction.id,
        Operation.label, hop]

/-- The instructions of a program write its rows about bodies, and its other parts write none. -/
theorem write_mem_wholeProgram_iff
    {settings : EncoderSettings} {p : Program}
    (hrefuse : ∀ e, Step.refuse e ∉ (wholeProgram settings p).plan.steps)
    {f : Fact} (hf : f.relation.isAboutBodies = true) :
    Step.write f ∈ (wholeProgram settings p).plan.steps ↔
      ∃ c ∈ p.classes, ∃ m ∈ c.methods, ∃ e ∈ m.numberedBody,
        (f.relation, f.row) ∈ e.2.bodyRows settings m e.1 := by
  have hno {steps : List Step} {relations : List Relation}
      (hwrites : ∀ s ∈ steps, s.WritesOnly (· ∈ relations))
      (hother : ∀ r ∈ relations, r.isAboutBodies = false) :
      Step.write f ∉ steps := by
    intro hmem
    simp [hother f.relation (hwrites _ hmem)] at hf
  have hinstruction {c : ClassDecl} {m : MethodDecl} {e : Nat × Instruction}
      (hc : c ∈ p.classes) (hm : m ∈ c.methods) (he : e ∈ m.numberedBody) :
      Step.write f ∈ (instruction settings (.ofHandles e.1) m e.2).steps ↔
        (f.relation, f.row) ∈ e.2.bodyRows settings m e.1 := by
    apply write_mem_instruction_iff _ hf
    intro error herror
    exact hrefuse error
      (mem_steps_wholeProgram.mpr (Or.inl ⟨c, hc, Or.inr (Or.inr ⟨m, hm, Or.inr ⟨e, he, herror⟩⟩)⟩))
  rw [mem_steps_wholeProgram]
  constructor
  · rintro (⟨c, hc, h | ⟨field, -, h⟩ | ⟨m, hm, h | ⟨e, he, h⟩⟩⟩ | ⟨q, -, h⟩)
    · exact absurd h (hno (writesOnly_classHeader c) (by decide))
    · exact absurd h (hno (writesOnly_wholeField c field) (by decide))
    · exact absurd h (hno (writesOnly_methodHeader settings m) (by decide))
    · exact ⟨c, hc, m, hm, e, he, (hinstruction hc hm he).mp h⟩
    · exact absurd h (hno (writesOnly_property settings q) (by decide))
  · rintro ⟨c, hc, m, hm, e, he, h⟩
    exact Or.inl ⟨c, hc, Or.inr (Or.inr ⟨m, hm, Or.inr ⟨e, he, (hinstruction hc hm he).mpr h⟩⟩)⟩

end Encoding

/-! ## Encoded programs -/

end ProgramFacts
