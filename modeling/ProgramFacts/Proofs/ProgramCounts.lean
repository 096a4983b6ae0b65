import Mathlib.Data.List.Dedup
import ProgramFacts.Proofs.BodyRows
import ProgramFacts.Proofs.JoinedText
import ProgramFacts.Proofs.ProgramSteps

/-!
# Statistics and the sizes of programs

The statistics of a program that is encoded with success are the numbers of its classes, fields,
methods, instructions and properties.  Each unsupported instruction is counted, but those with the
same method, opcode and index share a row, so that there may be fewer rows than the statistics say.
-/

namespace ProgramFacts

/-! ## Sums of statistics -/

namespace Encoding

theorem sum_wholeMethod (settings : EncoderSettings) (methods : List MethodDecl) :
    Statistics.sum (methods.map fun m => (wholeMethod settings m).answer) =
      { Statistics.zero with
        methods := methods.length
        instructions := (methods.flatMap MethodDecl.body).length
        unsupported := (methods.flatMap MethodDecl.body).countP Instruction.isUnsupported } := by
  induction methods with
  | nil => rfl
  | cons m methods ih =>
      have hsum : Statistics.sum ((m :: methods).map fun m => (wholeMethod settings m).answer) =
          (wholeMethod settings m).answer.add
            (Statistics.sum (methods.map fun m => (wholeMethod settings m).answer)) := rfl
      rw [hsum, ih]
      simp [wholeMethod, Statistics.add, Statistics.zero, Nat.add_comm 1]

theorem sum_wholeClass (settings : EncoderSettings) (classes : List ClassDecl) :
    Statistics.sum (classes.map fun c => (wholeClass settings c).answer) =
      { classes := classes.length
        fields := (classes.flatMap ClassDecl.fields).length
        methods := (classes.flatMap ClassDecl.methods).length
        instructions := ((classes.flatMap ClassDecl.methods).flatMap MethodDecl.body).length
        unsupported :=
          ((classes.flatMap ClassDecl.methods).flatMap MethodDecl.body).countP
            Instruction.isUnsupported
        properties := 0 } := by
  induction classes with
  | nil => rfl
  | cons c classes ih =>
      have hsum : Statistics.sum ((c :: classes).map fun c => (wholeClass settings c).answer) =
          (wholeClass settings c).answer.add
            (Statistics.sum (classes.map fun c => (wholeClass settings c).answer)) := rfl
      rw [hsum, ih, wholeClass, sum_wholeMethod]
      simp [Statistics.add, Statistics.zero, Nat.add_comm 1]

/-- The statistics of a program are the numbers of what it holds. -/
theorem answer_wholeProgram (settings : EncoderSettings) (p : Program) :
    (wholeProgram settings p).answer =
      { classes := p.classes.length
        fields := p.fields.length
        methods := p.methodCount
        instructions := p.instructionCount
        unsupported := p.instructions.countP Instruction.isUnsupported
        properties := p.properties.length } := by
  rw [wholeProgram, sum_wholeClass]
  simp [Statistics.add, Statistics.zero, Program.fields, Program.methodCount, Program.methods,
    Program.instructionCount, Program.instructions]

end Encoding

/-! ## Unsupported instructions -/

/-- The opcode of an instruction without a treatment of its own. -/
def Instruction.unsupportedOpcode? (i : Instruction) : Option String :=
  match i.operation with
  | .unsupported opcode => some opcode
  | _ => none

theorem Instruction.isUnsupported_eq (i : Instruction) :
    i.isUnsupported = i.unsupportedOpcode?.isSome := by
  unfold isUnsupported unsupportedOpcode?
  cases i.operation <;> rfl

/-- The identifier of its method, the opcode and the index of each unsupported instruction. -/
def Program.unsupported (settings : EncoderSettings) (p : Program) :
    List (String × String × UInt32) :=
  p.methods.flatMap fun m => m.body.filterMap fun i =>
    i.unsupportedOpcode?.map fun opcode => (m.id settings, opcode, i.index)

theorem Program.length_unsupported (settings : EncoderSettings) (p : Program) :
    (p.unsupported settings).length = p.instructions.countP Instruction.isUnsupported := by
  unfold unsupported instructions
  induction p.methods with
  | nil => rfl
  | cons m methods ih =>
      rw [List.flatMap_cons, List.flatMap_cons, List.length_append, List.countP_append, ih,
        List.length_filterMap_eq_countP]
      congr 2
      funext i
      rw [Option.isSome_map, Instruction.isUnsupported_eq]

/-- The row of an unsupported instruction: its identifier, its index, and the method. -/
def unsupportedRow : String × String × UInt32 → List String
  | (method, opcode, index) =>
    [method ++ "/unsupported " ++ opcode ++ "/instruction" ++ index.toNat.repr, index.toNat.repr,
      method]

/-- A row tells what instruction it is about: where the method and the index are known, what is left
of the identifier is the opcode, whatever characters it holds. -/
theorem unsupportedRow_injective : Function.Injective unsupportedRow := by
  rintro ⟨method, opcode, index⟩ ⟨method', opcode', index'⟩ h
  simp only [unsupportedRow, List.cons.injEq, and_true] at h
  obtain ⟨hid, hindex, rfl⟩ := h
  obtain rfl : index = index' := UInt32.toNat_inj.mp (Text.repr_injective hindex)
  have hopcode : opcode = opcode' := by simpa [String.append_assoc] using hid
  rw [hopcode]

theorem unsupportedRow_eq (method opcode : String) (index : UInt32) :
    unsupportedRow (method, opcode, index) =
      [method ++ "/" ++ ("unsupported " ++ opcode) ++ "/instruction" ++ index.toNat.repr,
        index.toNat.repr, method] := by
  have hid : method ++ "/unsupported " ++ opcode = method ++ "/" ++ ("unsupported " ++ opcode) := by
    rw [← String.toList_inj]
    simp
  rw [unsupportedRow, hid]

theorem Instruction.unsupportedInstruction_mem_bodyRows_iff
    {settings : EncoderSettings} {m : MethodDecl} {number : Nat} {i : Instruction}
    {row : List String} :
    (.unsupportedInstruction, row) ∈ i.bodyRows settings m number ↔
      ∃ opcode, i.unsupportedOpcode? = some opcode ∧
        row = unsupportedRow (m.id settings, opcode, i.index) := by
  unfold bodyRows unsupportedOpcode?
  cases hop : i.operation with
  | constant dest value =>
      cases value with
      | classLiteral literal => cases htype : TypeRef.ofDescriptor? literal <;> simp [htype]
      | _ => simp
  | unsupported opcode =>
      simp [unsupportedRow_eq]
  | _ => simp

section Successful

variable {settings : EncoderSettings} {journaled : Bool} {p : Program} {statistics : Statistics}

/-- Once a program is encoded, the relation of unsupported instructions has their rows. -/
theorem mem_facts_unsupportedInstruction_iff
    (h : ((Encoder.fresh settings journaled).generate p).result = .ok statistics)
    {row : List String} :
    row ∈ ((Encoder.fresh settings journaled).generate p).encoder.store.facts
        .unsupportedInstruction ↔
      row ∈ (p.unsupported settings).map unsupportedRow := by
  have hrefuse : ∀ e, Step.refuse e ∉ (Encoding.wholeProgram settings p).plan.steps := by
    intro e he
    exact (Plan.failure_run_eq_none_iff _ _).mp (Encoder.failure_run_of_generate_fresh h) _ he
  have hsteps {f : Fact} (hf : f.relation = .unsupportedInstruction) :
      Step.write f ∈ (Encoding.wholeProgram settings p).plan.steps ↔
        ∃ c ∈ p.classes, ∃ m ∈ c.methods, ∃ e ∈ m.numberedBody, ∃ opcode,
          e.2.unsupportedOpcode? = some opcode ∧
            f.row = unsupportedRow (m.id settings, opcode, e.2.index) := by
    have hbodies : f.relation.isAboutBodies = true := by rw [hf]; rfl
    rw [Encoding.write_mem_wholeProgram_iff hrefuse hbodies, hf]
    simp only [Instruction.unsupportedInstruction_mem_bodyRows_iff]
  have hmem : row ∈ (p.unsupported settings).map unsupportedRow ↔
      ∃ c ∈ p.classes, ∃ m ∈ c.methods, ∃ e ∈ m.numberedBody, ∃ opcode,
        e.2.unsupportedOpcode? = some opcode ∧
          row = unsupportedRow (m.id settings, opcode, e.2.index) := by
    simp only [Program.unsupported, Program.methods, List.mem_map, List.mem_flatMap,
      List.mem_filterMap, Option.map_eq_some_iff]
    constructor
    · rintro ⟨_, ⟨m, ⟨c, hc, hm⟩, i, hi, opcode, hopcode, rfl⟩, rfl⟩
      obtain ⟨k, hk⟩ := MethodDecl.mem_body_iff.mp hi
      exact ⟨c, hc, m, hm, (k, i), hk, opcode, hopcode, rfl⟩
    · rintro ⟨c, hc, m, hm, ⟨k, i⟩, hk, opcode, hopcode, rfl⟩
      exact ⟨_, ⟨m, ⟨c, hc, hm⟩, i, MethodDecl.mem_body_iff.mpr ⟨k, hk⟩, opcode, hopcode, rfl⟩, rfl⟩
  rw [Encoder.mem_facts_generate_fresh_iff h rfl, hmem]
  constructor
  · rintro ⟨f, hf, hrelation, rfl⟩
    exact (hsteps hrelation).mp hf
  · intro hrow
    have hlength : row.length = Relation.unsupportedInstruction.arity := by
      obtain ⟨c, -, m, -, e, -, opcode, -, rfl⟩ := hrow
      rfl
    exact ⟨⟨.unsupportedInstruction, row, hlength⟩, (hsteps rfl).mpr hrow, rfl, rfl⟩

/-- There is one row for each method, opcode and index. -/
theorem count_unsupportedInstruction
    (h : ((Encoder.fresh settings journaled).generate p).result = .ok statistics) :
    ((Encoder.fresh settings journaled).generate p).encoder.store.count .unsupportedInstruction =
      (p.unsupported settings).dedup.length := by
  have hperm :
      (((Encoder.fresh settings journaled).generate p).encoder.store.facts
        .unsupportedInstruction).Perm ((p.unsupported settings).dedup.map unsupportedRow) := by
    rw [List.perm_ext_iff_of_nodup (FactStore.nodup_facts _ _)
      ((List.nodup_dedup _).map unsupportedRow_injective)]
    intro row
    rw [mem_facts_unsupportedInstruction_iff h, List.mem_map, List.mem_map]
    simp only [List.mem_dedup]
  rw [FactStore.count, hperm.length_eq, List.length_map]

end Successful

/-! ## Main result -/

/-- If a program is encoded with success on a fresh encoder, the statistics are the numbers of its
classes, fields, methods, instructions, unsupported instructions and properties.  The relation of
unsupported instructions has one row for each method, opcode and index that an unsupported
instruction has: never more rows than the statistics count, and as many exactly if no two of these
instructions have the same. -/
theorem statistics_eq_of_generate
    {settings : EncoderSettings} {journaled : Bool} {p : Program} {statistics : Statistics}
    (h : ((Encoder.fresh settings journaled).generate p).result = .ok statistics) :
    let rows :=
      ((Encoder.fresh settings journaled).generate p).encoder.store.count .unsupportedInstruction
    statistics.classes = p.classes.length ∧
    statistics.fields = p.fields.length ∧
    statistics.methods = p.methodCount ∧
    statistics.instructions = p.instructionCount ∧
    statistics.unsupported = p.instructions.countP Instruction.isUnsupported ∧
    statistics.properties = p.properties.length ∧
    rows = (p.unsupported settings).dedup.length ∧
    (rows = statistics.unsupported ↔ (p.unsupported settings).Nodup) ∧
    rows ≤ statistics.unsupported := by
  intro rows
  have hrows : rows = (p.unsupported settings).dedup.length := count_unsupportedInstruction h
  have hanswer : (Encoding.wholeProgram settings p).answer = statistics :=
    ((Encoder.result_perform_eq_ok_iff _ _ _).mp h).2
  rw [Encoding.answer_wholeProgram] at hanswer
  subst hanswer
  refine ⟨rfl, rfl, rfl, rfl, rfl, rfl, hrows, ?_, ?_⟩
  · rw [hrows, ← Program.length_unsupported settings p]
    constructor
    · intro hlength
      have hsame := (List.dedup_sublist (p.unsupported settings)).eq_of_length hlength
      exact List.dedup_eq_self.mp hsame
    · intro hnodup
      rw [hnodup.dedup]
  · rw [hrows, ← Program.length_unsupported settings p]
    exact (List.dedup_sublist _).length_le

/-- A method with unsupported instructions: two that are the same but for their lines, and one whose
opcode looks like the end of their identifier. -/
def unsupportedMethod : MethodDecl where
  declaringClass := "A"
  name := "m"
  params := []
  returnType := .primitive .void
  modifiers := [.static]
  declaredExceptions := []
  body :=
    [⟨0, none, .unsupported "nop"⟩, ⟨0, some 7, .unsupported "nop"⟩,
      ⟨0, none, .unsupported "nop/instruction0"⟩, ⟨1, none, .returnVoid⟩]

/-- A program with one method, which has unsupported instructions. -/
def unsupportedProgram : Program where
  classes := [⟨"A", false, none, [], [], [], [unsupportedMethod], true, none⟩]
  properties := [⟨"p", "k", "v"⟩]

/-- Three unsupported instructions, two of which share a row. -/
theorem statistics_eq_of_generate_unsupportedProgram :
    let generated := (Encoder.fresh .standard false).generate unsupportedProgram
    let rows := generated.encoder.store.count .unsupportedInstruction
    generated.result = .ok ⟨1, 0, 1, 4, 3, 1⟩ ∧
      unsupportedProgram.instructionCount = 4 ∧
      rows = (unsupportedProgram.unsupported .standard).dedup.length ∧
      ¬ (unsupportedProgram.unsupported .standard).Nodup ∧ rows = 2 := by
  intro generated rows
  have hresult : generated.result = .ok ⟨1, 0, 1, 4, 3, 1⟩ := by decide +kernel
  obtain ⟨-, -, -, hinstructions, -, -, hrows, hnodup, -⟩ := statistics_eq_of_generate hresult
  have htwo : (unsupportedProgram.unsupported .standard).dedup.length = 2 := by decide +kernel
  refine ⟨hresult, hinstructions.symm, hrows, ?_, hrows.trans htwo⟩
  rw [← hnodup]
  intro hthree
  exact absurd (htwo.symm.trans (hrows.symm.trans hthree)) (by decide)

end ProgramFacts
