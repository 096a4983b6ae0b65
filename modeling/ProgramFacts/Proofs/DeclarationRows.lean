import ProgramFacts.Proofs.WrittenRelations

/-!
# The rows of declarations

The schema assigns rows to each class, field, method and property.  Once a program is encoded on a
fresh encoder, the relations about declarations hold the rows of all that the program declares, and
nothing else.
-/

namespace ProgramFacts

/-! ## Rows that steps write by themselves -/

namespace Step

/-- The row that a step writes, if it does nothing else, with its relation. -/
def written? : Step → Option (Relation × List String)
  | write f => some (f.relation, f.row)
  | _ => none

/-- The rows that some steps write, in order, apart from the rows of types and variables. -/
def written (list : List Step) : List (Relation × List String) :=
  list.filterMap written?

@[simp] theorem written_nil : written [] = [] := rfl

@[simp] theorem written_write (f : Fact) (list : List Step) :
    written (write f :: list) = (f.relation, f.row) :: written list := rfl

@[simp] theorem written_mention (type : TypeRef) (list : List Step) :
    written (mention type :: list) = written list := rfl

@[simp] theorem written_declare
    (var : String) (type : TypeRef) (method : String) (list : List Step) :
    written (declare var type method :: list) = written list := rfl

@[simp] theorem written_draw (basename : String) (list : List Step) :
    written (draw basename :: list) = written list := rfl

@[simp] theorem written_append (first second : List Step) :
    written (first ++ second) = written first ++ written second :=
  List.filterMap_append

@[simp] theorem written_flatMap {α : Type} (items : List α) (steps : α → List Step) :
    written (items.flatMap steps) = items.flatMap fun a => written (steps a) :=
  List.filterMap_flatMap

theorem mem_written_iff {list : List Step} {r : Relation} {row : List String} :
    (r, row) ∈ written list ↔ ∃ f, write f ∈ list ∧ f.relation = r ∧ f.row = row := by
  rw [written, List.mem_filterMap]
  constructor
  · rintro ⟨s, hs, hrow⟩
    cases s with
    | write f =>
        obtain ⟨rfl, rfl⟩ : f.relation = r ∧ f.row = row := by simpa [written?] using hrow
        exact ⟨f, hs, rfl, rfl⟩
    | _ => cases hrow
  · rintro ⟨f, hf, rfl, rfl⟩
    exact ⟨write f, hf, rfl⟩

end Step

/-! ## The rows of declarations -/

/-- The rows that the schema assigns to a class apart from its members. -/
def ClassDecl.rows (c : ClassDecl) : Relation → List (List String)
  | .classType => if c.isInterface then [] else [[c.name]]
  | .interfaceType => if c.isInterface then [[c.name]] else []
  | .classHeap => [["<class " ++ c.name ++ ">", c.name]]
  | .directSuperClass => c.superclass.toList.map fun super => [c.name, super]
  | .directSuperIface => c.interfaces.map fun super => [c.name, super]
  | .classModifier => c.modifiers.map fun modifier => [modifier.name, c.name]
  | .appClass => if c.application then [[c.name]] else []
  | .classArtifact => c.artifact.toList.map fun artifact => [artifact, c.name]
  | _ => []

/-- The rows that the schema assigns to a field. -/
def FieldDecl.rows (f : FieldDecl) (r : Relation) : List (List String) :=
  let id := "<" ++ f.declaringClass ++ ": " ++ f.type.name ++ " " ++ f.name ++ ">"
  match r with
  | .fieldSignature => [[id, f.declaringClass, f.name, f.type.name]]
  | .fieldModifier => f.modifiers.map fun modifier => [modifier.name, id]
  | _ => []

/-- The rows that the schema assigns to a method apart from its body. -/
def MethodDecl.rows (settings : EncoderSettings) (m : MethodDecl) (r : Relation) :
    List (List String) :=
  let params := String.intercalate "," (m.params.map TypeRef.name)
  let signature :=
    "<" ++ m.declaringClass ++ ": " ++ m.returnType.name ++ " " ++ m.name ++ "(" ++ params ++ ")>"
  let id := settings.signatureId signature
  match r with
  | .stringRaw => [[id, signature]]
  | .method =>
    [[id, m.name, m.returnType.name ++ "(" ++ params ++ ")", m.declaringClass, m.returnType.name,
      "(" ++ String.join (m.params.map TypeRef.descriptor) ++ ")" ++ m.returnType.descriptor]]
  | .methodModifier => m.modifiers.map fun modifier => [modifier.name, id]
  | .thisVar => if .static ∈ m.modifiers then [] else [[id, id ++ "/@this"]]
  | .formalParam =>
    (List.range m.params.length).map fun index =>
      [index.repr, id, id ++ "/@parameter" ++ index.repr]
  | .methodDeclException => m.declaredExceptions.map fun exception => [exception.name, id]
  | .nativeReturnVar => if .native ∈ m.modifiers then [[id ++ "/@native-return", id]] else []
  | _ => []

/-- The rows that the schema assigns to a property, each part of which is a string constant. -/
def Property.rows (settings : EncoderSettings) (q : Property) : Relation → List (List String)
  | .stringRaw => [q.path, q.key, q.value].map fun s => [settings.stringId s, settings.rawString s]
  | .stringConst => [q.path, q.key, q.value].map fun s => [settings.stringId s]
  | .properties => [[settings.stringId q.path, settings.stringId q.key, settings.stringId q.value]]
  | _ => []

/-- The fields of all classes. -/
def Program.fields (p : Program) : List FieldDecl :=
  p.classes.flatMap ClassDecl.fields

/-- The rows that the schema assigns to what a program declares. -/
def Program.declaredRows (settings : EncoderSettings) (p : Program) (r : Relation) :
    List (List String) :=
  (p.classes.flatMap fun c => c.rows r) ++ (p.fields.flatMap fun f => f.rows r) ++
    (p.methods.flatMap fun m => m.rows settings r) ++
      p.properties.flatMap fun q => q.rows settings r

/-! ## The steps of declarations -/

namespace Encoding

theorem mem_written_classHeader_iff {c : ClassDecl} {r : Relation} {row : List String} :
    (r, row) ∈ Step.written (classHeader c).steps ↔ row ∈ c.rows r := by
  have hkind : r = (classKindRow c).relation ∧ row = (classKindRow c).row ↔
      row = [c.name] ∧
        (r = .interfaceType ∧ c.isInterface = true ∨ r = .classType ∧ c.isInterface = false) := by
    cases hinterface : c.isInterface <;> simp [classKindRow, hinterface, Fact.of, and_comm]
  rw [steps_classHeader]
  simp only [Step.written_append, Step.written_write, Step.written_nil, Step.written_flatMap,
    List.map_eq_flatMap, apply_ite Step.written, List.mem_append, List.mem_cons, List.mem_flatMap,
    List.not_mem_nil, or_false, Prod.mk.injEq, hkind, Fact.of]
  cases r with
  | classType =>
      -- every modifier repeats the row of the class's kind
      grind [ClassDecl.rows]
  | interfaceType => grind [ClassDecl.rows]
  | _ => simp [ClassDecl.rows, classObjectId, List.map_eq_flatMap]

theorem mem_written_wholeField_iff
    {c : ClassDecl} {f : FieldDecl} {r : Relation} {row : List String} :
    (r, row) ∈ Step.written (wholeField c f).steps ↔ row ∈ f.rows r := by
  rw [steps_wholeField]
  simp only [Step.written_append, Step.written_mention, Step.written_write, Step.written_nil,
    Step.written_flatMap, List.map_eq_flatMap, List.mem_append, List.mem_cons, List.mem_flatMap,
    List.not_mem_nil, or_false, Prod.mk.injEq, Fact.of]
  cases r <;> simp [FieldDecl.rows, FieldDecl.signature, List.map_eq_flatMap]

theorem written_paramSteps (method : String) (types : List TypeRef) :
    Step.written (types.zipIdx.flatMap fun e => paramSteps method e.2 e.1) =
      (List.range types.length).map fun index =>
        (.formalParam, [index.repr, method, method ++ "/@parameter" ++ index.repr]) := by
  have hrange : List.range types.length = types.zipIdx.map Prod.snd := by
    rw [List.zipIdx_map_snd, List.range_eq_range']
  -- the type of a parameter is declared, but only its index is written
  rw [hrange, List.map_map, Step.written_flatMap, List.map_eq_flatMap]
  rfl

theorem mem_written_methodHeader_iff
    {settings : EncoderSettings} {m : MethodDecl} {r : Relation} {row : List String} :
    (r, row) ∈ Step.written (methodHeader settings m).steps ↔ row ∈ m.rows settings r := by
  rw [steps_methodHeader]
  -- the steps of the parameters are rewritten before their list is opened
  simp only [Step.written_append, written_paramSteps]
  simp only [Step.written_mention, Step.written_write, Step.written_declare, Step.written_nil,
    Step.written_flatMap, List.map_eq_flatMap, apply_ite Step.written, List.mem_append,
    List.mem_cons, List.mem_flatMap, List.not_mem_nil, and_false, exists_false, false_or, or_false,
    Prod.mk.injEq, Fact.of, signatureStep, methodRow]
  cases r <;>
    simp [MethodDecl.rows, MethodDecl.id, MethodDecl.signature, MethodDecl.paramList,
      MethodDecl.sourceDescriptor, MethodDecl.rawDescriptor, MethodDecl.isStatic,
      MethodDecl.isNative, thisId, nativeReturnId, List.map_eq_flatMap]

theorem mem_written_property_iff
    {settings : EncoderSettings} {q : Property} {r : Relation} {row : List String} :
    (r, row) ∈ Step.written (property settings q).plan.steps ↔ row ∈ q.rows settings r := by
  rw [steps_property]
  simp only [Step.written_append, Step.written_write, Step.written_nil, List.mem_append,
    List.mem_cons, List.not_mem_nil, or_false, Prod.mk.injEq, Fact.of, stringSteps]
  cases r <;> simp [Property.rows, or_assoc]

/-- The steps of a program write the rows of its declarations and those of its instructions. -/
theorem mem_written_wholeProgram_iff
    {settings : EncoderSettings} {p : Program} {r : Relation} {row : List String} :
    (r, row) ∈ Step.written (wholeProgram settings p).plan.steps ↔
      row ∈ p.declaredRows settings r ∨
        ∃ m ∈ p.methods, ∃ e ∈ m.numberedBody,
          (r, row) ∈ Step.written (instruction settings (.ofHandles e.1) m e.2).steps := by
  simp only [wholeProgram, programClass, wholeClass, plan_wholeMethod, Plan.steps_append,
    Plan.steps_flatMap, Plan.steps_within, Step.written_append, Step.written_flatMap,
    Program.declaredRows, Program.fields, Program.methods, List.mem_append, List.mem_flatMap,
    mem_written_classHeader_iff, mem_written_wholeField_iff, mem_written_methodHeader_iff,
    mem_written_property_iff]
  constructor
  · rintro (⟨c, hc, (h | ⟨f, hf, h⟩) | ⟨m, hm, h | h⟩⟩ | h)
    · exact Or.inl (Or.inl (Or.inl (Or.inl ⟨c, hc, h⟩)))
    · exact Or.inl (Or.inl (Or.inl (Or.inr ⟨f, ⟨c, hc, hf⟩, h⟩)))
    · exact Or.inl (Or.inl (Or.inr ⟨m, ⟨c, hc, hm⟩, h⟩))
    · exact Or.inr ⟨m, ⟨c, hc, hm⟩, h⟩
    · exact Or.inl (Or.inr h)
  · rintro ((((⟨c, hc, h⟩ | ⟨f, ⟨c, hc, hf⟩, h⟩) | ⟨m, ⟨c, hc, hm⟩, h⟩) | h) | ⟨m, ⟨c, hc, hm⟩, h⟩)
    · exact Or.inl ⟨c, hc, Or.inl (Or.inl h)⟩
    · exact Or.inl ⟨c, hc, Or.inl (Or.inr ⟨f, hf, h⟩)⟩
    · exact Or.inl ⟨c, hc, Or.inr ⟨m, hm, Or.inl h⟩⟩
    · exact Or.inr h
    · exact Or.inl ⟨c, hc, Or.inr ⟨m, hm, Or.inr h⟩⟩

/-- An instruction writes rows only to the relations of instructions. -/
theorem mem_instructionRelations_of_mem_written
    {settings : EncoderSettings} {n : Numbering} {m : MethodDecl} {i : Instruction}
    {r : Relation} {row : List String}
    (h : (r, row) ∈ Step.written (instruction settings n m i).steps) :
    r ∈ instructionRelations := by
  obtain ⟨f, hf, rfl, -⟩ := Step.mem_written_iff.mp h
  exact writesOnly_instruction settings n m i _ hf

end Encoding

/-! ## Encoded programs -/

/-- Whether only declarations write rows to a relation. -/
def Relation.isAboutDeclarations : Relation → Bool
  | classType | interfaceType | directSuperClass | directSuperIface | classModifier | appClass
  | classArtifact | fieldSignature | fieldModifier | method | methodModifier | thisVar | formalParam
  | nativeReturnVar | methodDeclException | properties => true
  | _ => false

/-- After a program is encoded on a fresh encoder, a relation that is not about types has the rows
of the program's declarations and of its instructions. -/
theorem mem_facts_generate_iff_declared_or_written
    {settings : EncoderSettings} {journaled : Bool} {p : Program} {statistics : Statistics}
    (h : ((Encoder.fresh settings journaled).generate p).result = .ok statistics)
    {r : Relation} (hr : r.isAboutTypes = false) {row : List String} :
    row ∈ ((Encoder.fresh settings journaled).generate p).encoder.store.facts r ↔
      row ∈ p.declaredRows settings r ∨
        ∃ m ∈ p.methods, ∃ e ∈ m.numberedBody,
          (r, row) ∈ Step.written
            (Encoding.instruction settings (.ofHandles e.1) m e.2).steps := by
  rw [Encoder.mem_facts_generate_fresh_iff h hr, ← Step.mem_written_iff,
    Encoding.mem_written_wholeProgram_iff]

/-- After a program is encoded on a fresh encoder, the relations about declarations have the rows
that the schema assigns to what the program declares, all of them and no others. -/
theorem mem_facts_generate_iff_of_isAboutDeclarations
    (settings : EncoderSettings) (journaled : Bool) (p : Program) (statistics : Statistics)
    (h : ((Encoder.fresh settings journaled).generate p).result = .ok statistics)
    (r : Relation) (hr : r.isAboutDeclarations = true) (row : List String) :
    row ∈ ((Encoder.fresh settings journaled).generate p).encoder.store.facts r ↔
      row ∈ p.declaredRows settings r := by
  have htypes : r.isAboutTypes = false := by
    revert hr
    cases r <;> decide
  have hother : r ∉ Encoding.instructionRelations := by
    revert hr
    cases r <;> decide
  rw [mem_facts_generate_iff_declared_or_written h htypes, or_iff_left]
  rintro ⟨m, -, e, -, hrow⟩
  exact hother (Encoding.mem_instructionRelations_of_mem_written hrow)

/-- A native method with two parameters, which throws an exception. -/
def nativeMethod : MethodDecl where
  declaringClass := "B"
  name := "m"
  params := [.primitive .int, .array (.named "B")]
  returnType := .primitive .long
  modifiers := [.native]
  declaredExceptions := [.named "E"]
  body := []

/-- A static method without parameters. -/
def staticMethod : MethodDecl where
  declaringClass := "B"
  name := "s"
  params := []
  returnType := .primitive .void
  modifiers := [.static]
  declaredExceptions := []
  body := []

/-- An interface with a constant, a class from an archive that implements it, and a property. -/
def declaringProgram : Program where
  classes :=
    [⟨"A", true, none, [], [.abstract], [⟨"A", "f", .array (.named "B"), [.final]⟩], [], true,
        none⟩,
      ⟨"B", false, some "C", ["A"], [], [], [nativeMethod, staticMethod], false, some "b.jar"⟩]
  properties := [⟨"p.xml", "key", "value"⟩]

/-- Each declaration has its rows: an interface has no row of a class, a static method no receiver,
and only a native method has a variable for what it returns. -/
theorem declaredRows_mem_facts_declaringProgram :
    let e := (Encoder.fresh .standard false).generate declaringProgram
    e.result = .ok ⟨2, 1, 2, 0, 0, 1⟩ ∧
    (∀ entry ∈
      [(Relation.classType, ["B"]), (.interfaceType, ["A"]), (.directSuperClass, ["B", "C"]),
        (.directSuperIface, ["B", "A"]), (.classModifier, ["abstract", "A"]), (.appClass, ["A"]),
        (.classArtifact, ["b.jar", "B"]), (.fieldSignature, ["<A: B[] f>", "A", "f", "B[]"]),
        (.fieldModifier, ["final", "<A: B[] f>"]),
        (.method,
          ["<B: long m(int,B[])>", "m", "long(int,B[])", "B", "long", "(I[LB;)J"]),
        (.method, ["<B: void s()>", "s", "void()", "B", "void", "()V"]),
        (.methodModifier, ["native", "<B: long m(int,B[])>"]),
        (.methodModifier, ["static", "<B: void s()>"]),
        (.thisVar, ["<B: long m(int,B[])>", "<B: long m(int,B[])>/@this"]),
        (.formalParam, ["0", "<B: long m(int,B[])>", "<B: long m(int,B[])>/@parameter0"]),
        (.formalParam, ["1", "<B: long m(int,B[])>", "<B: long m(int,B[])>/@parameter1"]),
        (.nativeReturnVar, ["<B: long m(int,B[])>/@native-return", "<B: long m(int,B[])>"]),
        (.methodDeclException, ["E", "<B: long m(int,B[])>"]),
        (.properties, ["p.xml", "key", "value"])],
      entry.1.isAboutDeclarations = true ∧ entry.2 ∈ e.encoder.store.facts entry.1) ∧
    ∀ entry ∈
      [(Relation.classType, ["A"]), (.interfaceType, ["B"]), (.appClass, ["B"]),
        (.thisVar, ["<B: void s()>", "<B: void s()>/@this"]),
        (.formalParam, ["2", "<B: long m(int,B[])>", "<B: long m(int,B[])>/@parameter2"]),
        (.nativeReturnVar, ["<B: void s()>/@native-return", "<B: void s()>"])],
      entry.1.isAboutDeclarations = true ∧ entry.2 ∉ e.encoder.store.facts entry.1 := by
  intro e
  have hresult : e.result = .ok ⟨2, 1, 2, 0, 0, 1⟩ := by decide +kernel
  have hfacts {r : Relation} (hr : r.isAboutDeclarations = true) {row : List String} :
      row ∈ e.encoder.store.facts r ↔ row ∈ declaringProgram.declaredRows .standard r :=
    mem_facts_generate_iff_of_isAboutDeclarations .standard false declaringProgram _ hresult r hr
      row
  refine ⟨hresult, ?_, ?_⟩
  · -- the list of entries is closed, so both parts are checked entry by entry
    intro entry hentry
    have hr : entry.1.isAboutDeclarations = true := by
      revert entry
      decide
    refine ⟨hr, (hfacts hr).mpr ?_⟩
    revert entry
    decide +kernel
  · intro entry hentry
    have hr : entry.1.isAboutDeclarations = true := by
      revert entry
      decide
    refine ⟨hr, (hfacts hr).not.mpr ?_⟩
    revert entry
    decide +kernel

end ProgramFacts
