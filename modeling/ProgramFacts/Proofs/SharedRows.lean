import ProgramFacts.Proofs.ProgramSteps

/-!
# The rows of types, variables and constants

Several parts of a program write to the relations about array types, declaring methods, strings and
class objects.  Once a program is encoded on a fresh encoder, these relations hold the rows of the
types that the program mentions or records for variables, of the variables that its methods
register, and of its constants, and nothing else.
-/

namespace ProgramFacts

/-! ## Rows about types -/

/-- The component types of a type's array levels, outermost first. -/
def TypeRef.components : TypeRef → List TypeRef
  | array component => component :: component.components
  | _ => []

theorem TypeRef.mem_arrayRows_iff {t : TypeRef} {f : Fact} :
    f ∈ t.arrayRows ↔ ∃ component ∈ t.components,
      f = .of .arrayType [(array component).name] ∨
        f = .of .componentType [(array component).name, component.name] := by
  induction t with
  | array component ih => simp [arrayRows, components, ih, or_comm]
  | _ => simp [arrayRows, components]

theorem hasRow_flatMap_iff
    {α : Type} {items : List α} {facts : α → List Fact} {r : Relation} {row : List String} :
    HasRow (items.flatMap facts) r row ↔ ∃ a ∈ items, HasRow (facts a) r row := by
  simp only [HasRow, List.mem_flatMap]
  constructor
  · rintro ⟨f, ⟨a, ha, hf⟩, hrow⟩
    exact ⟨a, ha, f, hf, hrow⟩
  · rintro ⟨a, ha, f, hf, hrow⟩
    exact ⟨f, ⟨a, ha, hf⟩, hrow⟩

theorem hasRow_arrayType_arrayRows_iff {t : TypeRef} {row : List String} :
    HasRow t.arrayRows .arrayType row ↔
      ∃ component ∈ t.components, row = [component.name ++ "[]"] := by
  simp only [HasRow, TypeRef.mem_arrayRows_iff]
  constructor
  · rintro ⟨f, ⟨component, hcomponent, rfl | rfl⟩, hrelation, rfl⟩
    · exact ⟨component, hcomponent, rfl⟩
    · cases hrelation
  · rintro ⟨component, hcomponent, rfl⟩
    exact ⟨_, ⟨component, hcomponent, Or.inl rfl⟩, rfl, rfl⟩

theorem hasRow_componentType_arrayRows_iff {t : TypeRef} {row : List String} :
    HasRow t.arrayRows .componentType row ↔
      ∃ component ∈ t.components, row = [component.name ++ "[]", component.name] := by
  simp only [HasRow, TypeRef.mem_arrayRows_iff]
  constructor
  · rintro ⟨f, ⟨component, hcomponent, rfl | rfl⟩, hrelation, rfl⟩
    · cases hrelation
    · exact ⟨component, hcomponent, rfl⟩
  · rintro ⟨component, hcomponent, rfl⟩
    exact ⟨_, ⟨component, hcomponent, Or.inr rfl⟩, rfl, rfl⟩

theorem hasRow_variableRows_iff
    {var method : String} {type : TypeRef} {r : Relation} {row : List String} :
    HasRow (variableRows var type method) r row ↔
      HasRow type.arrayRows r row ∨ r = .varType ∧ row = [var, type.name] ∨
        r = .varDeclaringMethod ∧ row = [var, method] := by
  rw [variableRows, hasRow_append_iff]
  simp [HasRow, Fact.of, eq_comm]

namespace Step

variable {final : RecordedTypes} {s : Step}

/-- The type whose array levels a step writes if `final` is what is recorded in the end. -/
def typeUnder? (final : RecordedTypes) : Step → Option TypeRef
  | mention type => some type
  | declare var type _ => some (final.resolve var type)
  | _ => none

theorem hasRow_rowsUnder_iff_of_isArray
    (hs : s.WritesOnly (·.isAboutTypes = false))
    {r : Relation} (hr : r = .arrayType ∨ r = .componentType) {row : List String} :
    HasRow (s.rowsUnder final) r row ↔
      ∃ t, s.typeUnder? final = some t ∧ HasRow t.arrayRows r row := by
  cases s with
  | write f =>
      have hother : f.relation ≠ r := by
        rintro rfl
        rcases hr with h | h <;> simp [WritesOnly, h, Relation.isAboutTypes] at hs
      simp [rowsUnder, typeUnder?, HasRow, hother]
  | mention type => simp [rowsUnder, typeUnder?]
  | declare var type method =>
      rcases hr with rfl | rfl <;> simp [rowsUnder, typeUnder?, hasRow_variableRows_iff]
  | draw basename => simp [rowsUnder, typeUnder?, HasRow]
  | refuse error => simp [rowsUnder, typeUnder?, HasRow]

theorem hasRow_varDeclaringMethod_rowsUnder_iff
    (hs : s.WritesOnly (·.isAboutTypes = false)) {row : List String} :
    HasRow (s.rowsUnder final) .varDeclaringMethod row ↔
      ∃ var type method, s = declare var type method ∧ row = [var, method] := by
  have harray : ∀ type : TypeRef, ¬ HasRow type.arrayRows .varDeclaringMethod row := by
    rintro type ⟨f, hf, hrelation, -⟩
    rcases relation_of_mem_arrayRows hf with h | h <;> simp [h] at hrelation
  cases s with
  | write f =>
      have hother : f.relation ≠ .varDeclaringMethod := by
        intro h
        simp [WritesOnly, h, Relation.isAboutTypes] at hs
      simp [rowsUnder, HasRow, hother]
  | mention type => simp [rowsUnder, harray]
  | declare var type method => simp [rowsUnder, hasRow_variableRows_iff, harray, and_assoc]
  | draw basename => simp [rowsUnder, HasRow]
  | refuse error => simp [rowsUnder, HasRow]

end Step

/-! ## Shared relations -/

/-- Whether several parts of a program write to a relation, other than the one about the types of
variables. -/
def Relation.isShared : Relation → Bool
  | arrayType | componentType | varDeclaringMethod | stringRaw | stringConst | classHeap => true
  | _ => false

namespace Program

/-- The type that a program supplies first for each variable. -/
def variableTypes (settings : EncoderSettings) (p : Program) : List TypeRef :=
  (p.supplied settings).filterMap fun e => (p.supplied settings).lookup e.1

/-- The rows of the types, variables and constants of a program. -/
def sharedRows (settings : EncoderSettings) (p : Program) : Relation → List (List String)
  | .arrayType =>
    (p.mentionedTypes ++ p.variableTypes settings).flatMap fun t =>
      t.components.map fun component => [component.name ++ "[]"]
  | .componentType =>
    (p.mentionedTypes ++ p.variableTypes settings).flatMap fun t =>
      t.components.map fun component => [component.name ++ "[]", component.name]
  | .varDeclaringMethod =>
    p.methods.flatMap fun m => (m.supplied settings).map fun e => [e.1, m.id settings]
  | .stringRaw =>
    p.methods.map (fun m => [m.id settings, m.signature]) ++
      p.stringConstants.map fun s => [settings.stringId s, settings.rawString s]
  | .stringConst => p.stringConstants.map fun s => [settings.stringId s]
  | .classHeap =>
    (p.classes.map ClassDecl.name ++ p.classConstants.map TypeRef.name).map fun name =>
      ["<class " ++ name ++ ">", name]
  | _ => []

end Program

theorem Program.mem_sharedRows_iff_of_isConstant
    {settings : EncoderSettings} {p : Program}
    {r : Relation} (hr : r = .stringRaw ∨ r = .stringConst ∨ r = .classHeap) {row : List String} :
    row ∈ p.sharedRows settings r ↔
      row ∈ p.declaredRows settings r ∨ ∃ i ∈ p.instructions, row ∈ i.constantRows settings r := by
  rcases hr with rfl | rfl | rfl <;>
    simp only [sharedRows, declaredRows, stringConstants, classConstants, ClassDecl.rows,
      FieldDecl.rows, MethodDecl.rows, Property.rows, Instruction.constantRows, List.map_append,
      List.map_map, List.filterMap_eq_flatMap_toList, List.map_flatMap, List.mem_append,
      List.mem_flatMap, Encoding.flatMap_const_nil, List.not_mem_nil, false_or, or_false]
  · rw [List.map_eq_flatMap, List.mem_flatMap, or_assoc]
    exact or_congr_right or_comm
  · exact or_comm
  · rw [List.map_eq_flatMap, List.mem_flatMap]
    exact Iff.rfl

theorem Program.mem_variableTypes_iff
    {settings : EncoderSettings} {p : Program} {t : TypeRef} :
    t ∈ p.variableTypes settings ↔ ∃ var, (p.supplied settings).lookup var = some t := by
  rw [variableTypes, List.mem_filterMap]
  constructor
  · rintro ⟨e, -, h⟩
    exact ⟨e.1, h⟩
  · rintro ⟨var, h⟩
    obtain ⟨before, after, hlist, -⟩ := List.lookup_eq_some_iff.mp h
    exact ⟨(var, t), by simp [hlist], h⟩

/-! ## Encoded programs -/

section Successful

variable {settings : EncoderSettings} {journaled : Bool} {p : Program} {statistics : Statistics}

/-- The class literals of a program that is encoded with success are accepted. -/
theorem hasAcceptedLiteral_of_generate
    (h : ((Encoder.fresh settings journaled).generate p).result = .ok statistics) :
    ∀ m ∈ p.methods, ∀ i ∈ m.body, i.HasAcceptedLiteral := by
  have hpass := ((Plan.failure_run_empty_eq_none_iff _).mp
    (Encoder.failure_run_of_generate_fresh h)).1
  intro m hm
  exact (((Encoding.canPass_wholeProgram_iff settings p).mp hpass).2 m hm).2

/-- The type that is recorded for a variable is the first that the program supplies for it. -/
theorem get?_types_generate
    (h : ((Encoder.fresh settings journaled).generate p).result = .ok statistics) (var : String) :
    ((Encoder.fresh settings journaled).generate p).encoder.types.get? var =
      (p.supplied settings).lookup var := by
  have hsuccess := Encoder.failure_run_of_generate_fresh h
  have htypes : ((Encoder.fresh settings journaled).generate p).encoder.types =
      RecordedTypes.empty.recordAll (p.supplied settings) := by
    rw [← Encoding.registrations_wholeProgram settings (hasAcceptedLiteral_of_generate h),
      ← Plan.taken_eq_steps hsuccess]
    exact Plan.types_run _ _
  rw [htypes, RecordedTypes.get?_recordAll]
  exact Option.none_or

/-- A relation has the rows that the steps of the program write under the types that are recorded
in the end. -/
theorem mem_facts_generate_iff_rowsUnder
    (h : ((Encoder.fresh settings journaled).generate p).result = .ok statistics)
    {r : Relation} {row : List String} :
    row ∈ ((Encoder.fresh settings journaled).generate p).encoder.store.facts r ↔
      ∃ s ∈ (Encoding.wholeProgram settings p).plan.steps,
        HasRow
          (s.rowsUnder ((Encoder.fresh settings journaled).generate p).encoder.types) r row := by
  have haccepted : ((Encoder.fresh settings journaled).generate p).encoder.store.accepted.toList =
      (Plan.run .empty (Encoding.wholeProgram settings p).plan).rows :=
    Encoder.accepted_perform _ _
  rw [FactStore.mem_facts_iff, haccepted,
    Plan.rows_run_of_success (Encoder.failure_run_of_generate_fresh h), hasRow_flatMap_iff]
  exact Iff.rfl

/-- The steps of a program write the array levels of the types that it mentions and of those that
it supplies first for variables. -/
theorem exists_typeUnder?_iff
    (h : ((Encoder.fresh settings journaled).generate p).result = .ok statistics) {t : TypeRef} :
    (∃ s ∈ (Encoding.wholeProgram settings p).plan.steps,
        s.typeUnder? ((Encoder.fresh settings journaled).generate p).encoder.types = some t) ↔
      t ∈ p.mentionedTypes ++ p.variableTypes settings := by
  have hliterals := hasAcceptedLiteral_of_generate h
  have hregistrations := Encoding.registrations_wholeProgram settings hliterals
  rw [List.mem_append, Program.mem_variableTypes_iff,
    ← Encoding.mention_mem_wholeProgram_iff hliterals]
  constructor
  · rintro ⟨s, hs, htype⟩
    cases s with
    | mention type =>
        cases htype
        exact Or.inl hs
    | declare var type method =>
        -- a variable that is declared has a recorded type, and that is what the step resolves to
        refine Or.inr ⟨var, ?_⟩
        have hmem : (var, type) ∈ p.supplied settings := by
          rw [← hregistrations]
          exact Step.mem_registrations_iff.mpr ⟨method, hs⟩
        cases hlookup : (p.supplied settings).lookup var with
        | none => simpa using List.lookup_eq_none_iff.mp hlookup _ hmem
        | some recorded =>
            have hget := (get?_types_generate h var).trans hlookup
            rw [← htype, Step.typeUnder?, RecordedTypes.resolve_of_get?_eq_some hget]
    | _ => cases htype
  · rintro (hmention | ⟨var, hlookup⟩)
    · exact ⟨.mention t, hmention, rfl⟩
    · have hmem : (var, t) ∈ Step.registrations (Encoding.wholeProgram settings p).plan.steps := by
        obtain ⟨before, after, hlist, -⟩ := List.lookup_eq_some_iff.mp hlookup
        simp [hregistrations, hlist]
      obtain ⟨method, hdeclare⟩ := Step.mem_registrations_iff.mp hmem
      refine ⟨_, hdeclare, ?_⟩
      have hget := (get?_types_generate h var).trans hlookup
      rw [Step.typeUnder?, RecordedTypes.resolve_of_get?_eq_some hget]

theorem writesOnly_wholeProgram_of_isAboutTypes (settings : EncoderSettings) (p : Program) :
    ∀ s ∈ (Encoding.wholeProgram settings p).plan.steps,
      s.WritesOnly (·.isAboutTypes = false) := by
  intro s hs
  exact (Encoding.writesOnly_wholeProgram settings p s hs).mono (by decide)

theorem mem_facts_generate_iff_of_isArray
    (h : ((Encoder.fresh settings journaled).generate p).result = .ok statistics)
    {r : Relation} (hr : r = .arrayType ∨ r = .componentType) {row : List String} :
    row ∈ ((Encoder.fresh settings journaled).generate p).encoder.store.facts r ↔
      ∃ t ∈ p.mentionedTypes ++ p.variableTypes settings, HasRow t.arrayRows r row := by
  have hwrites := writesOnly_wholeProgram_of_isAboutTypes settings p
  rw [mem_facts_generate_iff_rowsUnder h]
  constructor
  · rintro ⟨s, hs, hrow⟩
    obtain ⟨t, htype, hrow⟩ := (Step.hasRow_rowsUnder_iff_of_isArray (hwrites s hs) hr).mp hrow
    exact ⟨t, (exists_typeUnder?_iff h).mp ⟨s, hs, htype⟩, hrow⟩
  · rintro ⟨t, ht, hrow⟩
    obtain ⟨s, hs, htype⟩ := (exists_typeUnder?_iff h).mpr ht
    exact ⟨s, hs, (Step.hasRow_rowsUnder_iff_of_isArray (hwrites s hs) hr).mpr ⟨t, htype, hrow⟩⟩

theorem mem_facts_generate_varDeclaringMethod_iff
    (h : ((Encoder.fresh settings journaled).generate p).result = .ok statistics)
    {row : List String} :
    row ∈ ((Encoder.fresh settings journaled).generate p).encoder.store.facts .varDeclaringMethod ↔
      ∃ m ∈ p.methods, ∃ e ∈ m.supplied settings, row = [e.1, m.id settings] := by
  have hwrites := writesOnly_wholeProgram_of_isAboutTypes settings p
  have hdeclare {var method : String} {type : TypeRef} :
      Step.declare var type method ∈ (Encoding.wholeProgram settings p).plan.steps ↔
        ∃ m ∈ p.methods, method = m.id settings ∧ (var, type) ∈ m.supplied settings :=
    Encoding.declare_mem_wholeProgram_iff (hasAcceptedLiteral_of_generate h)
  rw [mem_facts_generate_iff_rowsUnder h]
  constructor
  · rintro ⟨s, hs, hrow⟩
    obtain ⟨var, type, method, rfl, rfl⟩ :=
      (Step.hasRow_varDeclaringMethod_rowsUnder_iff (hwrites s hs)).mp hrow
    obtain ⟨m, hm, hmethod, he⟩ := hdeclare.mp hs
    exact ⟨m, hm, (var, type), he, by rw [hmethod]⟩
  · rintro ⟨m, hm, ⟨var, type⟩, he, rfl⟩
    have hs := hdeclare.mpr ⟨m, hm, rfl, he⟩
    exact ⟨_, hs, (Step.hasRow_varDeclaringMethod_rowsUnder_iff (hwrites _ hs)).mpr
      ⟨var, type, _, rfl, rfl⟩⟩

theorem mem_facts_generate_iff_of_isConstant
    (h : ((Encoder.fresh settings journaled).generate p).result = .ok statistics)
    {r : Relation} (hr : r = .stringRaw ∨ r = .stringConst ∨ r = .classHeap) {row : List String} :
    row ∈ ((Encoder.fresh settings journaled).generate p).encoder.store.facts r ↔
      row ∈ p.declaredRows settings r ∨ ∃ i ∈ p.instructions, row ∈ i.constantRows settings r := by
  have hliterals := hasAcceptedLiteral_of_generate h
  have htypes : r.isAboutTypes = false := by
    rcases hr with rfl | rfl | rfl <;> rfl
  rw [mem_facts_generate_iff_declared_or_written h htypes]
  apply or_congr_right
  constructor
  · rintro ⟨m, hm, ⟨k, i⟩, hi, hrow⟩
    have hbody := MethodDecl.mem_body_iff.mpr ⟨k, hi⟩
    exact ⟨i, List.mem_flatMap.mpr ⟨m, hm, hbody⟩,
      (Encoding.mem_written_instruction_iff (hliterals m hm i hbody) hr).mp hrow⟩
  · rintro ⟨i, hi, hrow⟩
    obtain ⟨m, hm, hbody⟩ := List.mem_flatMap.mp hi
    obtain ⟨k, hk⟩ := MethodDecl.mem_body_iff.mp hbody
    exact ⟨m, hm, (k, i), hk,
      (Encoding.mem_written_instruction_iff (hliterals m hm i hbody) hr).mpr hrow⟩

end Successful

/-- After a program is encoded on a fresh encoder, the type recorded for a variable is the first
that the program supplies for it, and the shared relations have the rows of the program's types,
variables and constants, all of them and no others. -/
theorem mem_facts_generate_iff_of_isShared
    (settings : EncoderSettings) (journaled : Bool) (p : Program) (statistics : Statistics)
    (h : ((Encoder.fresh settings journaled).generate p).result = .ok statistics) :
    let e := ((Encoder.fresh settings journaled).generate p).encoder
    (∀ var, e.types.get? var = (p.supplied settings).lookup var) ∧
      ∀ r : Relation, r.isShared = true → ∀ row,
        row ∈ e.store.facts r ↔ row ∈ p.sharedRows settings r := by
  refine ⟨get?_types_generate h, ?_⟩
  intro r hr row
  cases r with
  | arrayType =>
      rw [mem_facts_generate_iff_of_isArray h (Or.inl rfl)]
      simp [hasRow_arrayType_arrayRows_iff, Program.sharedRows, or_and_right, exists_or, eq_comm]
  | componentType =>
      rw [mem_facts_generate_iff_of_isArray h (Or.inr rfl)]
      simp [hasRow_componentType_arrayRows_iff, Program.sharedRows, or_and_right, exists_or,
        eq_comm]
  | varDeclaringMethod =>
      rw [mem_facts_generate_varDeclaringMethod_iff h]
      simp [Program.sharedRows, eq_comm]
  | stringRaw =>
      rw [mem_facts_generate_iff_of_isConstant h (Or.inl rfl),
        Program.mem_sharedRows_iff_of_isConstant (Or.inl rfl)]
  | stringConst =>
      rw [mem_facts_generate_iff_of_isConstant h (Or.inr (Or.inl rfl)),
        Program.mem_sharedRows_iff_of_isConstant (Or.inr (Or.inl rfl))]
  | classHeap =>
      rw [mem_facts_generate_iff_of_isConstant h (Or.inr (Or.inr rfl)),
        Program.mem_sharedRows_iff_of_isConstant (Or.inr (Or.inr rfl))]
  | _ => cases hr

/-- A static method that gives a variable the type of numbers, and of arrays of numbers later, and
that loads a class, a padded string and a method handle. -/
def retypedMethod : MethodDecl where
  declaringClass := "A"
  name := "m"
  params := [.array (.array (.named "B"))]
  returnType := .primitive .void
  modifiers := [.static]
  declaredExceptions := []
  body :=
    [⟨0, none, .constant ⟨"x", .primitive .int⟩ (.numeric "1")⟩,
      ⟨1, none, .constant ⟨"x", .array (.primitive .int)⟩ .null⟩,
      ⟨2, none, .constant ⟨"c", .named "java.lang.Class"⟩ (.classLiteral "LC;")⟩,
      ⟨3, none, .constant ⟨"s", .named "java.lang.String"⟩ (.string " x")⟩,
      ⟨4, none, .constant ⟨"h", .named "java.lang.Object"⟩ (.methodHandle "f")⟩]

/-- A program with a method that gives a variable two types, a native method, and a property without
a value. -/
def retypedProgram : Program where
  classes :=
    [⟨"A", false, none, [], [], [], [retypedMethod], true, none⟩,
      ⟨"B", false, none, [], [], [], [nativeMethod], true, none⟩]
  properties := [⟨"p.xml", "key", ""⟩]

/-- The later type of a variable contributes no array type; each level of a parameter's type does.
The variables of a native method are its receiver, its parameters and what it returns, and the text
of a string that is empty or padded is quoted where the settings ask for it. -/
theorem sharedRows_mem_facts_retypedProgram :
    let settings : EncoderSettings := ⟨256, 1024, true⟩
    let e := (Encoder.fresh settings false).generate retypedProgram
    e.result = .ok ⟨2, 0, 2, 5, 0, 1⟩ ∧
    e.encoder.types.get? "<A: void m(B[][])>/x" = some (.primitive .int) ∧
    (∀ entry ∈
      [(Relation.arrayType, ["B[][]"]), (.arrayType, ["B[]"]),
        (.componentType, ["B[][]", "B[]"]), (.componentType, ["B[]", "B"]),
        (.varDeclaringMethod, ["<B: long m(int,B[])>/@this", "<B: long m(int,B[])>"]),
        (.varDeclaringMethod, ["<B: long m(int,B[])>/@parameter0", "<B: long m(int,B[])>"]),
        (.varDeclaringMethod, ["<B: long m(int,B[])>/@parameter1", "<B: long m(int,B[])>"]),
        (.varDeclaringMethod, ["<B: long m(int,B[])>/@native-return", "<B: long m(int,B[])>"]),
        (.varDeclaringMethod, ["<A: void m(B[][])>/x", "<A: void m(B[][])>"]),
        (.varDeclaringMethod, ["<A: void m(B[][])>/$mhandleconstant0", "<A: void m(B[][])>"]),
        (.stringRaw, ["<B: long m(int,B[])>", "<B: long m(int,B[])>"]),
        (.stringRaw, ["<<\" x\">>", "<<\" x\">>"]), (.stringRaw, ["<<\"\">>", "<<\"\">>"]),
        (.stringRaw, ["key", "key"]), (.stringConst, ["<<\" x\">>"]), (.stringConst, ["key"]),
        (.classHeap, ["<class B>", "B"]), (.classHeap, ["<class C>", "C"])],
      entry.1.isShared = true ∧ entry.2 ∈ e.encoder.store.facts entry.1) ∧
    ∀ entry ∈
      [(Relation.arrayType, ["int[]"]), (.componentType, ["int[]", "int"]),
        (.varDeclaringMethod, ["<A: void m(B[][])>/@this", "<A: void m(B[][])>"]),
        (.varDeclaringMethod, ["<A: void m(B[][])>/@native-return", "<A: void m(B[][])>"]),
        (.stringRaw, [" x", " x"]), (.stringConst, ["<B: long m(int,B[])>"])],
      entry.1.isShared = true ∧ entry.2 ∉ e.encoder.store.facts entry.1 := by
  intro settings e
  have hresult : e.result = .ok ⟨2, 0, 2, 5, 0, 1⟩ := by decide +kernel
  obtain ⟨htypes, hshared⟩ :=
    mem_facts_generate_iff_of_isShared settings false retypedProgram _ hresult
  have hfacts {r : Relation} (hr : r.isShared = true) {row : List String} :
      row ∈ e.encoder.store.facts r ↔ row ∈ retypedProgram.sharedRows settings r :=
    hshared r hr row
  refine ⟨hresult, ?_, ?_, ?_⟩
  · rw [htypes]
    decide +kernel
  · -- the list of entries is closed, so both parts are checked entry by entry
    intro entry hentry
    have hr : entry.1.isShared = true := by
      revert entry
      decide
    refine ⟨hr, (hfacts hr).mpr ?_⟩
    revert entry
    decide +kernel
  · intro entry hentry
    have hr : entry.1.isShared = true := by
      revert entry
      decide
    refine ⟨hr, (hfacts hr).not.mpr ?_⟩
    revert entry
    decide +kernel

end ProgramFacts
