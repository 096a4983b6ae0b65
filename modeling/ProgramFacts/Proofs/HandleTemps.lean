import ProgramFacts.Proofs.BodyRows
import ProgramFacts.Proofs.Encodable
import ProgramFacts.Proofs.JoinedText
import ProgramFacts.Proofs.VariableTypes

/-!
# Temporaries of method handles

The temporaries that the method handles of a body are allocated into are numbered in order, so that
no two of them are the same.  Nothing keeps a body from naming a variable like a temporary, though.
Where no variable is named so, the temporaries are fresh and have the type of method handles.
-/

namespace ProgramFacts

/-! ## Counted elements -/

section Counting

variable {α : Type} {p : α → Bool} {list : List α} {n : Nat} {a : α}

/-- A counted element is followed by greater counts. -/
theorem countP_take_lt_countP_take
    (hn : list[n]? = some a) (ha : p a = true) {n' : Nat} (hlt : n < n') :
    (list.take n).countP p < (list.take n').countP p := by
  have hnext : (list.take (n + 1)).countP p = (list.take n).countP p + 1 := by
    rw [List.take_add_one, hn, List.countP_append]
    simp [ha]
  have hle : (list.take (n + 1)).countP p ≤ (list.take n').countP p :=
    (List.take_sublist_take_left hlt).countP_le
  omega

theorem countP_take_lt_countP (hn : list[n]? = some a) (ha : p a = true) :
    (list.take n).countP p < list.countP p := by
  have hlength : n < list.length := (List.getElem?_eq_some_iff.mp hn).1
  have hlt := countP_take_lt_countP_take hn ha hlength
  rwa [List.take_length] at hlt

/-- Every number below the count is the number of counted elements before one of them. -/
theorem exists_countP_take_eq {k : Nat} (hk : k < list.countP p) :
    ∃ n a, list[n]? = some a ∧ p a = true ∧ (list.take n).countP p = k := by
  induction list generalizing k with
  | nil => simp at hk
  | cons b rest ih =>
      by_cases hb : p b = true
      · cases k with
        | zero => exact ⟨0, b, rfl, hb, rfl⟩
        | succ k =>
            rw [List.countP_cons_of_pos hb] at hk
            obtain ⟨n, a, hn, ha, hcount⟩ := ih (Nat.lt_of_succ_lt_succ hk)
            refine ⟨n + 1, a, hn, ha, ?_⟩
            rw [List.take_succ_cons, List.countP_cons_of_pos hb, hcount]
      · rw [List.countP_cons_of_neg hb] at hk
        obtain ⟨n, a, hn, ha, hcount⟩ := ih hk
        refine ⟨n + 1, a, hn, ha, ?_⟩
        rw [List.take_succ_cons, List.countP_cons_of_neg hb, hcount]

end Counting

/-- If all entries for a key hold the same value, the key is looked up as this value. -/
theorem lookup_eq_some_of_forall
    {list : List (String × TypeRef)} {var : String} {type : TypeRef}
    (hmem : (var, type) ∈ list) (hall : ∀ other, (var, other) ∈ list → other = type) :
    list.lookup var = some type := by
  cases hlookup : list.lookup var with
  | none => simpa using List.lookup_eq_none_iff.mp hlookup _ hmem
  | some other =>
      obtain ⟨before, after, hlist, -⟩ := List.lookup_eq_some_iff.mp hlookup
      rw [hall other (by simp [hlist])]

/-! ## Variables of a body -/

/-- The variables that an instruction names. -/
def Instruction.locals (i : Instruction) : List Local :=
  match i.operation with
  | .constant dest _ => [dest]
  | .binary dest _ lhs rhs => [dest, lhs, rhs]
  | .returnValue value => [value]
  | .returnVoid => []
  | .unsupported _ => []

theorem Instruction.mem_supplied_iff
    {method : String} {number : Nat} {i : Instruction} {var : String} {type : TypeRef} :
    (var, type) ∈ i.supplied method number ↔
      (∃ l ∈ i.locals, var = localId method l.name ∧ type = l.type) ∨
        (i.isHandle = true ∧ var = localId method ("$mhandleconstant" ++ number.repr) ∧
          type = .named "java.lang.invoke.MethodHandle") := by
  unfold supplied locals isHandle
  cases i.operation with
  | constant dest value => cases value <;> simp [localId]
  | _ => simp [localId]

namespace MethodDecl

/-- The variables that a body names. -/
def locals (m : MethodDecl) : List Local :=
  m.body.flatMap Instruction.locals

/-- The name of the temporary that the instruction at a place of the body needs if it puts a method
handle into a variable. -/
def handleTempName (m : MethodDecl) (n : Nat) : String :=
  "$mhandleconstant" ++ ((m.body.take n).countP Instruction.isHandle).repr

theorem handleTempName_eq (m : MethodDecl) (n : Nat) :
    m.handleTempName n =
      "$mhandleconstant" ++ ((m.body.take n).countP Instruction.isHandle).repr := rfl

/-- A counter of 32 bits numbers the temporaries alike, unless the body has too many of them. -/
theorem handleTempName_eq_of_countP_lt
    {m : MethodDecl} (hbound : m.body.countP Instruction.isHandle < 2 ^ 32)
    {n : Nat} {i : Instruction} (hn : m.body[n]? = some i) (hi : i.isHandle = true) :
    m.handleTempName n =
      "$mhandleconstant" ++
        (UInt32.ofNat ((m.body.take n).countP Instruction.isHandle)).toNat.repr := by
  have hlt : (m.body.take n).countP Instruction.isHandle < UInt32.size :=
    (countP_take_lt_countP hn hi).trans hbound
  rw [UInt32.toNat_ofNat_of_lt' hlt, handleTempName_eq]

/-- Whether a body names no variable like a temporary that it needs. -/
def AvoidsTemps (m : MethodDecl) : Prop :=
  ∀ l ∈ m.locals, ∀ k < m.body.countP Instruction.isHandle, l.name ≠ "$mhandleconstant" ++ k.repr

instance (m : MethodDecl) : Decidable m.AvoidsTemps :=
  inferInstanceAs (Decidable (∀ l ∈ m.locals, ∀ k < m.body.countP Instruction.isHandle,
    l.name ≠ "$mhandleconstant" ++ k.repr))

theorem handleTempName_ne
    {m : MethodDecl} {n n' : Nat} {i i' : Instruction}
    (hn : m.body[n]? = some i) (hi : i.isHandle = true)
    (hn' : m.body[n']? = some i') (hi' : i'.isHandle = true) (hne : n ≠ n') :
    m.handleTempName n ≠ m.handleTempName n' := by
  intro hname
  have hnumbers := Text.repr_injective (String.append_right_inj _ |>.mp hname)
  rcases Nat.lt_or_gt_of_ne hne with hlt | hgt
  · exact absurd hnumbers (countP_take_lt_countP_take hn hi hlt).ne
  · exact absurd hnumbers (countP_take_lt_countP_take hn' hi' hgt).ne'

theorem avoidsTemps_iff {m : MethodDecl} :
    m.AvoidsTemps ↔
      ∀ n i, m.body[n]? = some i → i.isHandle = true →
        ∀ l ∈ m.locals, l.name ≠ m.handleTempName n := by
  constructor
  · intro havoids n i hn hi l hl
    exact havoids l hl _ (countP_take_lt_countP hn hi)
  · intro h l hl k hk
    obtain ⟨n, i, hn, hi, rfl⟩ := exists_countP_take_eq hk
    exact h n i hn hi l hl

end MethodDecl

theorem localId_inj {method name name' : String} :
    localId method name = localId method name' ↔ name = name' := by
  rw [localId, localId, String.append_right_inj]

namespace MethodDecl

variable {settings : EncoderSettings} {m : MethodDecl}

theorem toList_of_mem_suppliedImplicitly
    {var : String} {type : TypeRef} (h : (var, type) ∈ m.suppliedImplicitly settings) :
    ∃ rest, var.toList = (m.id settings).toList ++ '/' :: '@' :: rest := by
  simp only [suppliedImplicitly, List.mem_append, List.mem_map] at h
  rcases h with (h | ⟨param, -, h⟩) | h
  · split at h
    · cases h
    · obtain ⟨rfl, -⟩ := Prod.mk.inj (List.mem_singleton.mp h)
      exact ⟨"this".toList, by simp⟩
  · obtain ⟨rfl, -⟩ := Prod.mk.inj h
    exact ⟨"parameter".toList ++ param.2.repr.toList, by simp⟩
  · split at h
    · obtain ⟨rfl, -⟩ := Prod.mk.inj (List.mem_singleton.mp h)
      exact ⟨"native-return".toList, by simp⟩
    · cases h

/-- The implicit variables of a method begin with another character than its temporaries. -/
theorem handleTemp_not_mem_suppliedImplicitly (n : Nat) (type : TypeRef) :
    (localId (m.id settings) (m.handleTempName n), type) ∉ m.suppliedImplicitly settings := by
  intro hmem
  obtain ⟨rest, hrest⟩ := toList_of_mem_suppliedImplicitly hmem
  simp [localId, handleTempName_eq] at hrest

/-- If no variable is named like a temporary, the method supplies the type of method handles for
each of its temporaries. -/
theorem lookup_supplied_handleTemp
    (havoids : m.AvoidsTemps) {n : Nat} {i : Instruction}
    (hn : m.body[n]? = some i) (hi : i.isHandle = true) :
    (m.supplied settings).lookup (localId (m.id settings) (m.handleTempName n)) =
      some (.named "java.lang.invoke.MethodHandle") := by
  apply lookup_eq_some_of_forall
  · have hnumbered := mem_numberedBody_iff.mpr ⟨n, hn, rfl⟩
    rw [supplied, List.mem_append, List.mem_flatMap]
    exact Or.inr ⟨_, hnumbered, Instruction.mem_supplied_iff.mpr (Or.inr ⟨hi, rfl, rfl⟩)⟩
  · intro type htype
    rw [supplied, List.mem_append, List.mem_flatMap] at htype
    rcases htype with himplicit | ⟨⟨k, i'⟩, hnumbered, hsupplied⟩
    · exact absurd himplicit (handleTemp_not_mem_suppliedImplicitly n type)
    · rcases Instruction.mem_supplied_iff.mp hsupplied with ⟨l, hl, hvar, -⟩ | ⟨-, -, rfl⟩
      · have hlocal : l ∈ m.locals :=
          List.mem_flatMap.mpr ⟨i', mem_body_iff.mpr ⟨k, hnumbered⟩, hl⟩
        exact absurd (localId_inj.mp hvar).symm (avoidsTemps_iff.mp havoids n i hn hi l hlocal)
      · rfl

end MethodDecl

/-! ## Encoded methods -/

namespace Encoder

variable {e : Encoder} {m : MethodDecl} {answer : Answer}

theorem hasAcceptedLiteral_of_wholeMethod
    (h : (e.call (.wholeMethod m)).result = .ok answer) :
    ∀ i ∈ m.body, i.HasAcceptedLiteral := by
  obtain ⟨hfailure, -⟩ := (result_perform_eq_ok_iff _ _ _).mp h
  have hpass := (Step.forall_passes_iff.mp (Plan.passes_of_success hfailure)).1
  have hplan : ((Call.wholeMethod m).encoding e.settings).plan =
      (Encoding.wholeMethod e.settings m).plan := rfl
  rw [hplan, Encoding.plan_wholeMethod, Plan.steps_append, Plan.steps_flatMap,
    List.forall_mem_append, List.forall_mem_flatMap] at hpass
  intro i hi
  obtain ⟨k, hk⟩ := MethodDecl.mem_body_iff.mp hi
  exact (Encoding.canPass_instruction_iff e.settings m _ i).mp (hpass.2 (k, i) hk)

/-- A method that is encoded with success records the types that it supplies. -/
theorem types_wholeMethod (h : (e.call (.wholeMethod m)).result = .ok answer) :
    (e.call (.wholeMethod m)).encoder.types = e.types.recordAll (m.supplied e.settings) := by
  obtain ⟨hfailure, -⟩ := (result_perform_eq_ok_iff _ _ _).mp h
  rw [← Encoding.registrations_wholeMethod e.settings (hasAcceptedLiteral_of_wholeMethod h)]
  exact Plan.types_run_of_success hfailure

/-- A method that is encoded with success has the rows of its instructions. -/
theorem mem_facts_wholeMethod
    (h : (e.call (.wholeMethod m)).result = .ok answer)
    {number : Nat} {i : Instruction} (hi : (number, i) ∈ m.numberedBody)
    {r : Relation} (hr : r.isAboutBodies = true) {row : List String}
    (hrow : (r, row) ∈ i.bodyRows e.settings m number) :
    row ∈ (e.call (.wholeMethod m)).encoder.store.facts r := by
  have hfailure : (Plan.run e.types (Encoding.wholeMethod e.settings m).plan).failure = none :=
    ((result_perform_eq_ok_iff _ _ _).mp h).1
  have hsteps : ∀ s ∈ (Encoding.instruction e.settings (.ofHandles number) m i).steps,
      s ∈ (Encoding.wholeMethod e.settings m).plan.steps := by
    intro s hs
    rw [Encoding.plan_wholeMethod, Plan.steps_append, Plan.steps_flatMap]
    exact List.mem_append_right _ (List.mem_flatMap.mpr ⟨(number, i), hi, hs⟩)
  have hrefuse : ∀ error, Step.refuse error ∉
      (Encoding.instruction e.settings (.ofHandles number) m i).steps := by
    intro error hmem
    exact Plan.passes_of_success hfailure _ (hsteps _ hmem)
  let f : Fact := ⟨r, row, Instruction.length_of_mem_bodyRows hrow⟩
  have hwrite : Step.write f ∈ (Encoding.wholeMethod e.settings m).plan.steps :=
    hsteps _ ((Encoding.write_mem_instruction_iff hrefuse hr).mpr hrow)
  rw [← Plan.taken_eq_steps hfailure] at hwrite
  have hwritten := (Plan.mem_rows_run_iff (Relation.isAboutTypes_of_isAboutBodies hr)).mpr hwrite
  rw [FactStore.mem_facts_iff, accepted_call]
  exact ⟨f, List.mem_append_right _ hwritten, rfl, rfl⟩

end Encoder

/-- An encoder that holds no variable of a method yet, whatever else it has encoded, encodes the
method with success.  Then each method handle of the body is allocated into its temporary and copied
from there, and different handles have different temporaries.  The numbers of temporaries have no
bound; they are those of a counter of 32 bits if the body has fewer than `2 ^ 32` method handles.
The temporaries differ from all variables that the body names exactly if it names none of these like
a temporary; in that case the type of each temporary is that of method handles. -/
theorem handleTemps_of_wholeMethod
    {settings : EncoderSettings} {journaled : Bool} {cs : List Call} {e : Encoder}
    (he : e = (Encoder.fresh settings journaled).calls cs) {m : MethodDecl}
    (hnew : ∀ name, e.types.get? (localId (m.id e.settings) name) = none)
    {answer : Answer} (h : (e.call (.wholeMethod m)).result = .ok answer) :
    let method := m.id e.settings
    let temp (n : Nat) : String := localId method (m.handleTempName n)
    let store := (e.call (.wholeMethod m)).encoder.store
    (∀ n i dest handle, m.body[n]? = some i →
      i.operation = .constant dest (.methodHandle handle) →
        [i.id method, i.index.toNat.repr, handleId handle, temp n, method,
            (i.line.getD 0).toNat.repr] ∈ store.facts .assignHeapAlloc ∧
          [i.id method, i.index.toNat.repr, temp n, localId method dest.name, method] ∈
            store.facts .assignLocal) ∧
    (∀ n n' i i', m.body[n]? = some i → i.isHandle = true →
      m.body[n']? = some i' → i'.isHandle = true → n ≠ n' → temp n ≠ temp n') ∧
    (m.body.countP Instruction.isHandle < 2 ^ 32 → ∀ n i, m.body[n]? = some i → i.isHandle = true →
      temp n = localId method ("$mhandleconstant" ++
        (UInt32.ofNat ((m.body.take n).countP Instruction.isHandle)).toNat.repr)) ∧
    ((∀ n i, m.body[n]? = some i → i.isHandle = true →
      ∀ l ∈ m.locals, localId method l.name ≠ temp n) ↔ m.AvoidsTemps) ∧
    (m.AvoidsTemps → ∀ n i, m.body[n]? = some i → i.isHandle = true →
      ∀ name, [temp n, name] ∈ store.facts .varType ↔
        name = "java.lang.invoke.MethodHandle") := by
  intro method temp store
  refine ⟨?_, ?_, ?_, ?_, ?_⟩
  · intro n i dest handle hn hop
    have hnumbered := MethodDecl.mem_numberedBody_iff.mpr ⟨n, hn, rfl⟩
    constructor
    · apply Encoder.mem_facts_wholeMethod h hnumbered rfl
      simp [Instruction.bodyRows, hop, temp, method, localId, MethodDecl.handleTempName_eq,
        handleId, Instruction.id, Operation.label]
    · apply Encoder.mem_facts_wholeMethod h hnumbered rfl
      simp [Instruction.bodyRows, hop, temp, method, localId, MethodDecl.handleTempName_eq,
        Instruction.id, Operation.label]
  · intro n n' i i' hn hi hn' hi' hne htemp
    exact MethodDecl.handleTempName_ne hn hi hn' hi' hne (localId_inj.mp htemp)
  · intro hbound n i hn hi
    exact congrArg (localId method) (MethodDecl.handleTempName_eq_of_countP_lt hbound hn hi)
  · simp only [temp, Ne, localId_inj]
    exact MethodDecl.avoidsTemps_iff.symm
  · intro havoids n i hn hi name
    have hshown : (e.call (.wholeMethod m)).encoder.types.Shown store.accepted.toList := by
      have hcalls := shown_calls_fresh settings journaled (cs ++ [.wholeMethod m])
      rw [Encoder.calls_append, ← he] at hcalls
      exact hcalls
    have htype : (e.call (.wholeMethod m)).encoder.types.get? (temp n) =
        some (.named "java.lang.invoke.MethodHandle") := by
      -- nothing was recorded before, so the first type that the method supplies counts
      rw [Encoder.types_wholeMethod h, RecordedTypes.get?_recordAll, hnew, Option.none_or]
      exact MethodDecl.lookup_supplied_handleTemp havoids hn hi
    rw [FactStore.mem_facts_iff]
    constructor
    · intro hrow
      obtain ⟨type, hget, -, rfl⟩ := (hshown _ _).mp hrow
      rw [htype] at hget
      cases hget
      rfl
    · rintro rfl
      exact (hshown _ _).mpr ⟨_, htype, rfl, rfl⟩

/-- A method handle in a variable. -/
def putHandle : Instruction where
  index := 2
  line := none
  operation := .constant ⟨"h", .named "java.lang.Object"⟩ (.methodHandle "g")

/-- A static method whose body puts a number into a variable and two method handles into another. -/
def handlesMethod (name : String) : MethodDecl where
  declaringClass := "A"
  name := "m"
  params := []
  returnType := .primitive .void
  modifiers := [.static]
  declaredExceptions := []
  body :=
    [⟨0, none, .constant ⟨name, .primitive .int⟩ (.numeric "1")⟩,
      ⟨1, none, .constant ⟨"h", .named "java.lang.Object"⟩ (.methodHandle "f")⟩, putHandle]

/-- The number is in a variable that is named like no temporary of the body, if like one that the
body does not need. -/
theorem handleTemps_handlesMethod :
    let m := handlesMethod "$mhandleconstant2"
    let e := (Encoder.fresh .standard true).calls [.stringConstant "text"]
    let store := (e.call (.wholeMethod m)).encoder.store
    (∀ name, e.types.get? (localId (m.id e.settings) name) = none) ∧
    (e.call (.wholeMethod m)).result = .ok (.statistics ⟨0, 0, 1, 3, 0, 0⟩) ∧ m.AvoidsTemps ∧
    ["<A: void m()>/assign-handle/instruction2", "2", "<handle g>",
      "<A: void m()>/$mhandleconstant1", "<A: void m()>", "0"] ∈ store.facts .assignHeapAlloc ∧
    ["<A: void m()>/$mhandleconstant1", "java.lang.invoke.MethodHandle"] ∈
      store.facts .varType := by
  intro m e store
  have hempty : e.types = .empty := by decide +kernel
  have hnew : ∀ name, e.types.get? (localId (m.id e.settings) name) = none := by
    intro name
    rw [hempty, RecordedTypes.get?_empty]
  have h : (e.call (.wholeMethod m)).result = .ok (.statistics ⟨0, 0, 1, 3, 0, 0⟩) := by
    decide +kernel
  have havoids : m.AvoidsTemps := by decide +kernel
  have hcells : ["<A: void m()>/assign-handle/instruction2", "2", "<handle g>",
      "<A: void m()>/$mhandleconstant1", "<A: void m()>", "0"] =
        [putHandle.id (m.id e.settings), "2", handleId "g",
          localId (m.id e.settings) (m.handleTempName 2), m.id e.settings, "0"] := by
    decide +kernel
  have htemp : "<A: void m()>/$mhandleconstant1" =
      localId (m.id e.settings) (m.handleTempName 2) := by
    decide +kernel
  obtain ⟨hrows, -, -, -, htypes⟩ := handleTemps_of_wholeMethod rfl hnew h
  refine ⟨hnew, h, havoids, ?_, ?_⟩
  · rw [hcells]
    exact (hrows 2 putHandle _ _ rfl rfl).1
  · rw [htemp]
    exact (htypes havoids 2 putHandle rfl rfl _).mpr rfl

/-- The number is in a variable with the name of a temporary, which gets its type. -/
theorem handleTemps_clash :
    let m := handlesMethod "$mhandleconstant0"
    let e := Encoder.fresh .standard true
    let store := (e.call (.wholeMethod m)).encoder.store
    (∀ name, e.types.get? (localId (m.id e.settings) name) = none) ∧
    (e.call (.wholeMethod m)).result = .ok (.statistics ⟨0, 0, 1, 3, 0, 0⟩) ∧
    ["<A: void m()>/assign-handle/instruction1", "1", "<handle f>",
      "<A: void m()>/$mhandleconstant0", "<A: void m()>", "0"] ∈ store.facts .assignHeapAlloc ∧
    ⟨"$mhandleconstant0", .primitive .int⟩ ∈ m.locals ∧
    ["<A: void m()>/$mhandleconstant0", "int"] ∈ store.facts .varType ∧
    ["<A: void m()>/$mhandleconstant0", "java.lang.invoke.MethodHandle"] ∉
      store.facts .varType := by
  intro m e store
  have hempty : e.types = .empty := by decide +kernel
  refine ⟨?_, by decide +kernel, ?_, by decide +kernel, ?_, ?_⟩
  · intro name
    rw [hempty, RecordedTypes.get?_empty]
  · rw [FactStore.mem_facts_iff, HasRow]
    decide +kernel
  · rw [FactStore.mem_facts_iff, HasRow]
    decide +kernel
  · rw [FactStore.mem_facts_iff, HasRow]
    decide +kernel

end ProgramFacts
