import ProgramFacts.Proofs.Calls
import ProgramFacts.Proofs.Descriptor
import ProgramFacts.Proofs.SourceGrammar

/-!
# Names of class literals

A class literal is read as a descriptor, in which anything but a semicolon may stand in the name of
a class.  The facts hold the name of its type, and this is read back as the type exactly if the
class, under all array levels, has a name that a source form may have.
-/

namespace ProgramFacts

namespace Text

/-- The code points of the blank characters. -/
def blankCodes : List Nat :=
  List.range' 9 5 ++ [0x20, 0x85, 0xA0, 0x1680] ++ List.range' 0x2000 11 ++
    [0x2028, 0x2029, 0x202F, 0x205F, 0x3000]

theorem toNat_mem_blankCodes {c : Char} (h : isBlank c = true) : c.toNat ∈ blankCodes := by
  simp only [isBlank, Bool.or_eq_true, Bool.and_eq_true, decide_eq_true_eq, beq_iff_eq] at h
  simp only [blankCodes, List.mem_append, List.mem_range'_1, List.mem_cons, List.not_mem_nil,
    or_false]
  omega

theorem isAlphanumeric_of_isBlank {c : Char} (h : isBlank c = true) : isAlphanumeric c = false := by
  have hall : ∀ n ∈ blankCodes,
      (alphanumericRanges.any fun range => range.1 ≤ n && n ≤ range.2) = false := by
    decide +kernel
  exact hall c.toNat (toNat_mem_blankCodes h)

end Text

namespace TypeRef

/-! ## Names of classes -/

theorem isBlank_of_isNameChar {c : Char} (h : isNameChar c = true) : Text.isBlank c = false := by
  by_contra hblank
  rw [Bool.not_eq_false] at hblank
  simp only [isNameChar, Text.isAlphanumeric_of_isBlank hblank, Bool.false_or, Bool.or_eq_true,
    beq_iff_eq] at h
  rcases h with ((rfl | rfl) | rfl) | rfl <;> exact absurd hblank (by decide)

/-- There is nothing to take off a text of name characters. -/
theorem peel_of_nameChars {cs : List Char} (h : ∀ c ∈ cs, isNameChar c = true) :
    peel cs = (cs, 0) := by
  have hbracket : isNameChar ']' = false := by decide +kernel
  have hsettled : Settled cs.reverse := by
    intro c rest hcs
    have hname : isNameChar c = true := h c (List.mem_reverse.mp (hcs ▸ List.mem_cons_self))
    refine ⟨isBlank_of_isNameChar hname, ?_⟩
    rintro rfl
    rw [hbracket] at hname
    cases hname
  have htrim : Text.trimStart cs = cs := by
    cases cs with
    | nil => rfl
    | cons c rest =>
        have hblank := isBlank_of_isNameChar (h c List.mem_cons_self)
        rw [Text.trimStart, List.dropWhile_cons, hblank]
        rfl
  rw [peel, peelReversed_of_settled hsettled]
  simp only [List.reverse_reverse, htrim]

theorem isNameChar_of_isClassName {cs : List Char} (h : isClassName cs = true) :
    ∀ c ∈ cs, isNameChar c = true := by
  intro c hc
  exact (isNameChar_iff c).mpr (((isClassName_iff cs).mp h).chars c hc)

theorem ofBase_eq_named_iff (cs : List Char) :
    ofBase cs = .ok (named (String.ofList cs)) ↔
      isClassName cs = true ∧ Primitive.ofName? (String.ofList cs) = none := by
  have hkeyword : (∀ p : Primitive, p.name.toList ≠ cs) ↔
      Primitive.ofName? (String.ofList cs) = none := by
    rw [Primitive.ofName?_eq_none_iff]
    simp only [ne_eq, ← String.toList_inj, String.toList_ofList]
  rw [ofBase_eq_ok_iff, isClassName_iff, ← hkeyword]
  constructor
  · intro h
    cases h with
    | named hname hother => exact ⟨hname, hother⟩
  · rintro ⟨hname, hother⟩
    exact .named hname hother

/-- The name of a class is read as this class exactly if it is the dotted name of a class and not
the keyword of a primitive type. -/
theorem ofSource_eq_named_iff {n : String} :
    ofSource n = .ok (named n) ↔ isClassName n.toList = true ∧ Primitive.ofName? n = none := by
  have hbase : ofBase n.toList = .ok (named n) ↔
      isClassName n.toList = true ∧ Primitive.ofName? n = none := by
    have h := ofBase_eq_named_iff n.toList
    rwa [String.ofList_toList] at h
  rw [← hbase, ofSource_eq_ok_iff]
  constructor
  · rintro ⟨base, hread, hnest⟩
    cases hlevels : (peel n.toList).2 with
    | zero =>
        obtain rfl : named n = base := by rw [hnest, hlevels, nest]
        have hchars := toList_name_of_ofBase hread
        rw [name] at hchars
        rw [hchars]
        exact hread
    | succ levels =>
        rw [hlevels, nest] at hnest
        cases hnest
  · intro hread
    obtain ⟨hclass, -⟩ := hbase.mp hread
    rw [peel_of_nameChars (isNameChar_of_isClassName hclass)]
    exact ⟨named n, hread, rfl⟩

/-! ## Array levels -/

theorem nest_depth_element (t : TypeRef) : nest t.depth t.element = t := by
  induction t with
  | array component ih => rw [depth, element, nest, ih]
  | _ => rfl

theorem depth_element (t : TypeRef) : t.element.depth = 0 := by
  induction t with
  | array component ih => exact ih
  | _ => rfl

theorem nest_add (m n : Nat) (t : TypeRef) : nest (m + n) t = nest n (nest m t) := by
  induction n with
  | zero => rfl
  | succ n ih => rw [← Nat.add_assoc, nest, nest, ih]

theorem nest_inj (n : Nat) {t t' : TypeRef} (h : nest n t = nest n t') : t = t' := by
  induction n with
  | zero => exact h
  | succ n ih => exact ih (array.inj h)

/-- The name of a type is read back as the type exactly if the name of its element is read back as
the element. -/
theorem ofSource_name_iff_element (t : TypeRef) :
    ofSource t.name = .ok t ↔ ofSource t.element.name = .ok t.element := by
  -- the element may have a name that ends in brackets, so levels of its own may be peeled off
  have hpeel : peel t.name.toList =
      ((peel t.element.name.toList).1, (peel t.element.name.toList).2 + t.depth) := by
    rw [← peel_append_brackets, ← toList_name_nest, nest_depth_element]
  rw [ofSource_eq_ok_iff, ofSource_eq_ok_iff, hpeel]
  simp only [nest_add]
  constructor
  · rintro ⟨base, hbase, hnest⟩
    refine ⟨base, hbase, nest_inj t.depth ?_⟩
    rw [nest_depth_element]
    exact hnest
  · rintro ⟨base, hbase, hnest⟩
    refine ⟨base, hbase, ?_⟩
    rw [← hnest, nest_depth_element]

theorem ofSource_name_primitive (p : Primitive) : ofSource p.name = .ok (primitive p) := by
  rw [ofSource_eq_ok_iff, peel_of_nameChars (isNameChar_of_mem_primitive p)]
  exact ⟨primitive p, ofBase_eq_ok_iff.mpr (.primitive p), rfl⟩

/-- What a descriptor denotes is read back from its name exactly if the class under its array
levels, if there is one, is named as classes are in source forms. -/
theorem ofSource_name_iff_of_ofDescriptor?
    {literal : String} {t : TypeRef} (h : ofDescriptor? literal = some t) :
    ofSource t.name = .ok t ↔
      ∀ n, t.element = named n → isClassName n.toList = true ∧ Primitive.ofName? n = none := by
  have hresolved : t.element.isResolved = true := by
    rw [← isResolved_nest t.depth, nest_depth_element]
    exact isResolved_of_ofDescriptor? h
  rw [ofSource_name_iff_element]
  cases helement : t.element with
  | primitive p => simp [name, ofSource_name_primitive]
  | named n => simp [name, ofSource_eq_named_iff]
  | array component =>
      have hdepth := depth_element t
      rw [helement] at hdepth
      cases hdepth
  | unresolved n =>
      rw [helement] at hresolved
      cases hresolved

end TypeRef

/-! ## Class objects of literals -/

namespace Encoder

variable {e : Encoder} {m : MethodDecl} {i : Instruction} {dest : Local} {literal : String}
  {answer : Answer} {t : TypeRef}

/-- A literal that is assigned with success is accepted, and the answer is its class object. -/
theorem exists_type_of_classAssignment
    (h : (e.call (.classAssignment m i dest literal)).result = .ok answer) :
    ∃ type, Encoding.literalType? literal = some type ∧
      answer = .text (classObjectId type.name) := by
  obtain ⟨hfailure, hanswer⟩ := (result_perform_eq_ok_iff _ _ _).mp h
  cases hliteral : Encoding.literalType? literal with
  | none =>
      simp [Call.encoding, Encoding.map, Encoding.classAssignment, hliteral, Encoding.ofSteps,
        Plan.failure_run_eq_none_iff, Step.Passes] at hfailure
  | some type =>
      refine ⟨type, rfl, ?_⟩
      simpa [Call.encoding, Encoding.map, Encoding.classAssignment, hliteral, Encoding.ofSteps,
        eq_comm] using hanswer

theorem steps_classAssignment
    (h : (e.call (.classAssignment m i dest literal)).result = .ok answer)
    (ht : TypeRef.ofDescriptor? literal = some t) :
    ((Call.classAssignment m i dest literal).plan e.settings).steps =
      [.mention t, Encoding.localStep (m.id e.settings) dest,
        .write (.of .classHeap [classObjectId t.name, t.name]),
        .write (Encoding.allocationRow (m.id e.settings) i (classObjectId t.name)
          (localId (m.id e.settings) dest.name))] := by
  obtain ⟨type, hliteral, -⟩ := exists_type_of_classAssignment h
  obtain ⟨htype, -⟩ := Encoding.literalType?_eq_some_iff.mp hliteral
  obtain rfl : t = type := by
    rw [ht] at htype
    exact Option.some.inj htype
  simp [Call.plan, Call.encoding, Encoding.map, Encoding.classAssignment, hliteral,
    Encoding.ofSteps]

/-- A literal that is assigned with success has the rows of its array levels, those of the variable
under the type that was recorded for it, the row of its class object, and its allocation. -/
theorem rows_classAssignment
    (h : (e.call (.classAssignment m i dest literal)).result = .ok answer)
    (ht : TypeRef.ofDescriptor? literal = some t) :
    ∃ recorded,
      (e.call (.classAssignment m i dest literal)).run.rows =
        t.arrayRows ++
          variableRows (localId (m.id e.settings) dest.name) recorded (m.id e.settings) ++
          [.of .classHeap [classObjectId t.name, t.name],
            Encoding.allocationRow (m.id e.settings) i (classObjectId t.name)
              (localId (m.id e.settings) dest.name)] := by
  have hfailure :
      (Plan.run e.types ((Call.classAssignment m i dest literal).plan e.settings)).failure = none :=
    ((result_perform_eq_ok_iff _ _ _).mp h).1
  have hrows := Plan.rows_run_of_success hfailure
  rw [steps_classAssignment h ht] at hrows
  refine ⟨(e.call (.classAssignment m i dest literal)).encoder.types.resolve
    (localId (m.id e.settings) dest.name) dest.type, ?_⟩
  rw [run_call, hrows, types_call]
  simp only [List.flatMap_cons, List.flatMap_nil, Step.rowsUnder, Encoding.localStep,
    List.append_assoc, List.cons_append, List.nil_append]

end Encoder

/-- A class literal is read as a descriptor, and its facts name the type that it denotes.  The name
is read back as this type exactly if the class under the array levels, if there is one, is named as
classes are in source forms.  Whatever the name reads as, a literal that is assigned gets one row
for its class object, with this name, and the array levels of the type that it denotes. -/
theorem literal_name_reads_back_iff
    {literal : String} {t : TypeRef} (h : TypeRef.ofDescriptor? literal = some t) :
    (TypeRef.ofSource t.name = .ok t ↔
      ∀ n, t.element = .named n →
        TypeRef.isClassName n.toList = true ∧ Primitive.ofName? n = none) ∧
    ∀ (e : Encoder) (m : MethodDecl) (i : Instruction) (dest : Local) (answer : Answer),
      let assigned := e.call (.classAssignment m i dest literal)
      let method := m.id e.settings
      let var := localId method dest.name
      assigned.result = .ok answer →
        ∃ recorded, assigned.run.rows =
          t.arrayRows ++ variableRows var recorded method ++
            [.of .classHeap [classObjectId t.name, t.name],
              Encoding.allocationRow method i (classObjectId t.name) var] := by
  constructor
  · exact TypeRef.ofSource_name_iff_of_ofDescriptor? h
  · intro e m i dest answer assigned method var hok
    exact Encoder.rows_classAssignment hok h

/-- A static method that puts class objects into a variable. -/
def literalMethod : MethodDecl where
  declaringClass := "A"
  name := "m"
  params := []
  returnType := .primitive .void
  modifiers := [.static]
  declaredExceptions := []
  body := []

/-- The assignment of a class literal in that method. -/
def assignLiteral (literal : String) : Call :=
  let x : Local := ⟨"x", .named "java.lang.Class"⟩
  .classAssignment literalMethod ⟨0, none, .constant x (.classLiteral literal)⟩ x literal

/-- The literal of an array of classes with a proper name. -/
theorem literal_name_reads_back_properArray :
    let literal := "[Lp/Q$1;"
    let t : TypeRef := .array (.named "p.Q$1")
    let assigned := (Encoder.fresh .standard true).call (assignLiteral literal)
    TypeRef.ofDescriptor? literal = some t ∧ TypeRef.ofSource "p.Q$1[]" = .ok t ∧
      assigned.result = .ok (.text "<class p.Q$1[]>") ∧
      ∃ recorded i, assigned.run.rows =
        t.arrayRows ++ variableRows "<A: void m()>/x" recorded "<A: void m()>" ++
          [.of .classHeap ["<class p.Q$1[]>", "p.Q$1[]"],
            Encoding.allocationRow "<A: void m()>" i "<class p.Q$1[]>" "<A: void m()>/x"] := by
  intro literal t assigned
  have h : TypeRef.ofDescriptor? literal = some t := by decide +kernel
  have hok : assigned.result = .ok (.text "<class p.Q$1[]>") := by decide +kernel
  obtain ⟨hread, hrows⟩ := literal_name_reads_back_iff h
  have hname : TypeRef.ofSource "p.Q$1[]" = .ok t := by
    apply hread.mpr
    rintro n hn
    cases hn
    decide +kernel
  obtain ⟨recorded, hwritten⟩ := hrows _ _ _ _ _ hok
  exact ⟨h, hname, hok, recorded, _, hwritten⟩

/-- Literals that name a class, but whose names read as a primitive type, as an unresolved type, as
an array and as no type at all.  The one that reads as an array has no row as an array type. -/
theorem literal_name_misread :
    let assigned := (Encoder.fresh .standard true).call (assignLiteral "La[];")
    TypeRef.ofDescriptor? "Lint;" = some (.named "int") ∧
    TypeRef.ofSource "int" = .ok (.primitive .int) ∧
    TypeRef.ofDescriptor? "L?x;" = some (.named "?x") ∧
    TypeRef.ofSource "?x" = .ok (.unresolved "x") ∧
    TypeRef.ofDescriptor? "La b;" = some (.named "a b") ∧
    TypeRef.ofSource "a b" = .error (.malformed "a b") ∧
    TypeRef.ofDescriptor? "La[];" = some (.named "a[]") ∧
    TypeRef.ofSource "a[]" = .ok (.array (.named "a")) ∧
    assigned.result = .ok (.text "<class a[]>") ∧
    assigned.run.rows.map (fun f => (f.relation, f.row)) =
      [(.varType, ["<A: void m()>/x", "java.lang.Class"]),
        (.varDeclaringMethod, ["<A: void m()>/x", "<A: void m()>"]),
        (.classHeap, ["<class a[]>", "a[]"]),
        (.assignHeapAlloc,
          ["<A: void m()>/assign-class/instruction0", "0", "<class a[]>", "<A: void m()>/x",
            "<A: void m()>", "0"])] := by
  intro assigned
  refine ⟨?_, ?_, ?_, ?_, ?_, ?_, ?_, ?_, ?_, ?_⟩ <;> decide +kernel

end ProgramFacts
