import ProgramFacts.Proofs.ProgramForm

/-!
# Texts of programs

The text of a program that was read is read as the same program.  Linking it once more changes
nothing, and its members name the classes that declare them.
-/

namespace ProgramFacts

/-! ## Written programs are printable -/

theorem TypeRef.isPrintable_toJson (t : TypeRef) : t.toJson.IsPrintable :=
  Json.isPrintable_text t.name

theorem Modifier.isPrintable_toJson (m : Modifier) : m.toJson.IsPrintable :=
  Json.isPrintable_text m.name

theorem Local.isPrintable_toJson (l : Local) : l.toJson.IsPrintable := by
  apply Json.isPrintable_record
  simp [Json.isPrintable_text, l.type.isPrintable_toJson]

theorem Constant.isPrintable_toJson (c : Constant) : c.toJson.IsPrintable := by
  cases c <;>
    · apply Json.isPrintable_record
      simp [Json.isPrintable_text]

theorem Instruction.isPrintable_toJson (i : Instruction) : i.toJson.IsPrintable := by
  have hline : (Json.option (i.line.map fun n => .natural n.toNat)).IsPrintable :=
    Json.isPrintable_option (fun n => Json.isPrintable_natural n.toNat) i.line
  have hoperation : ∀ m ∈ i.operation.toMembers, m.2.IsPrintable := by
    cases i.operation <;>
      simp [Operation.toMembers, Json.isPrintable_text, Local.isPrintable_toJson,
        Constant.isPrintable_toJson]
  apply Json.isPrintable_record
  intro m hm
  rcases List.mem_append.mp hm with hm | hm
  · simp only [List.mem_cons, List.not_mem_nil, or_false] at hm
    rcases hm with rfl | rfl
    · exact Json.isPrintable_natural i.index.toNat
    · exact hline
  · exact hoperation m hm

theorem FieldDecl.isPrintable_toJson (f : FieldDecl) : f.toJson.IsPrintable := by
  apply Json.isPrintable_record
  simp [Json.isPrintable_text, TypeRef.isPrintable_toJson, Json.isPrintable_list,
    Modifier.isPrintable_toJson]

theorem MethodDecl.isPrintable_toJson (m : MethodDecl) : m.toJson.IsPrintable := by
  apply Json.isPrintable_record
  simp [Json.isPrintable_text, TypeRef.isPrintable_toJson, Json.isPrintable_list,
    Modifier.isPrintable_toJson, Instruction.isPrintable_toJson]

theorem ClassDecl.isPrintable_toJson (c : ClassDecl) : c.toJson.IsPrintable := by
  have hsuperclass := Json.isPrintable_option Json.isPrintable_text c.superclass
  have hartifact := Json.isPrintable_option Json.isPrintable_text c.artifact
  have hinterfaces : (Json.texts c.interfaces).IsPrintable :=
    Json.isPrintable_list fun s _ => Json.isPrintable_text s
  apply Json.isPrintable_record
  simp [Json.isPrintable_text, Json.IsPrintable.bool, hsuperclass, hinterfaces, hartifact,
    Json.isPrintable_list, Modifier.isPrintable_toJson, FieldDecl.isPrintable_toJson,
    MethodDecl.isPrintable_toJson]

theorem Property.isPrintable_toJson (q : Property) : q.toJson.IsPrintable := by
  apply Json.isPrintable_record
  simp [Json.isPrintable_text]

theorem Program.isPrintable_toJson (p : Program) : p.toJson.IsPrintable := by
  apply Json.isPrintable_record
  simp [Json.isPrintable_list, ClassDecl.isPrintable_toJson, Property.isPrintable_toJson]

/-! ## Linking -/

theorem FieldDecl.adopt_adopt (owner : String) (f : FieldDecl) :
    (f.adopt owner).adopt owner = f.adopt owner := by
  unfold adopt
  split_ifs <;> simp_all

theorem MethodDecl.adopt_adopt (owner : String) (m : MethodDecl) :
    (m.adopt owner).adopt owner = m.adopt owner := by
  unfold adopt
  split_ifs <;> simp_all

theorem FieldDecl.declaringClass_adopt {owner : String} (h : owner ≠ "") (f : FieldDecl) :
    (f.adopt owner).declaringClass ≠ "" := by
  unfold adopt
  split_ifs with hnone
  · exact h
  · exact hnone

theorem MethodDecl.declaringClass_adopt {owner : String} (h : owner ≠ "") (m : MethodDecl) :
    (m.adopt owner).declaringClass ≠ "" := by
  unfold adopt
  split_ifs with hnone
  · exact h
  · exact hnone

theorem ClassDecl.adoptMembers_adoptMembers (c : ClassDecl) :
    c.adoptMembers.adoptMembers = c.adoptMembers := by
  simp [adoptMembers, Function.comp_def, FieldDecl.adopt_adopt, MethodDecl.adopt_adopt]

/-- Members get another class, not other types. -/
theorem ClassDecl.HasSource.adoptMembers {c : ClassDecl} (h : c.HasSource) :
    c.adoptMembers.HasSource := by
  constructor
  · intro f hf
    obtain ⟨original, horiginal, rfl⟩ := List.mem_map.mp hf
    unfold FieldDecl.adopt
    split_ifs
    · exact h.fields original horiginal
    · exact h.fields original horiginal
  · intro m hm
    obtain ⟨original, horiginal, rfl⟩ := List.mem_map.mp hm
    obtain ⟨hparams, hreturn, hexceptions, hbody⟩ := h.methods original horiginal
    unfold MethodDecl.adopt
    split_ifs
    · exact ⟨hparams, hreturn, hexceptions, hbody⟩
    · exact ⟨hparams, hreturn, hexceptions, hbody⟩

namespace Program

theorem link_link (p : Program) : p.link.link = p.link := by
  simp [link, Function.comp_def, ClassDecl.adoptMembers_adoptMembers]

theorem HasSource.link {p : Program} (h : p.HasSource) : p.link.HasSource := by
  intro c hc
  obtain ⟨original, horiginal, rfl⟩ := List.mem_map.mp hc
  exact (h original horiginal).adoptMembers

/-- Whether every member names a declaring class, but for the members of classes without a name. -/
def NamesDeclaringClasses (p : Program) : Prop :=
  ∀ c ∈ p.classes, c.name ≠ "" →
    (∀ f ∈ c.fields, f.declaringClass ≠ "") ∧ ∀ m ∈ c.methods, m.declaringClass ≠ ""

theorem namesDeclaringClasses_link (p : Program) : p.link.NamesDeclaringClasses := by
  intro c hc hname
  obtain ⟨original, -, rfl⟩ := List.mem_map.mp hc
  constructor
  · intro f hf
    obtain ⟨g, -, rfl⟩ := List.mem_map.mp hf
    exact g.declaringClass_adopt hname
  · intro m hm
    obtain ⟨n, -, rfl⟩ := List.mem_map.mp hm
    exact n.declaringClass_adopt hname

/-- A program that was read from a text is read again from its own text, and is linked already. -/
theorem ofText_compact_toJson {s : String} {p : Program} (h : ofText? s = some p) :
    ofJson? p.toJson = some p ∧ ofText? p.toJson.compact = some p ∧ p.link = p ∧
      p.NamesDeclaringClasses := by
  obtain ⟨original, horiginal, rfl⟩ := Option.map_eq_some_iff.mp h
  obtain ⟨v, -, hv⟩ := Option.bind_eq_some_iff.mp horiginal
  have hread : ofJson? original.link.toJson = some original.link :=
    ofJson?_toJson (hasSource_of_ofJson? hv).link
  have htext := Json.ofText?_compact original.link.isPrintable_toJson
  refine ⟨hread, ?_, original.link_link, original.namesDeclaringClasses_link⟩
  -- what is read back is linked once more, which changes nothing
  rw [ofText?, htext, Option.bind_some, hread, Option.map_some, link_link]

/-- A program with blanks in a type, a field that names no declaring class, and an instruction that
gives its members in another order. -/
def looseText : String :=
  "\x7b\"classes\":[\x7b\"name\":\"A\",\"fields\":[\x7b\"name\":\"f\",\"type\":\" int []\"\x7d]," ++
    "\"methods\":[[\"A\",\"m\",[],\"void\",[\"static\"],[],[\x7b\"op\":\"constant\",\"index\":7," ++
    "\"value\":[\"numeric\",\"1\"],\"dest\":[\"x\",\"?T\"]\x7d]]]\x7d]\x7d"

def looseProgram : Program :=
  ⟨[⟨"A", false, none, [], [], [⟨"A", "f", .array (.primitive .int), []⟩],
    [⟨"A", "m", [], .primitive .void, [.static], [],
      [⟨7, none, .constant ⟨"x", .unresolved "T"⟩ (.numeric "1")⟩]⟩], false, none⟩], []⟩

theorem ofText_compact_toJson_looseText :
    ofText? looseText = some looseProgram ∧
      ofText? looseProgram.toJson.compact = some looseProgram := by
  have hread : ofText? looseText = some looseProgram := by
    decide +kernel
  exact ⟨hread, (ofText_compact_toJson hread).2.1⟩

end Program
end ProgramFacts
