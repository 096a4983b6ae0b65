import ProgramFacts.Program.Read
import ProgramFacts.Program.Write
import ProgramFacts.Proofs.JsonText
import ProgramFacts.Proofs.SourceForm

/-!
# Reading written programs

A program that was read is written in a form from which the same program is read.  What a program
has to fulfil for that is that all its types have source forms, which reading sees to and linking
does not change.
-/

namespace ProgramFacts

/-! ## Records and lists -/

namespace Json

/-- The members of a record, as they are read. -/
def members (fields : List (String × Json)) : List (Option String × Json) :=
  fields.map fun field => (some field.1, field.2)

/-- Where no key repeats, a member is the only one with its key. -/
theorem filter_key
    {members : List (String × Json)} (hnodup : (members.map Prod.fst).Nodup)
    {m : String × Json} (h : m ∈ members) :
    members.filter (fun other => other.1 == m.1) = [m] := by
  induction members with
  | nil => cases h
  | cons first members ih =>
      obtain ⟨hfirst, hrest⟩ := List.nodup_cons.mp hnodup
      rcases List.mem_cons.mp h with rfl | h
      · have hnone : ∀ other ∈ members, other.1 ≠ m.1 := by
          intro other hother heq
          exact hfirst (heq ▸ List.mem_map_of_mem hother)
        simpa using hnone
      · have hne : first.1 ≠ m.1 := by
          intro heq
          exact hfirst (heq ▸ List.mem_map_of_mem h)
        simpa [hne] using ih hrest h

theorem onlyMember?_members
    {fields : List (String × Json)} (hnodup : (fields.map Prod.fst).Nodup)
    {field : String × Json} (h : field ∈ fields) :
    onlyMember? (members fields) field.1 = some (some field.2) := by
  have hfilter : (members fields).filter (fun m => m.1 == some field.1) =
      members (fields.filter fun other => other.1 == field.1) := by
    rw [members, List.filter_map]
    rfl
  rw [onlyMember?, hfilter, filter_key hnodup h]
  rfl

/-- The fields of a record are read from its members. -/
theorem fields?_record
    (names : List String) (values : List Json) (hnodup : names.Nodup)
    (hlength : names.length = values.length) :
    (record (names.zip values)).fields? names = some (values.map some) := by
  have hnames : (names.zip values).map Prod.fst = names := List.map_fst_zip hlength.le
  have hvalues : (names.zip values).map Prod.snd = values := List.map_snd_zip hlength.ge
  have hkeys : (members (names.zip values)).all (fun m => m.1.isSome) = true := by
    simp [members]
  have hread : ((names.zip values).map Prod.fst).mapM (onlyMember? (members (names.zip values))) =
      some ((names.zip values).map (some ∘ Prod.snd)) := by
    rw [List.mapM_map]
    apply Text.mapM_eq_some_map
    intro field hfield
    exact onlyMember?_members (hnames.symm ▸ hnodup) hfield
  rw [hnames, ← List.map_map, hvalues] at hread
  exact (if_pos hkeys).trans hread

theorem exists_of_required
    {α : Type} {read : Json → Option α} {field : Option Json} {x : α}
    (h : required read field = some x) : ∃ v, read v = some x := by
  obtain ⟨v, -, hv⟩ := Option.bind_eq_some_iff.mp h
  exact ⟨v, hv⟩

/-- Every item of a list that was read was read from some value. -/
theorem exists_of_mem_listOf
    {α : Type} {read : Json → Option α} {field : Option Json} {xs : List α}
    (h : withDefault [] (listOf read) field = some xs) : ∀ x ∈ xs, ∃ v, read v = some x := by
  have hall : ∀ {items : List Json} {xs : List α}, items.mapM read = some xs →
      ∀ x ∈ xs, ∃ v, read v = some x := by
    intro items
    induction items with
    | nil =>
        intro xs h
        cases h
        simp
    | cons v items ih =>
        intro xs h
        rw [List.mapM_cons] at h
        obtain ⟨first, hfirst, h⟩ := Option.bind_eq_some_iff.mp h
        obtain ⟨rest, hrest, h⟩ := Option.bind_eq_some_iff.mp h
        cases h
        intro x hx
        rcases List.mem_cons.mp hx with rfl | hx
        · exact ⟨v, hfirst⟩
        · exact ih hrest x hx
  cases field with
  | none =>
      cases h
      simp
  | some v =>
      obtain ⟨items, -, hitems⟩ := Option.bind_eq_some_iff.mp h
      exact hall hitems

theorem listOf_map
    {α : Type} {read : Json → Option α} {write : α → Json} {xs : List α}
    (h : ∀ x ∈ xs, read (write x) = some x) : listOf read (.array (xs.map write)) = some xs :=
  Text.mapM_map_eq_some h

end Json

/-! ## Types -/

/-- Whether a type has a source form. -/
def TypeRef.HasSource (t : TypeRef) : Prop :=
  ∃ s, ofSource s = .ok t

theorem TypeRef.hasSource_of_ofJson? {v : Json} {t : TypeRef} (h : ofJson? v = some t) :
    t.HasSource := by
  obtain ⟨s, -, hs⟩ := Option.bind_eq_some_iff.mp h
  cases hsource : ofSource s with
  | error e => simp [hsource, Except.toOption] at hs
  | ok read =>
      obtain rfl : read = t := by simpa [hsource, Except.toOption] using hs
      exact ⟨s, hsource⟩

theorem TypeRef.hasSource_of_required
    {field : Option Json} {t : TypeRef} (h : Json.required ofJson? field = some t) :
    t.HasSource := by
  obtain ⟨v, hv⟩ := Json.exists_of_required h
  exact hasSource_of_ofJson? hv

theorem TypeRef.hasSource_of_listOf
    {field : Option Json} {types : List TypeRef}
    (h : Json.withDefault [] (Json.listOf ofJson?) field = some types) :
    ∀ t ∈ types, t.HasSource := by
  intro t ht
  obtain ⟨v, hv⟩ := Json.exists_of_mem_listOf h t ht
  exact hasSource_of_ofJson? hv

theorem TypeRef.ofJson?_toJson {t : TypeRef} (h : t.HasSource) : ofJson? t.toJson = some t := by
  obtain ⟨s, hs⟩ := h
  simp [ofJson?, toJson, Json.text, Json.text?, ofSource_name hs, Except.toOption]

theorem Modifier.ofJson?_toJson (m : Modifier) : ofJson? m.toJson = some m := by
  cases m <;> decide +kernel

/-! ## Instructions -/

/-- Whether the type of a local variable has a source form. -/
def Local.HasSource (l : Local) : Prop :=
  l.type.HasSource

theorem Local.hasSource_of_ofJson? {v : Json} {l : Local} (h : ofJson? v = some l) :
    l.HasSource := by
  unfold ofJson? at h
  split at h
  · next name type hfields =>
      obtain ⟨n, -, h⟩ := Option.bind_eq_some_iff.mp h
      obtain ⟨t, htype, h⟩ := Option.bind_eq_some_iff.mp h
      cases h
      exact TypeRef.hasSource_of_required htype
  · cases h

theorem Local.ofJson?_toJson {l : Local} (h : l.HasSource) : ofJson? l.toJson = some l := by
  have hfields : l.toJson.fields? ["name", "type"] =
      some [some (.text l.name), some l.type.toJson] :=
    Json.fields?_record _ [.text l.name, l.type.toJson] (by decide) rfl
  simp [ofJson?, hfields, Json.required, Json.text, Json.text?, TypeRef.ofJson?_toJson h]

theorem Constant.ofJson?_toJson (c : Constant) : ofJson? c.toJson = some c := by
  cases c <;> rfl

/-- Whether the types of all local variables have source forms. -/
def Operation.HasSource : Operation → Prop
  | constant dest _ => dest.HasSource
  | binary dest _ lhs rhs => dest.HasSource ∧ lhs.HasSource ∧ rhs.HasSource
  | returnValue value => value.HasSource
  | returnVoid => True
  | unsupported _ => True

theorem Local.hasSource_of_required
    {field : Option Json} {l : Local} (h : Json.required ofJson? field = some l) :
    l.HasSource := by
  obtain ⟨v, hv⟩ := Json.exists_of_required h
  exact hasSource_of_ofJson? hv

theorem Operation.hasSource_of_ofMembers?
    {op : String} {members : List (Option String × Json)} {o : Operation}
    (h : ofMembers? op members = some o) : o.HasSource := by
  unfold ofMembers? at h
  split at h
  · split at h
    · obtain ⟨dest, hdest, h⟩ := Option.bind_eq_some_iff.mp h
      obtain ⟨value, -, h⟩ := Option.bind_eq_some_iff.mp h
      cases h
      exact Local.hasSource_of_required hdest
    · cases h
  · split at h
    · obtain ⟨dest, hdest, h⟩ := Option.bind_eq_some_iff.mp h
      obtain ⟨operator, -, h⟩ := Option.bind_eq_some_iff.mp h
      obtain ⟨lhs, hlhs, h⟩ := Option.bind_eq_some_iff.mp h
      obtain ⟨rhs, hrhs, h⟩ := Option.bind_eq_some_iff.mp h
      cases h
      exact ⟨Local.hasSource_of_required hdest, Local.hasSource_of_required hlhs,
        Local.hasSource_of_required hrhs⟩
    · cases h
  · split at h
    · obtain ⟨value, hvalue, h⟩ := Option.bind_eq_some_iff.mp h
      cases h
      exact Local.hasSource_of_required hvalue
    · cases h
  · cases h
    trivial
  · split at h
    · obtain ⟨opcode, -, h⟩ := Option.bind_eq_some_iff.mp h
      cases h
      trivial
    · cases h
  · cases h

theorem Operator.ofName?_name (o : Operator) : ofName? o.name = some o := by
  cases o <;> decide +kernel

theorem Operation.ofMembers?_toMembers {o : Operation} (h : o.HasSource) :
    ∃ op, (∀ index line, Json.memberFields? ["index", "line", "op"]
        (Json.members (("index", index) :: ("line", line) :: o.toMembers)) =
          some [some index, some line, some (.text op)]) ∧
      ofMembers? op (Json.members o.toMembers) = some o := by
  cases o with
  | constant dest value =>
      have hmembers : Json.memberFields? ["dest", "value"]
          (Json.members (constant dest value).toMembers) =
            some [some dest.toJson, some value.toJson] := rfl
      refine ⟨"constant", fun _ _ => rfl, ?_⟩
      simp [ofMembers?, hmembers, Json.required, Local.ofJson?_toJson h, Constant.ofJson?_toJson]
  | binary dest operator lhs rhs =>
      obtain ⟨hdest, hlhs, hrhs⟩ := h
      have hmembers : Json.memberFields? ["dest", "operator", "lhs", "rhs"]
          (Json.members (binary dest operator lhs rhs).toMembers) =
            some [some dest.toJson, some (.text operator.name), some lhs.toJson, some rhs.toJson] :=
        rfl
      refine ⟨"binary_op", fun _ _ => rfl, ?_⟩
      simp [ofMembers?, hmembers, Json.required, Local.ofJson?_toJson hdest,
        Local.ofJson?_toJson hlhs, Local.ofJson?_toJson hrhs, Json.text, Json.choice?,
        Operator.ofName?_name]
  | returnValue value =>
      have hmembers : Json.memberFields? ["value"] (Json.members (returnValue value).toMembers) =
          some [some value.toJson] := rfl
      refine ⟨"return", fun _ _ => rfl, ?_⟩
      simp [ofMembers?, hmembers, Json.required, Local.ofJson?_toJson h]
  | returnVoid => exact ⟨"return_void", fun _ _ => rfl, rfl⟩
  | unsupported opcode => exact ⟨"unsupported", fun _ _ => rfl, rfl⟩

/-- Apart from its index and line, an instruction has the members of its operation. -/
theorem Operation.filter_members (o : Operation) (index line : Json) :
    (Json.members (("index", index) :: ("line", line) :: o.toMembers)).filter
      (fun m => m.1 != some "index" && m.1 != some "line") = Json.members o.toMembers := by
  cases o <;> rfl

theorem Operation.isBufferable_toMembers (o : Operation) :
    (Json.members o.toMembers).all (fun m => m.2.isBufferable Instruction.nesting) = true := by
  cases o with
  | constant dest value => cases value <;> rfl
  | binary dest operator lhs rhs => rfl
  | returnValue value => rfl
  | returnVoid => rfl
  | unsupported opcode => rfl

theorem readWord?_natural (n : UInt32) : readWord? (.natural n.toNat) = some n := by
  rw [readWord?, Json.naturalBelow?_natural n.toNat_lt, Option.map_some, UInt32.ofNat_toNat]

theorem readLine?_option (line : Option UInt32) :
    Json.nullable readWord? (.option (line.map fun n => .natural n.toNat)) = some line := by
  cases line with
  | none => rfl
  | some n => exact congrArg (Option.map some) (readWord?_natural n)

theorem Instruction.ofJson?_toJson {i : Instruction} (h : i.operation.HasSource) :
    ofJson? i.toJson = some i := by
  obtain ⟨op, hfields, hoperation⟩ := Operation.ofMembers?_toMembers h
  have hform : i.toJson = .object (Json.members (("index", .natural i.index.toNat) ::
      ("line", .option (i.line.map fun n => .natural n.toNat)) :: i.operation.toMembers)) := rfl
  rw [hform]
  simp [ofJson?, Operation.filter_members, Operation.isBufferable_toMembers, hfields, hoperation,
    Json.required, Json.withDefault, readWord?_natural, readLine?_option, Json.text,
    Operation.nameOf?]

theorem Instruction.hasSource_of_ofJson? {v : Json} {i : Instruction} (h : ofJson? v = some i) :
    i.operation.HasSource := by
  unfold ofJson? at h
  split at h
  · next members =>
      simp only at h
      split_ifs at h
      split at h
      · obtain ⟨index, -, h⟩ := Option.bind_eq_some_iff.mp h
        obtain ⟨line, -, h⟩ := Option.bind_eq_some_iff.mp h
        obtain ⟨op, -, h⟩ := Option.bind_eq_some_iff.mp h
        obtain ⟨operation, hoperation, h⟩ := Option.bind_eq_some_iff.mp h
        cases h
        exact Operation.hasSource_of_ofMembers? hoperation
      · cases h
  · cases h

/-! ## Declarations -/

/-- Whether the type of a field has a source form. -/
def FieldDecl.HasSource (f : FieldDecl) : Prop :=
  f.type.HasSource

theorem FieldDecl.hasSource_of_ofJson? {v : Json} {f : FieldDecl} (h : ofJson? v = some f) :
    f.HasSource := by
  unfold ofJson? at h
  split at h
  · obtain ⟨declaringClass, -, h⟩ := Option.bind_eq_some_iff.mp h
    obtain ⟨name, -, h⟩ := Option.bind_eq_some_iff.mp h
    obtain ⟨type, htype, h⟩ := Option.bind_eq_some_iff.mp h
    obtain ⟨modifiers, -, h⟩ := Option.bind_eq_some_iff.mp h
    cases h
    exact TypeRef.hasSource_of_required htype
  · cases h

theorem Modifier.listOf_map (modifiers : List Modifier) :
    Json.listOf ofJson? (.array (modifiers.map toJson)) = some modifiers :=
  Json.listOf_map fun m _ => Modifier.ofJson?_toJson m

theorem FieldDecl.ofJson?_toJson {f : FieldDecl} (h : f.HasSource) : ofJson? f.toJson = some f := by
  have hfields : f.toJson.fields? ["declaring_class", "name", "type", "modifiers"] =
      some [some (.text f.declaringClass), some (.text f.name), some f.type.toJson,
        some (.array (f.modifiers.map Modifier.toJson))] :=
    Json.fields?_record _ [.text f.declaringClass, .text f.name, f.type.toJson,
      .array (f.modifiers.map Modifier.toJson)] (by decide) rfl
  simp [ofJson?, hfields, Json.required, Json.withDefault, Json.text, Json.text?,
    TypeRef.ofJson?_toJson h, Modifier.listOf_map]

/-- Whether all types in a method have source forms. -/
structure MethodDecl.HasSource (m : MethodDecl) : Prop where
  params : ∀ t ∈ m.params, t.HasSource
  returnType : m.returnType.HasSource
  declaredExceptions : ∀ t ∈ m.declaredExceptions, t.HasSource
  body : ∀ i ∈ m.body, i.operation.HasSource

theorem MethodDecl.hasSource_of_ofJson? {v : Json} {m : MethodDecl} (h : ofJson? v = some m) :
    m.HasSource := by
  unfold ofJson? at h
  split at h
  · obtain ⟨declaringClass, -, h⟩ := Option.bind_eq_some_iff.mp h
    obtain ⟨name, -, h⟩ := Option.bind_eq_some_iff.mp h
    obtain ⟨params, hparams, h⟩ := Option.bind_eq_some_iff.mp h
    obtain ⟨returnType, hreturn, h⟩ := Option.bind_eq_some_iff.mp h
    obtain ⟨modifiers, -, h⟩ := Option.bind_eq_some_iff.mp h
    obtain ⟨exceptions, hexceptions, h⟩ := Option.bind_eq_some_iff.mp h
    obtain ⟨body, hbody, h⟩ := Option.bind_eq_some_iff.mp h
    cases h
    refine ⟨TypeRef.hasSource_of_listOf hparams, TypeRef.hasSource_of_required hreturn,
      TypeRef.hasSource_of_listOf hexceptions, ?_⟩
    intro i hi
    obtain ⟨v, hv⟩ := Json.exists_of_mem_listOf hbody i hi
    exact Instruction.hasSource_of_ofJson? hv
  · cases h

theorem MethodDecl.ofJson?_toJson {m : MethodDecl} (h : m.HasSource) :
    ofJson? m.toJson = some m := by
  have hfields : m.toJson.fields? ["declaring_class", "name", "params", "return_type", "modifiers",
      "declared_exceptions", "body"] =
        some [some (.text m.declaringClass), some (.text m.name),
          some (.array (m.params.map TypeRef.toJson)), some m.returnType.toJson,
          some (.array (m.modifiers.map Modifier.toJson)),
          some (.array (m.declaredExceptions.map TypeRef.toJson)),
          some (.array (m.body.map Instruction.toJson))] :=
    Json.fields?_record _ [.text m.declaringClass, .text m.name,
      .array (m.params.map TypeRef.toJson), m.returnType.toJson,
      .array (m.modifiers.map Modifier.toJson), .array (m.declaredExceptions.map TypeRef.toJson),
      .array (m.body.map Instruction.toJson)] (by decide) rfl
  have hparams := Json.listOf_map fun t ht => TypeRef.ofJson?_toJson (h.params t ht)
  have hexceptions := Json.listOf_map fun t ht => TypeRef.ofJson?_toJson (h.declaredExceptions t ht)
  have hbody := Json.listOf_map fun i hi => Instruction.ofJson?_toJson (h.body i hi)
  simp [ofJson?, hfields, Json.required, Json.withDefault, Json.text, Json.text?, hparams,
    TypeRef.ofJson?_toJson h.returnType, Modifier.listOf_map, hexceptions, hbody]

/-- Whether all types in a class have source forms. -/
structure ClassDecl.HasSource (c : ClassDecl) : Prop where
  fields : ∀ f ∈ c.fields, f.HasSource
  methods : ∀ m ∈ c.methods, m.HasSource

theorem ClassDecl.hasSource_of_ofJson? {v : Json} {c : ClassDecl} (h : ofJson? v = some c) :
    c.HasSource := by
  unfold ofJson? at h
  split at h
  · obtain ⟨name, -, h⟩ := Option.bind_eq_some_iff.mp h
    obtain ⟨isInterface, -, h⟩ := Option.bind_eq_some_iff.mp h
    obtain ⟨superclass, -, h⟩ := Option.bind_eq_some_iff.mp h
    obtain ⟨interfaces, -, h⟩ := Option.bind_eq_some_iff.mp h
    obtain ⟨modifiers, -, h⟩ := Option.bind_eq_some_iff.mp h
    obtain ⟨fields, hfields, h⟩ := Option.bind_eq_some_iff.mp h
    obtain ⟨methods, hmethods, h⟩ := Option.bind_eq_some_iff.mp h
    obtain ⟨application, -, h⟩ := Option.bind_eq_some_iff.mp h
    obtain ⟨artifact, -, h⟩ := Option.bind_eq_some_iff.mp h
    cases h
    constructor
    · intro f hf
      obtain ⟨v, hv⟩ := Json.exists_of_mem_listOf hfields f hf
      exact FieldDecl.hasSource_of_ofJson? hv
    · intro m hm
      obtain ⟨v, hv⟩ := Json.exists_of_mem_listOf hmethods m hm
      exact MethodDecl.hasSource_of_ofJson? hv
  · cases h

theorem Json.listOf_texts (items : List String) : listOf text? (texts items) = some items :=
  listOf_map fun _ _ => rfl

theorem Json.nullable_option (s : Option String) :
    nullable text? (option (s.map text)) = some s := by
  cases s <;> rfl

theorem ClassDecl.ofJson?_toJson {c : ClassDecl} (h : c.HasSource) : ofJson? c.toJson = some c := by
  have hfields : c.toJson.fields? ["name", "is_interface", "superclass", "interfaces", "modifiers",
      "fields", "methods", "application", "artifact"] =
        some [some (.text c.name), some (.bool c.isInterface),
          some (.option (c.superclass.map .text)), some (.texts c.interfaces),
          some (.array (c.modifiers.map Modifier.toJson)),
          some (.array (c.fields.map FieldDecl.toJson)),
          some (.array (c.methods.map MethodDecl.toJson)), some (.bool c.application),
          some (.option (c.artifact.map .text))] :=
    Json.fields?_record _ [.text c.name, .bool c.isInterface, .option (c.superclass.map .text),
      .texts c.interfaces, .array (c.modifiers.map Modifier.toJson),
      .array (c.fields.map FieldDecl.toJson), .array (c.methods.map MethodDecl.toJson),
      .bool c.application, .option (c.artifact.map .text)] (by decide) rfl
  have hmembers := Json.listOf_map fun f hf => FieldDecl.ofJson?_toJson (h.fields f hf)
  have hmethods := Json.listOf_map fun m hm => MethodDecl.ofJson?_toJson (h.methods m hm)
  simp [ofJson?, hfields, Json.required, Json.withDefault, Json.text, Json.text?, Json.bool?,
    Json.nullable_option, Json.listOf_texts, Modifier.listOf_map, hmembers, hmethods]

theorem Property.ofJson?_toJson (q : Property) : ofJson? q.toJson = some q := by
  have hfields : q.toJson.fields? ["path", "key", "value"] =
      some [some (.text q.path), some (.text q.key), some (.text q.value)] :=
    Json.fields?_record _ [.text q.path, .text q.key, .text q.value] (by decide) rfl
  simp [ofJson?, hfields, Json.required, Json.text, Json.text?]

namespace Program

/-- Whether all types in a program have source forms. -/
def HasSource (p : Program) : Prop :=
  ∀ c ∈ p.classes, c.HasSource

theorem hasSource_of_ofJson? {v : Json} {p : Program} (h : ofJson? v = some p) : p.HasSource := by
  unfold ofJson? at h
  split at h
  · obtain ⟨classes, hclasses, h⟩ := Option.bind_eq_some_iff.mp h
    obtain ⟨properties, -, h⟩ := Option.bind_eq_some_iff.mp h
    cases h
    intro c hc
    obtain ⟨v, hv⟩ := Json.exists_of_mem_listOf hclasses c hc
    exact ClassDecl.hasSource_of_ofJson? hv
  · cases h

theorem ofJson?_toJson {p : Program} (h : p.HasSource) : ofJson? p.toJson = some p := by
  have hfields : p.toJson.fields? ["classes", "properties"] =
      some [some (.array (p.classes.map ClassDecl.toJson)),
        some (.array (p.properties.map Property.toJson))] :=
    Json.fields?_record _ [.array (p.classes.map ClassDecl.toJson),
      .array (p.properties.map Property.toJson)] (by decide) rfl
  have hclasses := Json.listOf_map fun c hc => ClassDecl.ofJson?_toJson (h c hc)
  have hproperties : Json.listOf Property.ofJson? (.array (p.properties.map Property.toJson)) =
      some p.properties := Json.listOf_map fun q _ => Property.ofJson?_toJson q
  simp [ofJson?, hfields, Json.withDefault, hclasses, hproperties]

end Program
end ProgramFacts
