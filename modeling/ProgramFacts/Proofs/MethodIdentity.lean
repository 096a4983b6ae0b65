import ProgramFacts.Proofs.JoinedText
import ProgramFacts.Proofs.SourceForm

/-!
# The identity of methods, variables and instructions

The signature of a method determines its declaring class, return type, name and parameters, as long
as its names keep clear of the separators.  Methods with the same identifier are therefore the same
or have long signatures with the same hash.  An identifier of a variable or instruction determines
the identifier of the method, because no slash stands in it.
-/

namespace ProgramFacts

/-! ## Signatures -/

/-- Whether the names of a method keep clear of the separators of identifiers, and its types can be
read and are resolved. -/
structure MethodDecl.Plain (m : MethodDecl) : Prop where
  colon_class : ':' ∉ m.declaringClass.toList
  slash_class : '/' ∉ m.declaringClass.toList
  slash_name : '/' ∉ m.name.toList
  returnType : m.returnType.Readable
  params : ∀ t ∈ m.params, t.Readable

/-- A character that no name of a readable type holds. -/
def TypeRef.isOutside (c : Char) : Bool :=
  !isNameChar c && c != '[' && c != ']'

theorem TypeRef.Readable.not_mem_name
    {t : TypeRef} (h : t.Readable) {c : Char} (hc : isOutside c = true) : c ∉ t.name.toList := by
  intro hmem
  rcases h.mem_name hmem with hname | rfl | rfl
  · simp [isOutside, hname] at hc
  · simp [isOutside] at hc
  · simp [isOutside] at hc

theorem TypeRef.isOutside_separators :
    isOutside ' ' = true ∧ isOutside ',' = true ∧ isOutside '(' = true ∧ isOutside ':' = true ∧
      isOutside '/' = true := by
  decide +kernel

namespace MethodDecl

theorem toList_paramList (m : MethodDecl) :
    m.paramList.toList = [','].intercalate ((m.params.map TypeRef.name).map String.toList) := by
  simp [paramList]

theorem toList_signature (m : MethodDecl) :
    m.signature.toList =
      '<' :: (m.declaringClass.toList ++ ':' :: ' ' :: (m.returnType.name.toList ++ ' ' ::
        (m.name.toList ++ '(' :: (m.paramList.toList ++ [')', '>'])))) := by
  simp [signature]

theorem not_mem_paramList
    {m : MethodDecl} (h : ∀ t ∈ m.params, t.Readable) {c : Char}
    (hc : TypeRef.isOutside c = true) (hcomma : c ≠ ',') : c ∉ m.paramList.toList := by
  intro hmem
  rw [toList_paramList, List.map_map] at hmem
  rcases Text.mem_intercalate hmem with rfl | ⟨name, hname, hmem⟩
  · exact hcomma rfl
  · obtain ⟨t, ht, rfl⟩ := List.mem_map.mp hname
    exact (h t ht).not_mem_name hc hmem

/-- The list of their names determines the parameters. -/
theorem params_eq_of_paramList_eq
    {m m' : MethodDecl} (h : ∀ t ∈ m.params, t.Readable) (h' : ∀ t ∈ m'.params, t.Readable)
    (heq : m.paramList = m'.paramList) : m.params = m'.params := by
  have hparts : ∀ {m : MethodDecl}, (∀ t ∈ m.params, t.Readable) →
      ∀ name ∈ (m.params.map TypeRef.name).map String.toList, name ≠ [] ∧ ',' ∉ name := by
    intro m hm name hname
    rw [List.map_map] at hname
    obtain ⟨t, ht, rfl⟩ := List.mem_map.mp hname
    exact ⟨(hm t ht).name_ne_nil,
      (hm t ht).not_mem_name TypeRef.isOutside_separators.2.1⟩
  have hnames : m.params.map TypeRef.name = m'.params.map TypeRef.name := by
    refine (List.map_inj_right fun _ _ => String.toList_inj.mp).mp ?_
    apply Text.intercalate_injective (a := ',') _ (hparts h) (hparts h')
    rw [← toList_paramList, ← toList_paramList, heq]
  -- the types are read back from their names
  have hread : ∀ {m : MethodDecl}, (∀ t ∈ m.params, t.Readable) →
      m.params.map Except.ok = (m.params.map TypeRef.name).map TypeRef.ofSource := by
    intro m hm
    rw [List.map_map]
    apply List.map_congr_left
    intro t ht
    exact (hm t ht).ofSource_name.symm
  have htypes := congrArg (List.map TypeRef.ofSource) hnames
  rw [← hread h, ← hread h'] at htypes
  exact (List.map_inj_right fun _ _ => Except.ok.inj).mp htypes

/-- A signature determines the declaring class, the return type, the name and the parameters. -/
theorem Plain.eq_of_signature_eq
    {m m' : MethodDecl} (h : m.Plain) (h' : m'.Plain) (heq : m.signature = m'.signature) :
    m.declaringClass = m'.declaringClass ∧ m.returnType = m'.returnType ∧ m.name = m'.name ∧
      m.params = m'.params := by
  obtain ⟨hspace, -, hparen, -, -⟩ := TypeRef.isOutside_separators
  have hchars := congrArg String.toList heq
  rw [toList_signature, toList_signature, List.cons_inj_right] at hchars
  obtain ⟨hclass, hchars⟩ := Text.split_first hchars h.colon_class h'.colon_class
  rw [List.cons_inj_right] at hchars
  obtain ⟨hreturn, hchars⟩ := Text.split_first hchars (h.returnType.not_mem_name hspace)
    (h'.returnType.not_mem_name hspace)
  have hlast : ∀ {m : MethodDecl}, m.Plain → '(' ∉ m.paramList.toList ++ [')', '>'] := by
    intro m hm
    simpa using not_mem_paramList hm.params hparen (by decide)
  obtain ⟨hname, hchars⟩ := Text.split_last hchars (hlast h) (hlast h')
  have hparams : m.paramList = m'.paramList :=
    String.toList_inj.mp (List.append_cancel_right hchars)
  exact ⟨String.toList_inj.mp hclass,
    TypeRef.eq_of_name_eq h.returnType.ofSource_name h'.returnType.ofSource_name
      (String.toList_inj.mp hreturn),
    String.toList_inj.mp hname, params_eq_of_paramList_eq h.params h'.params hparams⟩

/-! ## Identifiers of methods -/

/-- A signature is never a tag: the colon of a signature is followed by a blank. -/
theorem Plain.signature_ne_hashTag {m : MethodDecl} (h : m.Plain) (raw : String) :
    m.signature ≠ hashTag "METHOD HASH" raw := by
  intro heq
  have hchars := congrArg String.toList heq
  have htag : (hashTag "METHOD HASH" raw).toList =
      '<' :: ("<METHOD HASH".toList ++ ':' :: ((signedDecimal (Text.hash raw).toInt).toList ++
        ['>', '>'])) := by
    simp [hashTag]
  rw [toList_signature, htag, List.cons_inj_right] at hchars
  obtain ⟨-, hchars⟩ := Text.split_first hchars h.colon_class (by decide)
  have hblank : ' ' ∈ (signedDecimal (Text.hash raw).toInt).toList ++ ['>', '>'] := by
    rw [← hchars]
    exact List.mem_cons_self
  rcases List.mem_append.mp hblank with hblank | hblank
  · rcases mem_signedDecimal hblank with hminus | hdigit
    · cases hminus
    · cases hdigit
  · simp at hblank

/-- Two methods with the same identifier are the same, or their signatures are long and have the
same hash. -/
theorem Plain.eq_or_collide_of_id_eq
    {settings : EncoderSettings} {m m' : MethodDecl} (h : m.Plain) (h' : m'.Plain)
    (hid : m.id settings = m'.id settings) :
    (m.declaringClass = m'.declaringClass ∧ m.returnType = m'.returnType ∧ m.name = m'.name ∧
      m.params = m'.params) ∨
    Text.Collide settings.signatureHashThreshold m.signature m'.signature := by
  unfold id EncoderSettings.signatureId at hid
  rcases shorten_eq_shorten hid with heq | hcollide | ⟨-, -, htag⟩ | ⟨-, -, htag⟩
  · exact Or.inl (h.eq_of_signature_eq h' heq)
  · exact Or.inr hcollide
  · exact absurd htag (h.signature_ne_hashTag _)
  · exact absurd htag (h'.signature_ne_hashTag _)

theorem Plain.slash_not_mem_id (settings : EncoderSettings) {m : MethodDecl} (h : m.Plain) :
    '/' ∉ (m.id settings).toList := by
  obtain ⟨-, -, -, -, hslash⟩ := TypeRef.isOutside_separators
  have hsignature : '/' ∉ m.signature.toList := by
    have hreturn := h.returnType.not_mem_name hslash
    have hparams := not_mem_paramList h.params hslash (by decide)
    simp [toList_signature, h.slash_class, h.slash_name, hreturn, hparams]
  have htag : '/' ∉ (hashTag "METHOD HASH" m.signature).toList := by
    have hdecimal : '/' ∉ (signedDecimal (Text.hash m.signature).toInt).toList := by
      intro hmem
      rcases mem_signedDecimal hmem with hminus | hdigit
      · cases hminus
      · cases hdigit
    simp [hashTag, hdecimal]
  unfold id EncoderSettings.signatureId shorten
  split
  · exact hsignature
  · exact htag

end MethodDecl

/-! ## Identifiers of variables and instructions -/

/-- The variables of a method: those that its body names, and the implicit ones. -/
inductive Variable where
  | named (name : String)
  | receiver
  | param (index : Nat)
  | nativeReturn

namespace Variable

def id (method : String) : Variable → String
  | named name => localId method name
  | receiver => thisId method
  | param index => paramId method index
  | nativeReturn => nativeReturnId method

/-- The part of an identifier that is about the variable alone. -/
def part : Variable → String
  | named name => name
  | receiver => "@this"
  | param index => "@parameter" ++ index.repr
  | nativeReturn => "@native-return"

theorem toList_id (method : String) (v : Variable) :
    (v.id method).toList = method.toList ++ '/' :: v.part.toList := by
  cases v <;> simp [id, part, localId, thisId, paramId, nativeReturnId]

end Variable

theorem Instruction.toList_id (method : String) (i : Instruction) :
    (i.id method).toList =
      method.toList ++ '/' :: (i.operation.label.toList ++ "/instructio".toList ++
        'n' :: i.index.toNat.repr.toList) := by
  simp [id]

/-- The label of an unsupported operation shows its opcode, and no other operation has it. -/
theorem Operation.label_eq_unsupported_iff {o : Operation} {opcode : String} :
    o.label = "unsupported " ++ opcode ↔ o = .unsupported opcode := by
  constructor
  · intro h
    have hhead := congrArg (fun s => s.toList.head?) h
    cases o with
    | constant dest value => cases value <;> simp [label] at hhead
    | binary dest operator lhs rhs => simp [label] at hhead
    | returnValue value => simp [label] at hhead
    | returnVoid => simp [label] at hhead
    | unsupported other =>
        have hopcode : other = opcode := by simpa [label] using h
        rw [hopcode]
  · rintro rfl
    rfl

/-- The label and the index of an instruction are determined by what its identifier says after the
method. -/
theorem Instruction.eq_of_id_suffix_eq
    {i i' : Instruction}
    (h : i.operation.label.toList ++ "/instructio".toList ++ 'n' :: i.index.toNat.repr.toList =
      i'.operation.label.toList ++ "/instructio".toList ++ 'n' :: i'.index.toNat.repr.toList) :
    i.index = i'.index ∧ i.operation.label = i'.operation.label := by
  obtain ⟨hlabel, hindex⟩ := Text.split_last h (Text.not_mem_repr (by decide) _)
    (Text.not_mem_repr (by decide) _)
  constructor
  · exact UInt32.toNat_inj.mp (Text.repr_injective (String.toList_inj.mp hindex))
  · exact String.toList_inj.mp (List.append_cancel_right hlabel)

/-- Two plain methods with the same identifier are the same or have long signatures with the same
hash; and they share the identifier of a variable or of an instruction only if they share their own
identifiers, and the variable's local part or the instruction's index and label are the same. -/
theorem identity_of_plain
    (settings : EncoderSettings) (m m' : MethodDecl) (h : m.Plain) (h' : m'.Plain) :
    (m.id settings = m'.id settings →
      (m.declaringClass = m'.declaringClass ∧ m.returnType = m'.returnType ∧ m.name = m'.name ∧
        m.params = m'.params) ∨
      Text.Collide settings.signatureHashThreshold m.signature m'.signature) ∧
    (∀ v v' : Variable, v.id (m.id settings) = v'.id (m'.id settings) →
      m.id settings = m'.id settings ∧ v.part = v'.part) ∧
    ∀ i i' : Instruction, i.id (m.id settings) = i'.id (m'.id settings) →
      m.id settings = m'.id settings ∧ i.index = i'.index ∧
        i.operation.label = i'.operation.label ∧
        ∀ opcode, i.operation = .unsupported opcode ↔ i'.operation = .unsupported opcode := by
  have hslash := h.slash_not_mem_id settings
  have hslash' := h'.slash_not_mem_id settings
  refine ⟨h.eq_or_collide_of_id_eq h', ?_, ?_⟩
  · intro v v' hid
    have hchars := congrArg String.toList hid
    rw [Variable.toList_id, Variable.toList_id] at hchars
    obtain ⟨hmethod, hpart⟩ := Text.split_first hchars hslash hslash'
    exact ⟨String.toList_inj.mp hmethod, String.toList_inj.mp hpart⟩
  · intro i i' hid
    have hchars := congrArg String.toList hid
    rw [Instruction.toList_id, Instruction.toList_id] at hchars
    obtain ⟨hmethod, hsuffix⟩ := Text.split_first hchars hslash hslash'
    obtain ⟨hindex, hlabel⟩ := Instruction.eq_of_id_suffix_eq hsuffix
    refine ⟨String.toList_inj.mp hmethod, hindex, hlabel, ?_⟩
    intro opcode
    rw [← Operation.label_eq_unsupported_iff, ← Operation.label_eq_unsupported_iff, hlabel]

def clashingMethod (declaringClass : String) : MethodDecl where
  declaringClass := declaringClass
  name := "m"
  params := [.array (.primitive .int), .named "a.B"]
  returnType := .primitive .void
  modifiers := []
  declaredExceptions := []
  body := []

theorem plain_clashingMethod
    {declaringClass : String}
    (hcolon : ':' ∉ declaringClass.toList) (hslash : '/' ∉ declaringClass.toList) :
    (clashingMethod declaringClass).Plain where
  colon_class := hcolon
  slash_class := hslash
  slash_name := by simp [clashingMethod]
  returnType := by
    have hvoid : (TypeRef.primitive .void).Readable := ⟨⟨"void", by decide +kernel⟩, rfl⟩
    exact hvoid
  params := by
    have harray : (TypeRef.array (.primitive .int)).Readable :=
      ⟨⟨" int []", by decide +kernel⟩, rfl⟩
    have hnamed : (TypeRef.named "a.B").Readable := ⟨⟨"a.B", by decide +kernel⟩, rfl⟩
    simp [clashingMethod, harray, hnamed]

/-- Under a small threshold, two classes whose names have the same hash share the identifier of a
method and of its second parameter. -/
theorem collide_clashingMethod :
    (clashingMethod "Aa").Plain ∧ (clashingMethod "BB").Plain ∧
      (Variable.param 1).id ((clashingMethod "Aa").id ⟨256, 10, false⟩) =
        (Variable.param 1).id ((clashingMethod "BB").id ⟨256, 10, false⟩) ∧
      (clashingMethod "Aa").id ⟨256, 10, false⟩ = (clashingMethod "BB").id ⟨256, 10, false⟩ ∧
      Text.Collide 10 (clashingMethod "Aa").signature (clashingMethod "BB").signature := by
  have hfirst : (clashingMethod "Aa").Plain := plain_clashingMethod (by decide) (by decide)
  have hsecond : (clashingMethod "BB").Plain := plain_clashingMethod (by decide) (by decide)
  have hparam : (Variable.param 1).id ((clashingMethod "Aa").id ⟨256, 10, false⟩) =
      (Variable.param 1).id ((clashingMethod "BB").id ⟨256, 10, false⟩) := by
    decide +kernel
  obtain ⟨hmethods, hvariables, -⟩ :=
    identity_of_plain ⟨256, 10, false⟩ (clashingMethod "Aa") (clashingMethod "BB") hfirst hsecond
  have hid := (hvariables _ _ hparam).1
  refine ⟨hfirst, hsecond, hparam, hid, ?_⟩
  apply (hmethods hid).resolve_left
  rintro ⟨hclass, -⟩
  exact absurd hclass (by decide)

end ProgramFacts
