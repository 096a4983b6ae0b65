import ProgramFacts.Proofs.JoinedText
import ProgramFacts.Proofs.LiteralNames

/-!
# The identity of heap constants

String constants, class literals and method handles stand for objects on the heap, and their
identifiers are texts of one kind.  A short string is its own identifier, whatever it spells, so
that it may share the identifier of the object that it spells.  Apart from that, constants share an
identifier only if they denote the same object, or are long strings with the same hash.
-/

namespace ProgramFacts

/-- A constant that stands for an object on the heap. -/
inductive HeapConstant where
  | string (value : String)
  | classLiteral (literal : String)
  | methodHandle (handle : String)

/-- A place at which a constant is put into a variable. -/
structure Placement where
  method : MethodDecl
  instruction : Instruction
  dest : Local
  numbering : Numbering

namespace HeapConstant

/-- The call that puts a constant into a variable; it answers the constant's identifier. -/
def call (p : Placement) : HeapConstant → Call
  | string value => .stringAssignment p.method p.instruction p.dest value
  | classLiteral literal => .classAssignment p.method p.instruction p.dest literal
  | methodHandle handle => .handleAssignment p.numbering p.method p.instruction p.dest handle

/-- Whether two constants are of the same kind and denote the same object. -/
def SameObject : HeapConstant → HeapConstant → Prop
  | string value, string value' => value = value'
  | classLiteral literal, classLiteral literal' =>
    ∃ type, TypeRef.ofDescriptor? literal = some type ∧ TypeRef.ofDescriptor? literal' = some type
  | methodHandle handle, methodHandle handle' => handle = handle'
  | _, _ => False

/-- Whether two constants are strings that are longer than a threshold and have the same hash. -/
def Collide (threshold : Nat) : HeapConstant → HeapConstant → Prop
  | string value, string value' => Text.Collide threshold value value'
  | _, _ => False

/-- Whether a constant is a string of at most the threshold's length that spells the identifier of
another constant, which is no such string. -/
def Spells (threshold : Nat) : HeapConstant → HeapConstant → Prop
  | string value, string other =>
    Text.unitLength value ≤ threshold ∧ threshold < Text.unitLength other ∧
      value = "<<HASH:" ++ signedDecimal (Text.hash other).toInt ++ ">>"
  | string value, classLiteral literal =>
    Text.unitLength value ≤ threshold ∧
      ∃ type, TypeRef.ofDescriptor? literal = some type ∧ value = "<class " ++ type.name ++ ">"
  | string value, methodHandle handle =>
    Text.unitLength value ≤ threshold ∧ value = "<handle " ++ handle ++ ">"
  | _, _ => False

/-- Whether two constants are class literals that denote types of the same name, and one of them
denotes another type than that which its name is read as. -/
def Homonym : HeapConstant → HeapConstant → Prop
  | classLiteral literal, classLiteral literal' =>
    ∃ type type', TypeRef.ofDescriptor? literal = some type ∧
      TypeRef.ofDescriptor? literal' = some type' ∧ type.name = type'.name ∧
      (TypeRef.ofSource type.name ≠ .ok type ∨ TypeRef.ofSource type'.name ≠ .ok type')
  | _, _ => False

/-! ## Answers -/

/-- Whether a text is the identifier of a constant. -/
def HasId (settings : EncoderSettings) (id : String) : HeapConstant → Prop
  | string value => id = settings.stringId value
  | classLiteral literal =>
    ∃ type, TypeRef.ofDescriptor? literal = some type ∧ id = "<class " ++ type.name ++ ">"
  | methodHandle handle => id = "<handle " ++ handle ++ ">"

theorem hasId_of_result_call
    {e : Encoder} {c : HeapConstant} {p : Placement} {id : String}
    (h : (e.call (c.call p)).result = .ok (.text id)) :
    c.HasId e.settings id := by
  obtain ⟨-, hanswer⟩ := (Encoder.result_perform_eq_ok_iff _ _ _).mp h
  cases c with
  | string value =>
      have hid : Answer.text (e.settings.stringId value) = .text id := hanswer
      exact (Answer.text.inj hid).symm
  | methodHandle handle =>
      have hid : Answer.text (handleId handle) = .text id := hanswer
      exact (Answer.text.inj hid).symm
  | classLiteral literal =>
      obtain ⟨type, htype, hid⟩ := Encoder.exists_type_of_classAssignment h
      exact ⟨type, (Encoding.literalType?_eq_some_iff.mp htype).1, Answer.text.inj hid⟩

/-! ## Shared identifiers -/

theorem stringId_of_not_quoted
    {settings : EncoderSettings} (hquote : settings.quotePaddedStrings = false) (s : String) :
    settings.stringId s = shorten "HASH" settings.stringHashThreshold s := by
  simp [EncoderSettings.stringId, EncoderSettings.rawString, hquote]

theorem hashTag_string (raw : String) :
    hashTag "HASH" raw = "<<HASH:" ++ signedDecimal (Text.hash raw).toInt ++ ">>" := by
  rw [← String.toList_inj]
  simp [hashTag]

/-- A string with the identifier of a class or handle is short and spells it, since the second
character of a tag is another one. -/
theorem eq_of_stringId_eq
    {settings : EncoderSettings} (hquote : settings.quotePaddedStrings = false)
    {value text : String} {c : Char}
    (hsecond : text.toList[1]? = some c) (hc : c ≠ '<') (h : text = settings.stringId value) :
    Text.unitLength value ≤ settings.stringHashThreshold ∧ value = text := by
  rw [stringId_of_not_quoted hquote, shorten] at h
  by_cases hlength : Text.unitLength value ≤ settings.stringHashThreshold
  · rw [if_pos hlength] at h
    exact ⟨hlength, h.symm⟩
  · rw [if_neg hlength] at h
    subst h
    have htag : (hashTag "HASH" value).toList[1]? = some '<' := by simp [hashTag]
    rw [htag] at hsecond
    exact absurd (Option.some.inj hsecond).symm hc

theorem cases_of_hasId_string
    {settings : EncoderSettings} (hquote : settings.quotePaddedStrings = false)
    {value id : String} {c : HeapConstant}
    (h : (string value).HasId settings id) (hc : c.HasId settings id) :
    SameObject (string value) c ∨ Collide settings.stringHashThreshold (string value) c ∨
      Spells settings.stringHashThreshold (string value) c ∨
      Spells settings.stringHashThreshold c (string value) := by
  cases c with
  | string other =>
      have hshared := h.symm.trans hc
      rw [stringId_of_not_quoted hquote, stringId_of_not_quoted hquote] at hshared
      rcases shorten_eq_shorten hshared with hsame | hcollide | hspells | hspells
      · exact Or.inl hsame
      · exact Or.inr (Or.inl hcollide)
      · rw [hashTag_string] at hspells
        exact Or.inr (Or.inr (Or.inl hspells))
      · rw [hashTag_string] at hspells
        exact Or.inr (Or.inr (Or.inr hspells))
  | classLiteral literal =>
      obtain ⟨type, htype, rfl⟩ := hc
      have hsecond : ("<class " ++ type.name ++ ">").toList[1]? = some 'c' := by simp
      obtain ⟨hlength, hvalue⟩ := eq_of_stringId_eq hquote hsecond (by decide) h
      exact Or.inr (Or.inr (Or.inl ⟨hlength, type, htype, hvalue⟩))
  | methodHandle handle =>
      obtain rfl : id = "<handle " ++ handle ++ ">" := hc
      have hsecond : ("<handle " ++ handle ++ ">").toList[1]? = some 'h' := by simp
      obtain ⟨hlength, hvalue⟩ := eq_of_stringId_eq hquote hsecond (by decide) h
      exact Or.inr (Or.inr (Or.inl ⟨hlength, hvalue⟩))

theorem sameObject_or_homonym
    {literal literal' : String} {type type' : TypeRef}
    (h : TypeRef.ofDescriptor? literal = some type)
    (h' : TypeRef.ofDescriptor? literal' = some type') (hname : type.name = type'.name) :
    SameObject (classLiteral literal) (classLiteral literal') ∨
      Homonym (classLiteral literal) (classLiteral literal') := by
  by_cases hread : TypeRef.ofSource type.name = .ok type
  · by_cases hread' : TypeRef.ofSource type'.name = .ok type'
    · rw [hname, hread'] at hread
      cases hread
      exact Or.inl ⟨type, h, h'⟩
    · exact Or.inr ⟨type, type', h, h', hname, Or.inr hread'⟩
  · exact Or.inr ⟨type, type', h, h', hname, Or.inl hread⟩

theorem SameObject.symm {a b : HeapConstant} (h : SameObject a b) : SameObject b a := by
  cases a <;> cases b <;> simp only [SameObject] at h ⊢
  · exact h.symm
  · obtain ⟨type, htype, htype'⟩ := h
    exact ⟨type, htype', htype⟩
  · exact h.symm

theorem Collide.symm {threshold : Nat} {a b : HeapConstant} (h : Collide threshold a b) :
    Collide threshold b a := by
  cases a <;> cases b <;> simp only [Collide] at h ⊢
  exact ⟨h.right, h.left, h.hash_eq.symm⟩

theorem cases_of_hasId_string_right
    {settings : EncoderSettings} (hquote : settings.quotePaddedStrings = false)
    {value id : String} {c : HeapConstant}
    (hc : c.HasId settings id) (h : (string value).HasId settings id) :
    SameObject c (string value) ∨ Collide settings.stringHashThreshold c (string value) ∨
      Spells settings.stringHashThreshold c (string value) ∨
      Spells settings.stringHashThreshold (string value) c := by
  rcases cases_of_hasId_string hquote h hc with hsame | hcollide | hspells | hspells
  · exact Or.inl hsame.symm
  · exact Or.inr (Or.inl hcollide.symm)
  · exact Or.inr (Or.inr (Or.inr hspells))
  · exact Or.inr (Or.inr (Or.inl hspells))

theorem class_ne_handle (name handle : String) :
    "<class " ++ name ++ ">" ≠ "<handle " ++ handle ++ ">" := by
  intro h
  have hsecond := congrArg (fun s => s.toList[1]?) h
  simp at hsecond

/-- Unless padded strings are quoted, two constants get the same identifier only if they denote the
same object, are long strings with the same hash, or one of them is a short string that spells the
identifier of the other; or else they are class literals, one of which denotes another type than
that which its name is read as. -/
theorem sameObject_or_spells_of_id_eq
    (e e' : Encoder) (hsettings : e'.settings = e.settings)
    (hquote : e.settings.quotePaddedStrings = false)
    (a b : HeapConstant) (p q : Placement) (id : String)
    (ha : (e.call (a.call p)).result = .ok (.text id))
    (hb : (e'.call (b.call q)).result = .ok (.text id)) :
    (SameObject a b ∨ Collide e.settings.stringHashThreshold a b ∨
      Spells e.settings.stringHashThreshold a b ∨ Spells e.settings.stringHashThreshold b a) ∨
    Homonym a b := by
  have hid := hasId_of_result_call ha
  have hid' := hasId_of_result_call hb
  rw [hsettings] at hid'
  cases a with
  | string value => exact Or.inl (cases_of_hasId_string hquote hid hid')
  | classLiteral literal =>
      cases b with
      | string value => exact Or.inl (cases_of_hasId_string_right hquote hid hid')
      | classLiteral literal' =>
          obtain ⟨type, htype, rfl⟩ := hid
          obtain ⟨type', htype', hname⟩ := hid'
          exact (sameObject_or_homonym htype htype' (by simpa using hname)).imp_left Or.inl
      | methodHandle handle =>
          obtain ⟨type, -, rfl⟩ := hid
          exact absurd hid' (class_ne_handle type.name handle)
  | methodHandle handle =>
      cases b with
      | string value => exact Or.inl (cases_of_hasId_string_right hquote hid hid')
      | classLiteral literal' =>
          obtain ⟨type, -, rfl⟩ := hid'
          exact absurd hid (class_ne_handle type.name handle)
      | methodHandle handle' =>
          obtain rfl : handle = handle' := by simpa [HasId] using hid.symm.trans hid'
          exact Or.inl (Or.inl rfl)

/-! ## Spelled identifiers -/

/-- The beginning of a body, where something is put into a variable. -/
def firstPlacement : Placement where
  method := ⟨"A", "m", [], .primitive .void, [.static], [], []⟩
  instruction := ⟨0, none, .returnVoid⟩
  dest := ⟨"x", .named "java.lang.Object"⟩
  numbering := .empty

/-- Settings under which a string of thirteen units is its own identifier. -/
def thirteenUnits : EncoderSettings :=
  ⟨13, 1024, false⟩

/-- Whether a fresh encoder with these settings answers the same text for two constants. -/
def Share (id : String) (a b : HeapConstant) : Prop :=
  ((Encoder.fresh thirteenUnits false).call (a.call firstPlacement)).result = .ok (.text id) ∧
    ((Encoder.fresh thirteenUnits false).call (b.call firstPlacement)).result = .ok (.text id)

theorem share_arrayClass :
    Share "<class int[]>" (string "<class int[]>") (classLiteral "[I") := by
  constructor <;> decide +kernel

/-- A short string that spells the identifier of an array class has that identifier. -/
theorem spells_arrayClass :
    Share "<class int[]>" (string "<class int[]>") (classLiteral "[I") ∧
      Spells 13 (string "<class int[]>") (classLiteral "[I") := by
  refine ⟨share_arrayClass, ?_⟩
  simpa [SameObject, Collide, Homonym, Spells, Encoder.fresh, thirteenUnits] using
    sameObject_or_spells_of_id_eq (.fresh thirteenUnits false) (.fresh thirteenUnits false) rfl rfl
      (string "<class int[]>") (classLiteral "[I") firstPlacement firstPlacement "<class int[]>"
      share_arrayClass.1 share_arrayClass.2

/-- A string of null characters, whose hash is zero. -/
def nulls (n : Nat) : String :=
  String.ofList (List.replicate n (Char.ofNat 0))

/-- Constants that neither denote the same object nor are both long share an identifier: a short
string that spells the identifier of a class, of a method handle or of a long string, and two class
literals with types of the same name. -/
theorem share_of_different_objects :
    thirteenUnits.quotePaddedStrings = false ∧
    (Share "<class int[]>" (string "<class int[]>") (classLiteral "[I") ∧
      ¬ SameObject (string "<class int[]>") (classLiteral "[I") ∧
      ¬ Collide 13 (string "<class int[]>") (classLiteral "[I")) ∧
    (Share "<handle f>" (string "<handle f>") (methodHandle "f") ∧
      ¬ SameObject (string "<handle f>") (methodHandle "f") ∧
      ¬ Collide 13 (string "<handle f>") (methodHandle "f")) ∧
    (Share "<<HASH:0>>" (string "<<HASH:0>>") (string (nulls 14)) ∧
      ¬ SameObject (string "<<HASH:0>>") (string (nulls 14)) ∧
      ¬ Collide 13 (string "<<HASH:0>>") (string (nulls 14))) ∧
    (Share "<class int[]>" (classLiteral "[Lint;") (classLiteral "[I") ∧
      ¬ SameObject (classLiteral "[Lint;") (classLiteral "[I") ∧
      ¬ Collide 13 (classLiteral "[Lint;") (classLiteral "[I")) := by
  refine ⟨rfl, ⟨share_arrayClass, id, id⟩, ⟨?_, id, id⟩, ⟨?_, ?_, ?_⟩, ⟨?_, ?_, id⟩⟩
  · constructor <;> decide +kernel
  · constructor <;> decide +kernel
  · exact show "<<HASH:0>>" ≠ nulls 14 by decide +kernel
  · rintro ⟨hlong, -, -⟩
    exact absurd hlong (by decide +kernel)
  · constructor <;> decide +kernel
  · rintro ⟨type, hnamed, hprimitive⟩
    have hnamed' : TypeRef.ofDescriptor? "[Lint;" = some (.array (.named "int")) := by
      decide +kernel
    have hprimitive' : TypeRef.ofDescriptor? "[I" = some (.array (.primitive .int)) := by
      decide +kernel
    rw [hnamed'] at hnamed
    rw [hprimitive'] at hprimitive
    cases hnamed
    cases hprimitive

end HeapConstant
end ProgramFacts
