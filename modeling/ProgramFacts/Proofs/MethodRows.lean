import ProgramFacts.Proofs.Calls
import ProgramFacts.Proofs.DescriptorGrammar
import ProgramFacts.Proofs.MethodIdentity

/-!
# Rows of methods

The identifier of a method may be a tag that other methods share, but its row has the name, the
declaring class and two descriptors beside it.  Each descriptor determines the return type and the
parameters: the source form, because no name of a type holds a comma or a parenthesis, and the other
form, because no descriptor is the beginning of another.
-/

namespace ProgramFacts

/-! ## Descriptors one after another -/

/-- Descriptors that stand one after another, up to a parenthesis, determine their types. -/
theorem TypeRef.eq_of_flatMap_descriptor_eq
    {ts ts' : List TypeRef} (h : ∀ t ∈ ts, t.Readable) (h' : ∀ t ∈ ts', t.Readable)
    {after after' : List Char}
    (heq : (ts.flatMap fun t => t.descriptor.toList) ++ ')' :: after =
      (ts'.flatMap fun t => t.descriptor.toList) ++ ')' :: after') :
    ts = ts' ∧ after = after' := by
  have hstop : ∀ rest, readDescriptor (')' :: rest) = none := fun _ => rfl
  induction ts generalizing ts' with
  | nil =>
      cases ts' with
      | nil => exact ⟨rfl, (List.cons.inj heq).2⟩
      | cons t' ts' =>
          have hread := congrArg readDescriptor heq
          rw [List.flatMap_nil, List.nil_append, List.flatMap_cons, List.append_assoc, hstop,
            (h' t' List.mem_cons_self).readDescriptor_append] at hread
          cases hread
  | cons t ts ih =>
      have hread := congrArg readDescriptor heq
      rw [List.flatMap_cons, List.append_assoc,
        (h t List.mem_cons_self).readDescriptor_append] at hread
      cases ts' with
      | nil =>
          rw [List.flatMap_nil, List.nil_append, hstop] at hread
          cases hread
      | cons t' ts' =>
          -- the first descriptor ends at the same place on both sides
          rw [List.flatMap_cons, List.append_assoc,
            (h' t' List.mem_cons_self).readDescriptor_append] at hread
          obtain ⟨rfl, hrest⟩ := Prod.mk.inj (Option.some.inj hread)
          obtain ⟨rfl, hafter⟩ := ih (fun t ht => h t (List.mem_cons_of_mem _ ht))
            (fun t ht => h' t (List.mem_cons_of_mem _ ht)) hrest
          exact ⟨rfl, hafter⟩

namespace MethodDecl

variable {m m' : MethodDecl}

/-- Whether the types of a method can be read from source forms and are resolved. -/
structure HasReadableTypes (m : MethodDecl) : Prop where
  returnType : m.returnType.Readable
  params : ∀ t ∈ m.params, t.Readable

theorem toList_sourceDescriptor (m : MethodDecl) :
    m.sourceDescriptor.toList =
      m.returnType.name.toList ++ '(' :: (m.paramList.toList ++ [')']) := by
  simp [sourceDescriptor]

theorem toList_rawDescriptor (m : MethodDecl) :
    m.rawDescriptor.toList =
      '(' :: ((m.params.flatMap fun t => t.descriptor.toList) ++
        ')' :: m.returnType.descriptor.toList) := by
  simp [rawDescriptor, List.flatMap_map]

theorem HasReadableTypes.sourceDescriptor_eq_iff
    (h : m.HasReadableTypes) (h' : m'.HasReadableTypes) :
    m.sourceDescriptor = m'.sourceDescriptor ↔
      m.returnType = m'.returnType ∧ m.params = m'.params := by
  constructor
  · intro heq
    have hparen := TypeRef.isOutside_separators.2.2.1
    have hchars := congrArg String.toList heq
    rw [toList_sourceDescriptor, toList_sourceDescriptor] at hchars
    obtain ⟨hreturn, hparams⟩ := Text.split_first hchars (h.returnType.not_mem_name hparen)
      (h'.returnType.not_mem_name hparen)
    have hlist : m.paramList = m'.paramList :=
      String.toList_inj.mp (List.append_cancel_right hparams)
    exact ⟨TypeRef.eq_of_name_eq h.returnType.ofSource_name h'.returnType.ofSource_name
      (String.toList_inj.mp hreturn), params_eq_of_paramList_eq h.params h'.params hlist⟩
  · rintro ⟨hreturn, hparams⟩
    rw [sourceDescriptor, sourceDescriptor, paramList, paramList, hreturn, hparams]

theorem HasReadableTypes.rawDescriptor_eq_iff
    (h : m.HasReadableTypes) (h' : m'.HasReadableTypes) :
    m.rawDescriptor = m'.rawDescriptor ↔
      m.returnType = m'.returnType ∧ m.params = m'.params := by
  constructor
  · intro heq
    have hchars := congrArg String.toList heq
    rw [toList_rawDescriptor, toList_rawDescriptor, List.cons_inj_right] at hchars
    obtain ⟨hparams, hdescriptor⟩ :=
      TypeRef.eq_of_flatMap_descriptor_eq h.params h'.params hchars
    have hreturn := h.returnType.ofDescriptor?_descriptor
    rw [String.toList_inj.mp hdescriptor, h'.returnType.ofDescriptor?_descriptor] at hreturn
    exact ⟨(Option.some.inj hreturn).symm, hparams⟩
  · rintro ⟨hreturn, hparams⟩
    rw [rawDescriptor, rawDescriptor, hreturn, hparams]

end MethodDecl

/-! ## Encoding methods -/

/-- The rows of a relation that were written, oldest first. -/
def Performed.rowsOf {α : Type} (p : Performed α) (r : Relation) : List (List String) :=
  (p.run.rows.filter fun f => f.relation = r).map Fact.row

namespace Encoder

variable {e : Encoder} {m : MethodDecl} {answer : Answer}

theorem steps_method (settings : EncoderSettings) (m : MethodDecl) :
    ((Call.method m).plan settings).steps =
      .mention m.returnType :: (m.params.map .mention ++
        [Encoding.signatureStep settings m.signature,
          .write (Encoding.methodRow settings m)]) := by
  simp [Call.plan, Call.encoding, Encoding.map, Encoding.method, Encoding.ofSteps]

/-- A method is accepted only if its types are resolved. -/
theorem isResolved_of_method (h : (e.call (.method m)).result = .ok answer) :
    ∀ t ∈ m.returnType :: m.params, t.isResolved = true := by
  have hfailure : (Plan.run e.types ((Call.method m).plan e.settings)).failure = none :=
    ((result_perform_eq_ok_iff _ _ _).mp h).1
  have hpasses := (Plan.failure_run_eq_none_iff _ _).mp hfailure
  rw [steps_method] at hpasses
  intro t ht
  refine hpasses (.mention t) ?_
  rcases List.mem_cons.mp ht with rfl | ht
  · exact List.mem_cons_self
  · simp [ht]

theorem hasReadableTypes_of_method
    (hsource : ∀ t ∈ m.returnType :: m.params, ∃ s, TypeRef.ofSource s = .ok t)
    (h : (e.call (.method m)).result = .ok answer) : m.HasReadableTypes := by
  have hreadable : ∀ t ∈ m.returnType :: m.params, t.Readable := by
    intro t ht
    exact ⟨hsource t ht, isResolved_of_method h t ht⟩
  exact ⟨hreadable _ List.mem_cons_self, fun t ht => hreadable t (List.mem_cons_of_mem _ ht)⟩

/-- A method that is accepted gets one row. -/
theorem rowsOf_method
    (h : (e.call (.method m)).result = .ok answer) :
    (e.call (.method m)).rowsOf .method =
      [[m.id e.settings, m.name, m.sourceDescriptor, m.declaringClass, m.returnType.name,
        m.rawDescriptor]] := by
  have hfailure : (Plan.run e.types ((Call.method m).plan e.settings)).failure = none :=
    ((result_perform_eq_ok_iff _ _ _).mp h).1
  have htypes : ∀ t : TypeRef, (t.arrayRows.filter fun f => f.relation = .method) = [] := by
    intro t
    rw [List.filter_eq_nil_iff]
    intro f hf
    rcases relation_of_mem_arrayRows hf with hrelation | hrelation <;> simp [hrelation]
  rw [Performed.rowsOf, run_call, Plan.rows_run_of_success hfailure, steps_method]
  simp [List.filter_flatMap, List.flatMap_map, Step.rowsUnder, htypes, Encoding.signatureStep,
    Encoding.methodRow, Fact.of]

end Encoder

/-- Two methods whose types were read from source forms, and which are accepted, get one row each.
The rows are the same exactly if the methods have the same declaring class, name, return type and
parameters, whether or not they share an identifier.  Each of the two descriptors in a row alone
determines the return type and the parameters. -/
theorem method_rows_eq_iff
    {e e' : Encoder} (hsettings : e.settings = e'.settings) {m m' : MethodDecl}
    (hsource : ∀ t ∈ m.returnType :: m.params, ∃ s, TypeRef.ofSource s = .ok t)
    (hsource' : ∀ t ∈ m'.returnType :: m'.params, ∃ s, TypeRef.ofSource s = .ok t)
    {answer answer' : Answer} (h : (e.call (.method m)).result = .ok answer)
    (h' : (e'.call (.method m')).result = .ok answer') :
    let rows := (e.call (.method m)).rowsOf .method
    let rows' := (e'.call (.method m')).rowsOf .method
    rows = [[m.id e.settings, m.name, m.sourceDescriptor, m.declaringClass, m.returnType.name,
      m.rawDescriptor]] ∧
    (rows = rows' ↔
      m.declaringClass = m'.declaringClass ∧ m.name = m'.name ∧ m.returnType = m'.returnType ∧
        m.params = m'.params) ∧
    (m.sourceDescriptor = m'.sourceDescriptor ↔
      m.returnType = m'.returnType ∧ m.params = m'.params) ∧
    (m.rawDescriptor = m'.rawDescriptor ↔
      m.returnType = m'.returnType ∧ m.params = m'.params) := by
  intro rows rows'
  have hm := Encoder.hasReadableTypes_of_method hsource h
  have hm' := Encoder.hasReadableTypes_of_method hsource' h'
  have hrows : rows = _ := Encoder.rowsOf_method h
  have hrows' : rows' = _ := Encoder.rowsOf_method h'
  refine ⟨hrows, ?_, hm.sourceDescriptor_eq_iff hm', hm.rawDescriptor_eq_iff hm'⟩
  constructor
  · intro heq
    have hcells := hrows.symm.trans (heq.trans hrows')
    simp only [List.cons.injEq, and_true] at hcells
    obtain ⟨-, hname, hdescriptor, hclass, -, -⟩ := hcells
    exact ⟨hclass, hname, (hm.sourceDescriptor_eq_iff hm').mp hdescriptor⟩
  · rintro ⟨hclass, hname, hreturn, hparams⟩
    have hsignature : m.signature = m'.signature := by
      rw [MethodDecl.signature, MethodDecl.signature, MethodDecl.paramList, MethodDecl.paramList,
        hclass, hname, hreturn, hparams]
    have hid : m.id e.settings = m'.id e'.settings := by
      rw [MethodDecl.id, MethodDecl.id, hsettings, hsignature]
    rw [hrows, hrows', hid, hname, hclass, hreturn,
      (hm.sourceDescriptor_eq_iff hm').mpr ⟨hreturn, hparams⟩,
      (hm.rawDescriptor_eq_iff hm').mpr ⟨hreturn, hparams⟩]

/-- A method with an array of some class and a number as parameters. -/
def overloadOf (className : String) : MethodDecl where
  declaringClass := "A:/B"
  name := "m("
  params := [.array (.named className), .primitive .int]
  returnType := .primitive .void
  modifiers := []
  declaredExceptions := []
  body := []

/-- Under a small threshold, two overloads share their identifier, but not their row. -/
theorem method_rows_eq_iff_overloads :
    let e := Encoder.fresh ⟨256, 10, false⟩ true
    let first := e.call (.method (overloadOf "Aa"))
    let second := e.call (.method (overloadOf "BB"))
    first.result = .ok (.text "<<METHOD HASH:128580329>>") ∧ second.result = first.result ∧
      first.rowsOf .method ≠ second.rowsOf .method ∧
      (overloadOf "Aa").rawDescriptor = "([LAa;I)V" ∧
      (overloadOf "Aa").rawDescriptor ≠ (overloadOf "BB").rawDescriptor := by
  intro e first second
  have hread : ∀ t ∈ (overloadOf "Aa").returnType :: (overloadOf "Aa").params,
      TypeRef.ofSource t.name = .ok t := by
    decide +kernel
  have hread' : ∀ t ∈ (overloadOf "BB").returnType :: (overloadOf "BB").params,
      TypeRef.ofSource t.name = .ok t := by
    decide +kernel
  have hfirst : first.result = .ok (.text "<<METHOD HASH:128580329>>") := by decide +kernel
  have hsecond : second.result = .ok (.text "<<METHOD HASH:128580329>>") := by decide +kernel
  have hparams : (overloadOf "Aa").params ≠ (overloadOf "BB").params := by decide
  obtain ⟨-, hrows, -, hraw⟩ := method_rows_eq_iff rfl (fun t ht => ⟨_, hread t ht⟩)
    (fun t ht => ⟨_, hread' t ht⟩) hfirst hsecond
  refine ⟨hfirst, hsecond.trans hfirst.symm, ?_, by decide +kernel, ?_⟩
  · intro heq
    exact hparams (hrows.mp heq).2.2.2
  · intro heq
    exact hparams (hraw.mp heq).2

end ProgramFacts
