import ProgramFacts.Proofs.WrittenRelations

/-!
# The types of variables

Over any sequence of calls, the recorded type of a variable is the first that was given for it,
and the rows of variable types are the recorded types that are resolved.  A variable whose recorded
type is unresolved has no such row and never gets one: whoever registers it again fails.
-/

namespace ProgramFacts

/-! ## Registrations -/

namespace Encoder

/-- The variables that a sequence of calls registers, in order, with the types that are given for
them; a call that fails registers variables up to the step that fails. -/
def registrations (e : Encoder) : List Call → List (String × TypeRef)
  | [] => []
  | c :: cs =>
    Step.registrations (Plan.taken e.types (c.plan e.settings)) ++
      (e.call c).encoder.registrations cs

/-- What calls record is determined by the variables that they register. -/
theorem types_calls (e : Encoder) (cs : List Call) :
    (e.calls cs).types = e.types.recordAll (e.registrations cs) := by
  induction cs generalizing e with
  | nil => rfl
  | cons c cs ih =>
      rw [calls_cons, ih, registrations, RecordedTypes.recordAll_append, types_call,
        Plan.types_run]

/-- The first type that is given for a variable is recorded. -/
theorem get?_types_calls_fresh
    (settings : EncoderSettings) (journaled : Bool) (cs : List Call) (var : String) :
    ((fresh settings journaled).calls cs).types.get? var =
      ((fresh settings journaled).registrations cs).lookup var := by
  rw [types_calls, RecordedTypes.get?_recordAll]
  exact Option.none_or

/-- No call changes a recorded type. -/
theorem get?_types_calls_of_eq_some
    {e : Encoder} {var : String} {type : TypeRef} (h : e.types.get? var = some type)
    (cs : List Call) :
    (e.calls cs).types.get? var = some type := by
  rw [types_calls]
  exact RecordedTypes.get?_recordAll_of_eq_some h _

end Encoder

/-! ## Rows of variable types -/

/-- Whether the rows of variable types among some facts are the recorded types that are
resolved. -/
def RecordedTypes.Shown (facts : List Fact) (types : RecordedTypes) : Prop :=
  ∀ var name, HasRow facts .varType [var, name] ↔
    ∃ type, types.get? var = some type ∧ type.isResolved = true ∧ name = type.name

theorem not_hasRow_varType_arrayRows (type : TypeRef) (row : List String) :
    ¬ HasRow type.arrayRows .varType row := by
  rintro ⟨f, hf, hrelation, -⟩
  rcases relation_of_mem_arrayRows hf with h | h <;> simp [h] at hrelation

theorem hasRow_varType_variableRows_iff
    {var method : String} {type : TypeRef} {other name : String} :
    HasRow (variableRows var type method) .varType [other, name] ↔
      other = var ∧ name = type.name := by
  rw [variableRows, hasRow_append_iff, or_iff_right (not_hasRow_varType_arrayRows type _)]
  simp [HasRow, Fact.of, eq_comm]

theorem RecordedTypes.Shown.append
    {facts : List Fact} {types : RecordedTypes} (h : types.Shown facts)
    {more : List Fact} (hmore : ∀ row, ¬ HasRow more .varType row) :
    types.Shown (facts ++ more) := by
  intro var name
  rw [hasRow_append_iff, or_iff_left (hmore _)]
  exact h var name

/-- Declaring a variable keeps the rows of variable types in step with the recorded types. -/
theorem RecordedTypes.Shown.declare
    {facts : List Fact} {types : RecordedTypes} (h : types.Shown facts)
    (var : String) (type : TypeRef) (method : String) :
    ((Step.declare var type method).run types).types.Shown
      (facts ++ ((Step.declare var type method).run types).rows) := by
  have hrecorded : ∀ name, HasRow facts .varType [var, name] →
      (types.resolve var type).isResolved = true ∧ name = (types.resolve var type).name := by
    intro name hname
    obtain ⟨recorded, hget, hresolved, rfl⟩ := (h var name).mp hname
    rw [resolve_of_get?_eq_some hget]
    exact ⟨hresolved, rfl⟩
  intro other name
  cases hresolved : (types.resolve var type).isResolved with
  | false =>
      simp only [Step.run, hresolved, Bool.false_eq_true, if_false, Run.failed, List.append_nil,
        get?_record]
      by_cases hother : other = var
      · subst hother
        simp only [if_true, Option.some.injEq, exists_eq_left', hresolved, Bool.false_eq_true,
          false_and, iff_false]
        intro hname
        simpa [hresolved] using hrecorded name hname
      · simpa only [hother, if_false] using h other name
  | true =>
      simp only [Step.run, hresolved, if_true, Run.wrote, get?_record, hasRow_append_iff,
        hasRow_varType_variableRows_iff]
      by_cases hother : other = var
      · subst hother
        simp only [if_true, Option.some.injEq, exists_eq_left', hresolved, true_and]
        constructor
        · rintro (hname | hname)
          · exact (hrecorded name hname).2
          · exact hname
        · exact Or.inr
      · simp only [hother, if_false, false_and, or_false]
        exact h other name

/-- A step that writes no row about types by itself keeps the rows of variable types in step with
the recorded types. -/
theorem RecordedTypes.Shown.run
    {facts : List Fact} {types : RecordedTypes} (h : types.Shown facts)
    {s : Step} (hs : s.WritesOnly (·.isAboutTypes = false)) :
    (s.run types).types.Shown (facts ++ (s.run types).rows) := by
  have hnil : ∀ row, ¬ HasRow [] .varType row := by
    rintro row ⟨f, hf, -⟩
    exact absurd hf List.not_mem_nil
  cases s with
  | write f =>
      apply h.append
      rintro row ⟨g, hg, hrelation, -⟩
      rw [← List.mem_singleton.mp hg, Step.WritesOnly, hrelation] at hs
      cases hs
  | mention type =>
      cases hresolved : type.isResolved with
      | false =>
          simp only [Step.run, hresolved, Bool.false_eq_true, if_false]
          exact h.append hnil
      | true =>
          simp only [Step.run, hresolved, if_true]
          exact h.append (not_hasRow_varType_arrayRows type)
  | declare var type method => exact h.declare var type method
  | draw basename => exact h.append hnil
  | refuse error => exact h.append hnil

/-- Over any sequence of calls the rows of variable types are the recorded types that are
resolved. -/
theorem shown_calls_fresh (settings : EncoderSettings) (journaled : Bool) (cs : List Call) :
    ((Encoder.fresh settings journaled).calls cs).types.Shown
      ((Encoder.fresh settings journaled).calls cs).store.accepted.toList := by
  apply Encoder.calls_invariant fun e => e.types.Shown e.store.accepted.toList
  · intro e c h
    rw [Encoder.accepted_call, Encoder.types_call]
    apply Plan.run_invariant (fun facts types => types.Shown facts) _ _ _ h
    intro s hs facts types h
    apply h.run
    exact (c.writesOnly_plan e.settings s hs).mono fun r => Call.isAboutTypes_of_mem_relations
  · intro var name
    simp [HasRow, Encoder.fresh, FactStore.empty]

/-- A variable has at most one row with its type. -/
theorem length_lookup_varType_le_one
    {s : FactStore} {types : RecordedTypes} (h : types.Shown s.accepted.toList) (var : String) :
    (s.lookup .varType var).length ≤ 1 := by
  have hrow : ∀ row ∈ s.lookup .varType var,
      ∃ type, types.get? var = some type ∧ row = [var, type.name] := by
    intro row hmem
    obtain ⟨hfacts, hkey⟩ := List.mem_filter.mp hmem
    have hlength : row.length = 2 := FactStore.length_of_mem_facts hfacts
    obtain ⟨first, name, rfl⟩ := List.length_eq_two.mp hlength
    obtain rfl : first = var := by simpa using hkey
    obtain ⟨type, hget, -, rfl⟩ := (h _ _).mp (FactStore.mem_facts_iff.mp hfacts)
    exact ⟨type, hget, rfl⟩
  have hnodup : (s.lookup .varType var).Nodup := (FactStore.nodup_facts s .varType).filter _
  by_contra hlong
  obtain ⟨a, b, rest, hlist⟩ : ∃ a b rest, s.lookup .varType var = a :: b :: rest := by
    match hlist : s.lookup .varType var with
    | [] => simp [hlist] at hlong
    | [a] => simp [hlist] at hlong
    | a :: b :: rest => exact ⟨a, b, rest, rfl⟩
  obtain ⟨type, hget, rfl⟩ := hrow a (by simp [hlist])
  obtain ⟨type', hget', rfl⟩ := hrow b (by simp [hlist])
  rw [hget] at hget'
  cases hget'
  simp [hlist] at hnodup

/-! ## Variables without a type row -/

/-- A run that registers a variable whose recorded type is unresolved fails because of that type,
whatever type it gives. -/
theorem failure_run_of_registered
    {types : RecordedTypes} {p : Plan} {var : String} {recorded given : TypeRef}
    (hget : types.get? var = some recorded) (hresolved : recorded.isResolved = false)
    (hgiven : (var, given) ∈ Step.registrations (Plan.taken types p)) :
    ∃ e, (Plan.run types p).failure = some e ∧ e.rootCause = recorded.kindError := by
  have hfails : ∀ {types : RecordedTypes} {s : Step}, types.get? var = some recorded →
      s.registered? = some (var, given) →
        (s.run types).failure = some recorded.kindError := by
    intro types s hget hs
    cases s with
    | declare other type method =>
        obtain ⟨rfl, rfl⟩ : other = var ∧ type = given := by simpa [Step.registered?] using hs
        simp [Step.run, RecordedTypes.resolve_of_get?_eq_some hget, hresolved, Run.failed]
    | _ => simp [Step.registered?] at hs
  induction types, p using Plan.run_induction with
  | ended types => simp [Plan.taken] at hgiven
  | stops types t rest e hstop =>
      rw [Plan.taken_cons_of_failure hstop] at hgiven
      obtain ⟨outer, houter, hcause⟩ :=
        Task.rootCause_of_failure_run (hfails hget (by simpa [Step.registrations] using hgiven))
      exact ⟨outer, (congrArg Run.failure (Plan.run_cons_of_failure hstop)).trans houter, hcause⟩
  | goesOn types t rest hpasses ih =>
      rw [Plan.taken_cons_of_success hpasses, Step.registrations_cons, List.mem_append] at hgiven
      rcases hgiven with hgiven | hgiven
      · have hstop := hfails hget (by simpa using hgiven)
        rw [(Task.failure_run_eq_none_iff types t).mp hpasses] at hstop
        cases hstop
      · have hlater : (t.run types).types.get? var = some recorded := by
          rw [Task.types_run, Step.types_run]
          exact RecordedTypes.get?_recordAll_of_eq_some hget _
        rw [Plan.run_cons_of_success hpasses]
        exact ih hlater hgiven

/-- Over any sequence of calls, whether they succeed or fail: a variable has at most one row with
its type; the rows of variable types are the recorded types that are resolved; the recorded type of
a variable is the first that was given for it, and no later call changes it; and a variable with a
recorded type has no row exactly if that type is unresolved, and then every later call that
registers the variable fails because of that type. -/
theorem variableTypes_calls (settings : EncoderSettings) (journaled : Bool) (cs : List Call) :
    let e := (Encoder.fresh settings journaled).calls cs
    (∀ var, (e.store.lookup .varType var).length ≤ 1) ∧
    (∀ var name, [var, name] ∈ e.store.facts .varType ↔
      ∃ type, e.types.get? var = some type ∧ type.isResolved = true ∧ name = type.name) ∧
    (∀ var, e.types.get? var =
      ((Encoder.fresh settings journaled).registrations cs).lookup var) ∧
    ∀ var type, e.types.get? var = some type →
      (∀ later, (e.calls later).types.get? var = some type) ∧
      ((∀ name, [var, name] ∉ e.store.facts .varType) ↔ type.isResolved = false) ∧
      (type.isResolved = false → ∀ later c given,
        (var, given) ∈ (e.calls later).registrations [c] →
          ∃ error, ((e.calls later).call c).result = .error error ∧
            error.rootCause = .invalidTypeKind type.element.name) := by
  intro e
  have hshown : e.types.Shown e.store.accepted.toList :=
    shown_calls_fresh settings journaled cs
  have hrow : ∀ var name, [var, name] ∈ e.store.facts .varType ↔
      ∃ type, e.types.get? var = some type ∧ type.isResolved = true ∧ name = type.name := by
    intro var name
    rw [FactStore.mem_facts_iff]
    exact hshown var name
  refine ⟨length_lookup_varType_le_one hshown, hrow,
    Encoder.get?_types_calls_fresh settings journaled cs, ?_⟩
  intro var type hget
  refine ⟨Encoder.get?_types_calls_of_eq_some hget, ?_, ?_⟩
  · constructor
    · intro hno
      by_contra hresolved
      exact hno type.name ((hrow _ _).mpr ⟨type, hget, by simpa using hresolved, rfl⟩)
    · intro hresolved name hname
      obtain ⟨recorded, hrecorded, htrue, -⟩ := (hrow _ _).mp hname
      rw [hget] at hrecorded
      cases hrecorded
      rw [hresolved] at htrue
      cases htrue
  · intro hresolved later c given hgiven
    have hlater := Encoder.get?_types_calls_of_eq_some hget later
    rw [Encoder.registrations, Encoder.registrations, List.append_nil] at hgiven
    obtain ⟨error, hfailure, hcause⟩ := failure_run_of_registered hlater hresolved hgiven
    exact ⟨error, (Encoder.result_perform_eq_error_iff _ _ _).mpr hfailure, hcause⟩

/-- A static method that puts a number into a variable. -/
def numberMethod : MethodDecl where
  declaringClass := "A"
  name := "m"
  params := []
  returnType := .primitive .void
  modifiers := [.static]
  declaredExceptions := []
  body := [⟨0, none, .constant ⟨"x", .primitive .int⟩ (.numeric "1")⟩]

/-- A variable that was given an array of an unresolved type first keeps it, has no row, and makes
the method fail that gives it the type of numbers, also when the method is encoded again. -/
theorem variableTypes_calls_numberMethod :
    let e := (Encoder.fresh .standard true).calls
      [.localVariable numberMethod ⟨"x", .array (.unresolved "T")⟩]
    let again := e.calls [.wholeMethod numberMethod]
    e.types.get? "<A: void m()>/x" = some (.array (.unresolved "T")) ∧
    ("<A: void m()>/x", .primitive .int) ∈ again.registrations [.wholeMethod numberMethod] ∧
    (∀ name, ["<A: void m()>/x", name] ∉ e.store.facts .varType) ∧
    again.types.get? "<A: void m()>/x" = some (.array (.unresolved "T")) ∧
    ∃ error, (again.call (.wholeMethod numberMethod)).result = .error error ∧
      error.rootCause = .invalidTypeKind "?T" := by
  intro e again
  have hget : e.types.get? "<A: void m()>/x" = some (.array (.unresolved "T")) := by
    decide +kernel
  have hgiven : ("<A: void m()>/x", .primitive .int) ∈
      again.registrations [.wholeMethod numberMethod] := by
    decide +kernel
  obtain ⟨-, -, -, hrecorded⟩ := variableTypes_calls .standard true
    [.localVariable numberMethod ⟨"x", .array (.unresolved "T")⟩]
  obtain ⟨hkept, hrow, hfails⟩ := hrecorded _ _ hget
  exact ⟨hget, hgiven, hrow.mpr rfl, hkept _, hfails rfl _ _ _ hgiven⟩

end ProgramFacts
