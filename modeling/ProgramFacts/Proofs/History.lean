import ProgramFacts.Proofs.Calls

/-!
# Calls in different histories

Two encoders with the same settings may have encoded quite different things before.  A call that
succeeds on both gives the same answer, uses up the same numbers of temporaries, and writes the same
rows in the same order; only where it declares a variable are the rows of the variable's type those
of the type that was recorded in each history.
-/

namespace ProgramFacts

/-! ## The type that a call is told first -/

/-- If several types are given for a variable, only the first can become the recorded one. -/
theorem RecordedTypes.exists_resolve_recordAll
    {given : List (String × TypeRef)} {var : String} {type : TypeRef} (h : (var, type) ∈ given) :
    ∃ first, ∀ types : RecordedTypes,
      (types.recordAll given).resolve var type = types.resolve var first := by
  cases hlookup : given.lookup var with
  | none => simpa using List.lookup_eq_none_iff.mp hlookup _ h
  | some first =>
      refine ⟨first, ?_⟩
      intro types
      rw [resolve, resolve, get?_recordAll, hlookup]
      cases types.get? var <;> rfl

/-! ## Rows that are the same but for types -/

/-- Whether two lists of rows are the same, except that the rows of a variable show, in each list,
the type that was recorded for the variable, or the same given type where none was. -/
inductive SameButTypes (types types' : RecordedTypes) : List Fact → List Fact → Prop where
  | nil : SameButTypes types types' [] []
  | row {rows rows' : List Fact} (f : Fact) (rest : SameButTypes types types' rows rows') :
      SameButTypes types types' (f :: rows) (f :: rows')
  | declared {rows rows' : List Fact} (var : String) (given : TypeRef) (method : String)
      (rest : SameButTypes types types' rows rows') :
      SameButTypes types types'
        (variableRows var (types.resolve var given) method ++ rows)
        (variableRows var (types'.resolve var given) method ++ rows')

/-- What a row says apart from the levels of array types and the types of variables. -/
def Fact.withoutTypes (f : Fact) : Option (Relation × List String) :=
  match f.relation with
  | .arrayType => none
  | .componentType => none
  | .varType => some (.varType, f.row.take 1)
  | r => some (r, f.row)

theorem filterMap_withoutTypes_arrayRows (type : TypeRef) :
    type.arrayRows.filterMap Fact.withoutTypes = [] := by
  rw [List.filterMap_eq_nil_iff]
  intro f hf
  rcases relation_of_mem_arrayRows hf with h | h <;> simp [Fact.withoutTypes, h]

theorem filterMap_withoutTypes_variableRows (var method : String) (type : TypeRef) :
    (variableRows var type method).filterMap Fact.withoutTypes =
      [(.varType, [var]), (.varDeclaringMethod, [var, method])] := by
  rw [variableRows, List.filterMap_append, filterMap_withoutTypes_arrayRows]
  rfl

namespace SameButTypes

variable {types types' : RecordedTypes} {rows rows' more more' : List Fact}

theorem refl (rows : List Fact) : SameButTypes types types' rows rows := by
  induction rows with
  | nil => exact nil
  | cons f rows ih => exact row f ih

theorem append
    (h : SameButTypes types types' rows rows') (hmore : SameButTypes types types' more more') :
    SameButTypes types types' (rows ++ more) (rows' ++ more') := by
  induction h with
  | nil => exact hmore
  | row f _ ih => exact row f ih
  | declared var given method _ ih =>
      rw [List.append_assoc, List.append_assoc]
      exact declared var given method ih

theorem flatMap
    {α : Type} {items : List α} {left right : α → List Fact}
    (h : ∀ a ∈ items, SameButTypes types types' (left a) (right a)) :
    SameButTypes types types' (items.flatMap left) (items.flatMap right) := by
  induction items with
  | nil => exact nil
  | cons a items ih =>
      rw [List.forall_mem_cons] at h
      exact h.1.append (ih h.2)

/-- Without the types, nothing is left in which the rows could differ. -/
theorem filterMap_withoutTypes (h : SameButTypes types types' rows rows') :
    rows.filterMap Fact.withoutTypes = rows'.filterMap Fact.withoutTypes := by
  induction h with
  | nil => rfl
  | row f _ ih => rw [List.filterMap_cons, List.filterMap_cons, ih]
  | declared var given method _ ih =>
      rw [List.filterMap_append, List.filterMap_append, filterMap_withoutTypes_variableRows,
        filterMap_withoutTypes_variableRows, ih]

end SameButTypes

/-! ## Runs of one plan -/

theorem Task.drawn_run (types : RecordedTypes) (t : Task) :
    (t.run types).drawn = Plan.drawnBy t := by
  obtain ⟨s, units⟩ := t
  cases s with
  | mention type =>
      simp only [run, Step.run]
      split <;> rfl
  | declare var type method =>
      simp only [run, Step.run]
      split <;> rfl
  | _ => rfl

namespace Plan

theorem drawn_run_of_success
    {types : RecordedTypes} {p : Plan} (h : (Plan.run types p).failure = none) :
    (Plan.run types p).drawn = p.drawn := by
  induction types, p using run_induction with
  | ended types => rfl
  | stops types t rest e hfails => simp [run_cons_of_failure hfails, hfails] at h
  | goesOn types t rest hpasses ih =>
      rw [run_cons_of_success hpasses] at h ⊢
      rw [ih h, Task.drawn_run, drawn, drawn, List.flatMap_cons]

/-- What a plan writes depends on the types recorded before in the rows of variables and nowhere
else. -/
theorem sameButTypes_rows_run
    {types types' : RecordedTypes} {p : Plan}
    (h : (Plan.run types p).failure = none) (h' : (Plan.run types' p).failure = none) :
    SameButTypes types types' (Plan.run types p).rows (Plan.run types' p).rows := by
  rw [rows_run_of_success h, rows_run_of_success h', types_run_of_success h,
    types_run_of_success h']
  apply SameButTypes.flatMap
  intro s hs
  cases s with
  | declare var type method =>
      have hregistered : (var, type) ∈ Step.registrations p.steps :=
        List.mem_filterMap.mpr ⟨_, hs, rfl⟩
      obtain ⟨first, hfirst⟩ := RecordedTypes.exists_resolve_recordAll hregistered
      have hrows : SameButTypes types types'
          (variableRows var (types.resolve var first) method ++ [])
          (variableRows var (types'.resolve var first) method ++ []) :=
        SameButTypes.declared var first method .nil
      simpa only [Step.rowsUnder, hfirst, List.append_nil] using hrows
  | _ => exact SameButTypes.refl _

end Plan

/-! ## Main result -/

namespace Encoder

/-- Two encoders with the same settings, whatever each has encoded before, give the same answer to a
call that succeeds on both.  The call uses up the same numbers on both, and the rows that it appends
are the same in the same order, except for the types of variables, which were recorded before. -/
theorem call_same_but_types
    {e e' : Encoder} (hsettings : e.settings = e'.settings) {c : Call} {answer answer' : Answer}
    (h : (e.call c).result = .ok answer) (h' : (e'.call c).result = .ok answer') :
    answer = answer' ∧ (e.call c).run.drawn = (e'.call c).run.drawn ∧
      ∃ rows rows',
        (e.call c).encoder.store.accepted.toList = e.store.accepted.toList ++ rows ∧
        (e'.call c).encoder.store.accepted.toList = e'.store.accepted.toList ++ rows' ∧
        SameButTypes e.types e'.types rows rows' ∧
        rows.filterMap Fact.withoutTypes = rows'.filterMap Fact.withoutTypes := by
  obtain ⟨settings, store, types⟩ := e
  obtain ⟨settings', store', types'⟩ := e'
  obtain rfl : settings = settings' := hsettings
  obtain ⟨hrun, rfl⟩ := (result_perform_eq_ok_iff _ _ _).mp h
  obtain ⟨hrun', rfl⟩ := (result_perform_eq_ok_iff _ _ _).mp h'
  have hdrawn := Plan.drawn_run_of_success hrun
  have hdrawn' := Plan.drawn_run_of_success hrun'
  have hrows := Plan.sameButTypes_rows_run hrun hrun'
  exact ⟨rfl, hdrawn.trans hdrawn'.symm, _, _, accepted_call _ c, accepted_call _ c, hrows,
    hrows.filterMap_withoutTypes⟩

end Encoder

/-- A method that puts a handle of itself into a variable and returns it. -/
def returningHandle : MethodDecl where
  declaringClass := "A"
  name := "m"
  params := [.named "B"]
  returnType := .named "C"
  modifiers := []
  declaredExceptions := []
  body :=
    [⟨0, none, .constant ⟨"x", .named "C"⟩ (.methodHandle "A.m")⟩,
      ⟨1, some 7, .returnValue ⟨"x", .named "C"⟩⟩]

/-- Two histories that recorded different types for the variable, an array type in one of them. -/
theorem Encoder.call_same_but_types_returningHandle :
    let e := (fresh .standard true).calls
      [.localVariable returningHandle ⟨"x", .array (.primitive .int)⟩]
    let e' := (fresh .standard true).calls
      [.stringConstant "text", .localVariable returningHandle ⟨"x", .named "D"⟩]
    let c := Call.wholeMethod returningHandle
    let answer := Answer.statistics ⟨0, 0, 1, 2, 0, 0⟩
    e.settings = e'.settings ∧ (e.call c).result = .ok answer ∧ (e'.call c).result = .ok answer ∧
      (e.call c).run.rows ≠ (e'.call c).run.rows ∧
      answer = answer ∧ (e.call c).run.drawn = (e'.call c).run.drawn ∧
      ∃ rows rows',
        (e.call c).encoder.store.accepted.toList = e.store.accepted.toList ++ rows ∧
        (e'.call c).encoder.store.accepted.toList = e'.store.accepted.toList ++ rows' ∧
        SameButTypes e.types e'.types rows rows' ∧
        rows.filterMap Fact.withoutTypes = rows'.filterMap Fact.withoutTypes := by
  intro e e' c answer
  have hsettings : e.settings = e'.settings := by decide +kernel
  have h : (e.call c).result = .ok answer := by decide +kernel
  have h' : (e'.call c).result = .ok answer := by decide +kernel
  have hrows : (e.call c).run.rows ≠ (e'.call c).run.rows := by decide +kernel
  exact ⟨hsettings, h, h', hrows, call_same_but_types hsettings h h'⟩

end ProgramFacts
