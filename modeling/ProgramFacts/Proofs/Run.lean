import ProgramFacts.Encoding.Step

/-!
# Laws of runs

A run takes the steps of a plan in order, up to the first that fails.  The steps it takes determine
the types it records and the rows it writes; a plan runs to its end exactly if every step passes
under the types that are recorded at the end, because a recorded type never changes.
-/

namespace ProgramFacts

/-! ## Recorded types -/

namespace RecordedTypes

@[simp] theorem get?_empty (var : String) : empty.get? var = none := rfl

theorem resolve_of_get?_eq_some
    {types : RecordedTypes} {var : String} {recorded : TypeRef}
    (h : types.get? var = some recorded) (type : TypeRef) :
    types.resolve var type = recorded := by
  simp [resolve, h]

theorem get?_record
    (types : RecordedTypes) (var other : String) (type : TypeRef) :
    (types.record var type).get? other =
      if other = var then some (types.resolve var type) else types.get? other := by
  unfold record resolve
  by_cases hvar : other = var
  · subst hvar
    cases h : types.get? other with
    | none => simp [get?]
    | some recorded => simp [h]
  · have hbeq : (other == var) = false := beq_eq_false_iff_ne.mpr hvar
    cases h : types.get? var with
    | none => simp [get?, List.lookup_cons, hbeq, hvar]
    | some recorded => simp [hvar]

/-- Records types for variables, one after another. -/
def recordAll (types : RecordedTypes) (given : List (String × TypeRef)) : RecordedTypes :=
  given.foldl (fun types g => types.record g.1 g.2) types

@[simp] theorem recordAll_nil (types : RecordedTypes) : types.recordAll [] = types := rfl

@[simp] theorem recordAll_cons
    (types : RecordedTypes) (g : String × TypeRef) (given : List (String × TypeRef)) :
    types.recordAll (g :: given) = (types.record g.1 g.2).recordAll given := rfl

theorem recordAll_append
    (types : RecordedTypes) (first second : List (String × TypeRef)) :
    types.recordAll (first ++ second) = (types.recordAll first).recordAll second :=
  List.foldl_append

/-- What is recorded for a variable is what was recorded before or else the first type given. -/
theorem get?_recordAll
    (types : RecordedTypes) (given : List (String × TypeRef)) (var : String) :
    (types.recordAll given).get? var = (types.get? var).or (given.lookup var) := by
  induction given generalizing types with
  | nil => simp
  | cons g given ih =>
      obtain ⟨other, type⟩ := g
      rw [recordAll_cons, ih, get?_record]
      by_cases hvar : var = other
      · subst hvar
        cases h : types.get? var with
        | none => simp [resolve, h]
        | some recorded => simp [resolve, h]
      · have hbeq : (var == other) = false := beq_eq_false_iff_ne.mpr hvar
        simp [hvar, List.lookup_cons, hbeq]

/-- A recorded type never changes. -/
theorem get?_recordAll_of_eq_some
    {types : RecordedTypes} {var : String} {type : TypeRef}
    (h : types.get? var = some type) (given : List (String × TypeRef)) :
    (types.recordAll given).get? var = some type := by
  rw [get?_recordAll, h, Option.some_or]

end RecordedTypes

/-! ## Errors under units -/

namespace EncodeError

@[simp] theorem rootCause_within (unit : String) (e : EncodeError) :
    (e.within unit).rootCause = e.rootCause := by
  cases e with
  | inUnit outer source =>
      simp only [within]
      split <;> rfl
  | _ => rfl

theorem rootCause_foldl_within (units : List String) (e : EncodeError) :
    (units.foldl (fun e unit => e.within unit) e).rootCause = e.rootCause := by
  induction units generalizing e with
  | nil => rfl
  | cons unit units ih => rw [List.foldl_cons, ih, rootCause_within]

end EncodeError

/-! ## Single steps -/

/-- Whether the rows of a relation are about types and variables, so that only the steps which
mention a type or declare a variable write them. -/
def Relation.isAboutTypes : Relation → Bool
  | arrayType | componentType | varType | varDeclaringMethod => true
  | _ => false

theorem relation_of_mem_arrayRows {t : TypeRef} {f : Fact} (hf : f ∈ t.arrayRows) :
    f.relation = .arrayType ∨ f.relation = .componentType := by
  induction t with
  | array component ih =>
      simp only [TypeRef.arrayRows, List.mem_append, List.mem_cons, List.not_mem_nil,
        or_false] at hf
      rcases hf with hf | rfl | rfl
      · exact ih hf
      · exact Or.inl rfl
      · exact Or.inr rfl
  | _ => simp [TypeRef.arrayRows] at hf

theorem mem_variableRows {var method : String} {type : TypeRef} {f : Fact} :
    f ∈ variableRows var type method ↔
      f ∈ type.arrayRows ∨ f = .of .varType [var, type.name] ∨
        f = .of .varDeclaringMethod [var, method] := by
  simp [variableRows]

theorem isAboutTypes_of_mem_variableRows
    {var method : String} {type : TypeRef} {f : Fact}
    (hf : f ∈ variableRows var type method) :
    f.relation.isAboutTypes = true := by
  rcases mem_variableRows.mp hf with hf | rfl | rfl
  · rcases relation_of_mem_arrayRows hf with h | h <;> rw [h] <;> rfl
  · rfl
  · rfl

namespace Step

/-- The variable that a step registers, with the type that is given for it. -/
def registered? : Step → Option (String × TypeRef)
  | declare var type _ => some (var, type)
  | _ => none

/-- Whether a step succeeds when `final` is what is recorded in the end. -/
def Passes (final : RecordedTypes) : Step → Prop
  | mention type => type.isResolved = true
  | declare var _ _ => ∃ recorded, final.get? var = some recorded ∧ recorded.isResolved = true
  | refuse _ => False
  | write _ => True
  | draw _ => True

theorem types_run (types : RecordedTypes) (s : Step) :
    (s.run types).types = types.recordAll s.registered?.toList := by
  cases s with
  | mention type =>
      simp only [run]
      split <;> rfl
  | declare var type method =>
      simp only [run]
      split <;> rfl
  | _ => rfl

/-- A row that is not about types comes from the step that writes it and from no other. -/
theorem mem_rows_run_iff
    {types : RecordedTypes} {s : Step} {f : Fact}
    (hf : f.relation.isAboutTypes = false) :
    f ∈ (s.run types).rows ↔ s = .write f := by
  cases s with
  | write fact => simp [run, Run.wrote, eq_comm]
  | mention type =>
      have hno : f ∉ type.arrayRows := by
        intro hmem
        rcases relation_of_mem_arrayRows hmem with h | h <;> simp [h, Relation.isAboutTypes] at hf
      simp only [run]
      split <;> simp [Run.wrote, Run.failed, hno]
  | declare var type method =>
      have hno : f ∉ variableRows var (types.resolve var type) method := by
        intro hmem
        simp [isAboutTypes_of_mem_variableRows hmem] at hf
      simp only [run]
      split <;> simp [Run.wrote, Run.failed, hno]
  | draw basename => simp [run]
  | refuse error => simp [run, Run.failed]

/-- A step fails or not under the types that it leaves, and under all that follow these. -/
theorem failure_run_eq_none_iff
    (types : RecordedTypes) (s : Step) (given : List (String × TypeRef)) :
    (s.run types).failure = none ↔ s.Passes ((s.run types).types.recordAll given) := by
  cases s with
  | write fact => simp [run, Run.wrote, Passes]
  | mention type =>
      cases h : type.isResolved with
      | false => simp [run, Run.failed, Passes, h]
      | true => simp [run, Run.wrote, Passes, h]
  | declare var type method =>
      have hget : ((types.record var type).recordAll given).get? var =
          some (types.resolve var type) := by
        apply RecordedTypes.get?_recordAll_of_eq_some
        simp [RecordedTypes.get?_record]
      cases h : (types.resolve var type).isResolved with
      | false => simp [run, Run.failed, Passes, h, hget]
      | true => simp [run, Run.wrote, Passes, h, hget]
  | draw basename => simp [run, Passes]
  | refuse error => simp [run, Run.failed, Passes]

end Step

namespace Task

@[simp] theorem rows_run (types : RecordedTypes) (t : Task) :
    (t.run types).rows = (t.step.run types).rows := rfl

@[simp] theorem types_run (types : RecordedTypes) (t : Task) :
    (t.run types).types = (t.step.run types).types := rfl

@[simp] theorem failure_run_eq_none_iff (types : RecordedTypes) (t : Task) :
    (t.run types).failure = none ↔ (t.step.run types).failure = none := by
  simp [run]

/-- The units of a step do not hide the cause for which it fails. -/
theorem rootCause_of_failure_run
    {types : RecordedTypes} {t : Task} {e : EncodeError}
    (h : (t.step.run types).failure = some e) :
    ∃ outer, (t.run types).failure = some outer ∧ outer.rootCause = e.rootCause := by
  refine ⟨t.units.foldl (fun e unit => e.within unit) e, ?_, ?_⟩
  · simp [run, h]
  · exact EncodeError.rootCause_foldl_within t.units e

end Task

/-! ## Lists of steps -/

namespace Step

/-- The variables that some steps register, in order, with the types that are given for them. -/
def registrations (list : List Step) : List (String × TypeRef) :=
  list.filterMap registered?

@[simp] theorem registrations_nil : registrations [] = [] := rfl

theorem registrations_cons (s : Step) (list : List Step) :
    registrations (s :: list) = s.registered?.toList ++ registrations list := by
  cases h : s.registered? <;> simp [registrations, h]

@[simp] theorem registrations_declare
    (var : String) (type : TypeRef) (method : String) (list : List Step) :
    registrations (declare var type method :: list) = (var, type) :: registrations list := rfl

@[simp] theorem registrations_write (f : Fact) (list : List Step) :
    registrations (write f :: list) = registrations list := rfl

@[simp] theorem registrations_mention (type : TypeRef) (list : List Step) :
    registrations (mention type :: list) = registrations list := rfl

@[simp] theorem registrations_draw (basename : String) (list : List Step) :
    registrations (draw basename :: list) = registrations list := rfl

@[simp] theorem registrations_append (first second : List Step) :
    registrations (first ++ second) = registrations first ++ registrations second :=
  List.filterMap_append

@[simp] theorem registrations_flatMap {α : Type} (items : List α) (steps : α → List Step) :
    registrations (items.flatMap steps) = items.flatMap fun a => registrations (steps a) :=
  List.filterMap_flatMap

theorem recordAll_registrations_cons
    (types : RecordedTypes) (s : Step) (list : List Step) :
    types.recordAll (registrations (s :: list)) =
      (s.run types).types.recordAll (registrations list) := by
  rw [registrations_cons, RecordedTypes.recordAll_append, types_run]

end Step

/-! ## Whole plans -/

namespace Plan

/-- The steps of a plan, without the units they belong to. -/
def steps (p : Plan) : List Step :=
  p.map Task.step

@[simp] theorem steps_nil : steps [] = [] := rfl

@[simp] theorem steps_cons (t : Task) (p : Plan) : steps (t :: p) = t.step :: steps p := rfl

@[simp] theorem steps_append (p q : Plan) : steps (p ++ q) = steps p ++ steps q :=
  List.map_append

@[simp] theorem steps_flatMap {α : Type} (items : List α) (plan : α → Plan) :
    steps (items.flatMap plan) = items.flatMap fun a => steps (plan a) :=
  List.map_flatMap

@[simp] theorem steps_ofSteps (list : List Step) : (ofSteps list).steps = list := by
  simp [steps, ofSteps, Function.comp_def]

@[simp] theorem steps_within (unit : String) (p : Plan) : (p.within unit).steps = p.steps := by
  simp [steps, within, Function.comp_def]

theorem run_cons_of_failure
    {types : RecordedTypes} {t : Task} {rest : Plan} {e : EncodeError}
    (h : (t.run types).failure = some e) :
    Plan.run types (t :: rest) = t.run types := by
  simp [Plan.run, Run.andThen, h]

theorem run_cons_of_success
    {types : RecordedTypes} {t : Task} {rest : Plan}
    (h : (t.run types).failure = none) :
    Plan.run types (t :: rest) =
      ⟨(t.run types).rows ++ (Plan.run (t.run types).types rest).rows,
        (t.run types).drawn ++ (Plan.run (t.run types).types rest).drawn,
        (Plan.run (t.run types).types rest).types,
        (Plan.run (t.run types).types rest).failure⟩ := by
  simp [Plan.run, Run.andThen, h]

/-- Induction along a run: it has ended, it stops at a step that fails, or it goes on after a step
with the types that this step leaves. -/
theorem run_induction
    {motive : RecordedTypes → Plan → Prop}
    (ended : ∀ types, motive types [])
    (stops : ∀ types t (rest : Plan) e, (t.run types).failure = some e → motive types (t :: rest))
    (goesOn : ∀ types t (rest : Plan), (t.run types).failure = none →
      motive (t.run types).types rest → motive types (t :: rest))
    (types : RecordedTypes) (p : Plan) :
    motive types p := by
  induction p generalizing types with
  | nil => exact ended types
  | cons t rest ih =>
      cases h : (t.run types).failure with
      | some e => exact stops types t rest e h
      | none => exact goesOn types t rest h (ih _)

/-- A plan runs to its end exactly if each of its steps passes under what is recorded in the
end. -/
theorem failure_run_eq_none_iff (types : RecordedTypes) (p : Plan) :
    (Plan.run types p).failure = none ↔
      ∀ s ∈ p.steps, s.Passes (types.recordAll (Step.registrations p.steps)) := by
  induction types, p using run_induction with
  | ended types => simp [Plan.run, Run.wrote]
  | stops types t rest e h =>
      have hfails : ¬ t.step.Passes
          (types.recordAll (Step.registrations (t.step :: rest.steps))) := by
        rw [Step.recordAll_registrations_cons, ← Step.failure_run_eq_none_iff,
          ← Task.failure_run_eq_none_iff, h]
        simp
      simp [run_cons_of_failure h, h, hfails]
  | goesOn types t rest h ih =>
      have hpasses : t.step.Passes
          (types.recordAll (Step.registrations (t.step :: rest.steps))) := by
        rw [Step.recordAll_registrations_cons, ← Step.failure_run_eq_none_iff,
          ← Task.failure_run_eq_none_iff, h]
      rw [run_cons_of_success h, steps_cons, List.forall_mem_cons]
      rw [Step.recordAll_registrations_cons] at hpasses ⊢
      rw [and_iff_right hpasses]
      exact ih

/-- The steps that a run of a plan takes, the failing one included. -/
def taken (types : RecordedTypes) : Plan → List Step
  | [] => []
  | t :: rest =>
    t.step :: if (t.run types).failure = none then taken (t.run types).types rest else []

theorem taken_cons_of_failure
    {types : RecordedTypes} {t : Task} {rest : Plan} {e : EncodeError}
    (h : (t.run types).failure = some e) :
    taken types (t :: rest) = [t.step] := by
  simp [taken, h]

theorem taken_cons_of_success
    {types : RecordedTypes} {t : Task} {rest : Plan}
    (h : (t.run types).failure = none) :
    taken types (t :: rest) = t.step :: taken (t.run types).types rest := by
  simp [taken, h]

/-- A run that does not fail takes every step. -/
theorem taken_eq_steps
    {types : RecordedTypes} {p : Plan} (h : (Plan.run types p).failure = none) :
    taken types p = p.steps := by
  induction types, p using run_induction with
  | ended types => rfl
  | stops types t rest e hfails => simp [run_cons_of_failure hfails, hfails] at h
  | goesOn types t rest hpasses ih =>
      rw [run_cons_of_success hpasses] at h
      rw [taken_cons_of_success hpasses, ih h, steps_cons]

/-- The steps that a run takes determine the types that it records. -/
theorem types_run (types : RecordedTypes) (p : Plan) :
    (Plan.run types p).types = types.recordAll (Step.registrations (taken types p)) := by
  induction types, p using run_induction with
  | ended types => rfl
  | stops types t rest e h =>
      rw [run_cons_of_failure h, taken_cons_of_failure h, Step.recordAll_registrations_cons]
      rfl
  | goesOn types t rest h ih =>
      rw [run_cons_of_success h, taken_cons_of_success h, Step.recordAll_registrations_cons]
      exact ih

/-- A run that does not fail records the types that its steps register. -/
theorem types_run_of_success
    {types : RecordedTypes} {p : Plan} (h : (Plan.run types p).failure = none) :
    (Plan.run types p).types = types.recordAll (Step.registrations p.steps) := by
  rw [types_run, taken_eq_steps h]

/-- Each step of a run that does not fail passes under the types that the run leaves. -/
theorem passes_of_success
    {types : RecordedTypes} {p : Plan} (h : (Plan.run types p).failure = none) :
    ∀ s ∈ p.steps, s.Passes (Plan.run types p).types := by
  rw [types_run_of_success h]
  exact (failure_run_eq_none_iff types p).mp h

/-- A row that is not about types is written exactly if the run takes the step that writes it. -/
theorem mem_rows_run_iff
    {types : RecordedTypes} {p : Plan} {f : Fact}
    (hf : f.relation.isAboutTypes = false) :
    f ∈ (Plan.run types p).rows ↔ Step.write f ∈ taken types p := by
  induction types, p using run_induction with
  | ended types => simp [Plan.run, Run.wrote, taken]
  | stops types t rest e h =>
      rw [run_cons_of_failure h, taken_cons_of_failure h, Task.rows_run,
        Step.mem_rows_run_iff hf, List.mem_singleton, eq_comm]
  | goesOn types t rest h ih =>
      rw [run_cons_of_success h, taken_cons_of_success h, List.mem_append, List.mem_cons,
        Task.rows_run, Step.mem_rows_run_iff hf, ih, eq_comm]

/-- What every step keeps, a run keeps: an invariant of the rows written so far and the types
recorded so far. -/
theorem run_invariant
    (invariant : List Fact → RecordedTypes → Prop) {p : Plan}
    (hstep : ∀ s ∈ p.steps, ∀ before types, invariant before types →
      invariant (before ++ (s.run types).rows) (s.run types).types)
    (before : List Fact) (types : RecordedTypes) (h : invariant before types) :
    invariant (before ++ (Plan.run types p).rows) (Plan.run types p).types := by
  induction types, p using run_induction generalizing before with
  | ended types => simpa [Plan.run, Run.wrote] using h
  | stops types t rest e hfails =>
      rw [run_cons_of_failure hfails]
      exact hstep t.step (by simp) before types h
  | goesOn types t rest hpasses ih =>
      rw [run_cons_of_success hpasses, ← List.append_assoc]
      apply ih
      · intro s hs
        exact hstep s (List.mem_cons_of_mem _ hs)
      · exact hstep t.step (by simp) before types h

end Plan

/-! ## Runs that do not fail -/

/-- The rows that a step writes if `final` is what is recorded in the end. -/
def Step.rowsUnder (final : RecordedTypes) : Step → List Fact
  | write f => [f]
  | mention type => type.arrayRows
  | declare var type method => variableRows var (final.resolve var type) method
  | draw _ => []
  | refuse _ => []

/-- A step that does not fail writes the same rows under the types that it leaves, and under all
that follow these. -/
theorem Step.rows_run_of_success
    {types : RecordedTypes} {s : Step} (h : (s.run types).failure = none)
    (given : List (String × TypeRef)) :
    (s.run types).rows = s.rowsUnder ((s.run types).types.recordAll given) := by
  cases s with
  | write f => rfl
  | mention type =>
      cases hresolved : type.isResolved with
      | false => simp [run, hresolved, Run.failed] at h
      | true => simp [run, hresolved, Run.wrote, rowsUnder]
  | declare var type method =>
      have hget : ((types.record var type).recordAll given).get? var =
          some (types.resolve var type) := by
        apply RecordedTypes.get?_recordAll_of_eq_some
        simp [RecordedTypes.get?_record]
      cases hresolved : (types.resolve var type).isResolved with
      | false => simp [run, hresolved, Run.failed] at h
      | true =>
          simp [run, hresolved, Run.wrote, rowsUnder, RecordedTypes.resolve_of_get?_eq_some hget]
  | draw basename => rfl
  | refuse error => rfl

/-- The types that are recorded at the end of a run determine what it has written. -/
theorem Plan.rows_run_of_success
    {types : RecordedTypes} {p : Plan} (h : (Plan.run types p).failure = none) :
    (Plan.run types p).rows = p.steps.flatMap (Step.rowsUnder (Plan.run types p).types) := by
  induction types, p using run_induction with
  | ended types => rfl
  | stops types t rest e hfails => simp [run_cons_of_failure hfails, hfails] at h
  | goesOn types t rest hpasses ih =>
      rw [run_cons_of_success hpasses] at h ⊢
      have hfirst : (t.run types).rows =
          t.step.rowsUnder (Plan.run (t.run types).types rest).types := by
        -- the rest of the run only records more types after those that the first step leaves
        rw [types_run]
        exact Step.rows_run_of_success ((Task.failure_run_eq_none_iff types t).mp hpasses) _
      rw [ih h, hfirst, steps_cons, List.flatMap_cons]

end ProgramFacts
