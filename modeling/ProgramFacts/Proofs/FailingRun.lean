import ProgramFacts.Proofs.Run

/-!
# Runs that fail

Plans are run one after another as one plan.  What comes after a step that fails is not run, so that
a run which fails is the run of any beginning of its plan that fails; and the steps, or the items,
before the first that fails have succeeded.
-/

namespace ProgramFacts

/-! ## Plans one after another -/

namespace Run

theorem andThen_assoc (first : Run) (next last : RecordedTypes → Run) :
    (first.andThen next).andThen last = first.andThen fun types => (next types).andThen last := by
  unfold andThen
  cases hfirst : first.failure with
  | some e => simp [hfirst]
  | none => cases hnext : (next first.types).failure <;> simp [hnext]

theorem failure_andThen (first : Run) (next : RecordedTypes → Run) :
    (first.andThen next).failure = first.failure.or (next first.types).failure := by
  unfold andThen
  cases h : first.failure with
  | some e => exact h
  | none => rfl

/-- A run of steps that belong to one more unit. -/
def within (unit : String) (r : Run) : Run :=
  { r with failure := r.failure.map fun e => e.within unit }

theorem within_andThen (unit : String) (first : Run) (next : RecordedTypes → Run) :
    (first.andThen next).within unit =
      (first.within unit).andThen fun types => (next types).within unit := by
  unfold andThen within
  cases h : first.failure <;> simp [h]

end Run

theorem Task.run_within (types : RecordedTypes) (t : Task) (unit : String) :
    Task.run types { t with units := t.units ++ [unit] } = (t.run types).within unit := by
  simp [Task.run, Run.within, List.foldl_append, Function.comp_def]

namespace Plan

theorem run_append (types : RecordedTypes) (p q : Plan) :
    Plan.run types (p ++ q) = (Plan.run types p).andThen fun types => Plan.run types q := by
  induction p generalizing types with
  | nil => simp [Plan.run, Run.andThen, Run.wrote]
  | cons t p ih =>
      simp only [List.cons_append, Plan.run, ih]
      exact (Run.andThen_assoc _ _ _).symm

theorem failure_run_append (types : RecordedTypes) (p q : Plan) :
    (Plan.run types (p ++ q)).failure =
      (Plan.run types p).failure.or (Plan.run (Plan.run types p).types q).failure := by
  rw [run_append, Run.failure_andThen]

/-- What comes after a step that fails is not run. -/
theorem run_append_of_failure
    {types : RecordedTypes} {p : Plan} {e : EncodeError}
    (h : (Plan.run types p).failure = some e) (q : Plan) :
    Plan.run types (p ++ q) = Plan.run types p := by
  rw [run_append, Run.andThen, h]

theorem run_append_of_success
    {types : RecordedTypes} {p : Plan} (h : (Plan.run types p).failure = none) (q : Plan) :
    Plan.run types (p ++ q) =
      ⟨(Plan.run types p).rows ++ (Plan.run (Plan.run types p).types q).rows,
        (Plan.run types p).drawn ++ (Plan.run (Plan.run types p).types q).drawn,
        (Plan.run (Plan.run types p).types q).types,
        (Plan.run (Plan.run types p).types q).failure⟩ := by
  rw [run_append, Run.andThen, h]

theorem run_within (types : RecordedTypes) (unit : String) (p : Plan) :
    Plan.run types (p.within unit) = (Plan.run types p).within unit := by
  induction p generalizing types with
  | nil => rfl
  | cons t p ih =>
      have hcons : Plan.run types (Plan.within unit (t :: p)) =
          (Task.run types { t with units := t.units ++ [unit] }).andThen
            fun types => Plan.run types (Plan.within unit p) := rfl
      simp only [hcons, Task.run_within, ih, Plan.run, Run.within_andThen]

/-- A run that fails in the beginning of a plan is the run of that beginning. -/
theorem run_of_isPrefix
    {types : RecordedTypes} {p q : Plan} (hbegin : p <+: q) {e : EncodeError}
    (h : (Plan.run types p).failure = some e) :
    Plan.run types q = Plan.run types p := by
  obtain ⟨rest, rfl⟩ := hbegin
  exact run_append_of_failure h rest

theorem within_isPrefix (unit : String) {p q : Plan} (h : p <+: q) :
    within unit p <+: within unit q :=
  h.map _

/-- If the plans of some items are run one after another and one of them fails, then those before it
have succeeded. -/
theorem exists_failing_item
    {α : Type} {types : RecordedTypes} {p : Plan} {items : List α} {plan : α → Plan}
    {e : EncodeError} (hp : (Plan.run types p).failure = none)
    (h : (Plan.run types (p ++ items.flatMap plan)).failure = some e) :
    ∃ before a after, items = before ++ a :: after ∧
      (Plan.run types (p ++ before.flatMap plan)).failure = none ∧
      (Plan.run (Plan.run types (p ++ before.flatMap plan)).types (plan a)).failure = some e := by
  induction items generalizing p with
  | nil => simp [hp] at h
  | cons a items ih =>
      rw [List.flatMap_cons, ← List.append_assoc] at h
      cases ha : (Plan.run types (p ++ plan a)).failure with
      | some e' =>
          rw [run_append_of_failure ha, run_append_of_success hp] at h
          exact ⟨[], a, items, rfl, by simpa using hp, by simpa using h⟩
      | none =>
          obtain ⟨before, b, after, rfl, hbefore, hb⟩ := ih ha h
          refine ⟨a :: before, b, after, rfl, ?_, ?_⟩
          · rw [List.flatMap_cons, ← List.append_assoc, hbefore]
          · rw [List.flatMap_cons, ← List.append_assoc, hb]

end Plan

/-! ## Causes of failures -/

theorem Step.eq_refuse_of_failure_run
    {types : RecordedTypes} {s : Step} {e : EncodeError} (h : (s.run types).failure = some e) :
    (∃ typeName, e = .invalidTypeKind typeName) ∨ s = .refuse e := by
  cases s with
  | write f => cases h
  | mention type =>
      simp only [run] at h
      split at h <;> cases h
      exact Or.inl ⟨_, rfl⟩
  | declare var type method =>
      simp only [run] at h
      split at h <;> cases h
      exact Or.inl ⟨_, rfl⟩
  | draw basename => cases h
  | refuse error =>
      cases h
      exact Or.inr rfl

/-- A step that fails writes nothing. -/
theorem Step.rows_run_of_failure
    {types : RecordedTypes} {s : Step} {e : EncodeError} (h : (s.run types).failure = some e) :
    (s.run types).rows = [] := by
  cases s with
  | write f => cases h
  | mention type =>
      cases hresolved : type.isResolved with
      | false => simp [run, hresolved, Run.failed]
      | true => simp [run, hresolved, Run.wrote] at h
  | declare var type method =>
      cases hresolved : (types.resolve var type).isResolved with
      | false => simp [run, hresolved, Run.failed]
      | true => simp [run, hresolved, Run.wrote] at h
  | draw basename => cases h
  | refuse error => rfl

/-- The units of a step only wrap the error for which the step fails. -/
theorem Task.exists_cause_of_failure_run
    {types : RecordedTypes} {t : Task} {e : EncodeError} (h : (t.run types).failure = some e) :
    ∃ cause, (t.step.run types).failure = some cause ∧ cause.rootCause = e.rootCause := by
  cases hcause : (t.step.run types).failure with
  | none =>
      rw [(Task.failure_run_eq_none_iff types t).mpr hcause] at h
      cases h
  | some cause =>
      obtain ⟨outer, houter, hroot⟩ := Task.rootCause_of_failure_run hcause
      rw [h] at houter
      cases houter
      exact ⟨cause, rfl, hroot.symm⟩

theorem Task.rows_run_of_failure
    {types : RecordedTypes} {t : Task} {e : EncodeError} (h : (t.run types).failure = some e) :
    (t.run types).rows = [] := by
  obtain ⟨cause, hcause, -⟩ := exists_cause_of_failure_run h
  rw [rows_run]
  exact Step.rows_run_of_failure hcause

namespace Plan

/-- If a run fails, one of its steps fails after those before it have succeeded, and only these have
written rows. -/
theorem exists_failing_task
    {types : RecordedTypes} {p : Plan} {e : EncodeError}
    (h : (Plan.run types p).failure = some e) :
    ∃ (before : Plan) (t : Task) (after : Plan), p = before ++ t :: after ∧
      (Plan.run types before).failure = none ∧
      (t.run (Plan.run types before).types).failure = some e ∧
      (Plan.run types p).rows = (Plan.run types before).rows := by
  have hempty : (Plan.run types []).failure = none := rfl
  have hitems : ∀ q : Plan, [] ++ q.flatMap (fun t => [t]) = q := List.flatMap_singleton'
  have hall : (Plan.run types ([] ++ p.flatMap fun t => [t])).failure = some e := by
    rw [hitems]
    exact h
  obtain ⟨before, t, after, rfl, hbefore, hlast⟩ := exists_failing_item hempty hall
  rw [hitems] at hbefore hlast
  have hfails : (t.run (Plan.run types before).types).failure = some e := by
    rw [Plan.run, Run.failure_andThen] at hlast
    simpa [Plan.run, Run.wrote] using hlast
  refine ⟨before, t, after, rfl, hbefore, hfails, ?_⟩
  rw [run_append_of_success hbefore, run_cons_of_failure hfails, Task.rows_run_of_failure hfails,
    List.append_nil]

/-- The error of a plan whose steps belong to no unit is that of the step that failed. -/
theorem exists_failing_step
    {types : RecordedTypes} {p : Plan} {e : EncodeError} (hunits : ∀ t ∈ p, t.units = [])
    (h : (Plan.run types p).failure = some e) :
    ∃ s ∈ p.steps, ∃ types', (s.run types').failure = some e := by
  obtain ⟨before, t, after, rfl, -, hfails, -⟩ := exists_failing_task h
  refine ⟨t.step, by simp, (Plan.run types before).types, ?_⟩
  simpa [Task.run, hunits t (by simp)] using hfails

end Plan

end ProgramFacts
