import ProgramFacts.Encoder
import ProgramFacts.Proofs.FactStore
import ProgramFacts.Proofs.Run

/-!
# Encoding again

A run depends on what was recorded before only through the types of the variables that it declares.
Whoever starts with all the types that a run leaves behind therefore repeats that run, also if it
failed, and records nothing new.  Encoding a program a second time gives the same result and writes
the same rows once more, so that no query shows a difference.
-/

namespace ProgramFacts

/-! ## More recorded types -/

namespace RecordedTypes

/-- Whether `final` still has every type that `types` has recorded. -/
def Extends (final types : RecordedTypes) : Prop :=
  ∀ var type, types.get? var = some type → final.get? var = some type

theorem Extends.refl (types : RecordedTypes) : types.Extends types :=
  fun _ _ h => h

theorem extends_recordAll
    (types : RecordedTypes) (given : List (String × TypeRef)) :
    (types.recordAll given).Extends types :=
  fun _ _ h => get?_recordAll_of_eq_some h given

theorem record_of_get?_eq_some
    {types : RecordedTypes} {var : String} {recorded : TypeRef}
    (h : types.get? var = some recorded) (type : TypeRef) :
    types.record var type = types := by
  simp [record, h]

end RecordedTypes

/-! ## Runs that are repeated -/

/-- A step is repeated from any types that still have those that it left. -/
theorem Step.run_of_extends
    {types final : RecordedTypes} {s : Step} (h : final.Extends (s.run types).types) :
    s.run final = { s.run types with types := final } := by
  cases s with
  | declare var type method =>
      have hleft : ((declare var type method).run types).types.get? var =
          some (types.resolve var type) := by
        rw [types_run]
        simp [registered?, RecordedTypes.get?_record]
      have hfinal := h _ _ hleft
      simp only [run, RecordedTypes.resolve_of_get?_eq_some hfinal,
        RecordedTypes.record_of_get?_eq_some hfinal]
      split <;> rfl
  | mention type =>
      simp only [run]
      split <;> rfl
  | _ => rfl

theorem Task.run_of_extends
    {types final : RecordedTypes} {t : Task} (h : final.Extends (t.run types).types) :
    t.run final = { t.run types with types := final } := by
  rw [Task.run, Step.run_of_extends h]
  rfl

/-- A plan is repeated, up to the step at which it failed, from any types that still have those that
its run left. -/
theorem Plan.run_of_extends
    {types final : RecordedTypes} {p : Plan} (h : final.Extends (Plan.run types p).types) :
    Plan.run final p = { Plan.run types p with types := final } := by
  induction types, p using run_induction with
  | ended types => rfl
  | stops types t rest e hfails =>
      rw [run_cons_of_failure hfails] at h ⊢
      have hagain := Task.run_of_extends h
      rw [run_cons_of_failure (by rw [hagain]; exact hfails), hagain]
  | goesOn types t rest hpasses ih =>
      rw [run_cons_of_success hpasses] at h ⊢
      have hfirst : final.Extends (t.run types).types := by
        intro var type hget
        apply h
        rw [types_run]
        exact RecordedTypes.extends_recordAll _ _ var type hget
      have hagain := Task.run_of_extends hfirst
      rw [run_cons_of_success (by rw [hagain]; exact hpasses), hagain, ih h]

/-- A run that starts with the types it has itself recorded is the same run once more. -/
theorem Plan.run_again (types : RecordedTypes) (p : Plan) :
    Plan.run (Plan.run types p).types p = Plan.run types p :=
  run_of_extends (RecordedTypes.Extends.refl _)

/-! ## Stores and encoders -/

theorem FactStore.journal_addAll (s : FactStore) (fs : List Fact) :
    (s.addAll fs).journal = s.journal ++ if s.journaled then fs else [] := by
  cases h : s.journaled <;> simp [journal, h, toList_accepted_addAll]

/-- Facts that were accepted before change no query. -/
theorem FactStore.snapshot_addAll_twice (s : FactStore) (fs : List Fact) :
    ((s.addAll fs).addAll fs).snapshot = (s.addAll fs).snapshot := by
  apply snapshot_eq_of_mem_iff
  intro r row
  simp only [mem_facts_iff, toList_accepted_addAll, hasRow_append_iff, or_assoc, or_self]

namespace Encoder

variable {α : Type} (e : Encoder) (x : Encoding α)

/-- To perform an encoding a second time is the same run once more. -/
theorem run_perform_again : ((e.perform x).encoder.perform x).run = (e.perform x).run :=
  Plan.run_again e.types x.plan

theorem result_perform_again :
    ((e.perform x).encoder.perform x).result = (e.perform x).result := by
  have hfailure := congrArg Run.failure (run_perform_again e x)
  simp only [perform] at hfailure ⊢
  rw [hfailure]

theorem journal_perform :
    (e.perform x).encoder.store.journal =
      e.store.journal ++ if e.store.journaled then (e.perform x).run.rows else [] :=
  FactStore.journal_addAll _ _

/-- Whatever was encoded before, encoding a program twice gives the same result both times, with
success or with the same error.  The second time appends the same rows to the journal as the first,
and it changes neither what queries show nor the recorded types of variables. -/
theorem generate_again (e : Encoder) (p : Program) :
    let first := e.generate p
    let second := first.encoder.generate p
    second.result = first.result ∧
    (∃ rows, first.encoder.store.journal = e.store.journal ++ rows ∧
      second.encoder.store.journal = first.encoder.store.journal ++ rows) ∧
    second.encoder.store.snapshot = first.encoder.store.snapshot ∧
    second.encoder.types = first.encoder.types := by
  intro first second
  have hrun : second.run = first.run := run_perform_again e _
  have hstore : second.encoder.store = first.encoder.store.addAll first.run.rows := by
    rw [← hrun]
    rfl
  refine ⟨result_perform_again e _, ⟨if e.store.journaled then first.run.rows else [], ?_, ?_⟩,
    ?_, congrArg Run.types hrun⟩
  · exact journal_perform e _
  · have hjournaled : first.encoder.store.journaled = e.store.journaled :=
      FactStore.journaled_addAll _ _
    rw [hstore, FactStore.journal_addAll, hjournaled]
  · rw [hstore]
    exact FactStore.snapshot_addAll_twice e.store first.run.rows

end Encoder
end ProgramFacts
