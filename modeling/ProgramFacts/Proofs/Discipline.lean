import Mathlib.Data.List.Infix
import ProgramFacts.Proofs.Calls
import ProgramFacts.Proofs.FailingRun

/-!
# Disciplines of journals

A journal that is kept by a discipline is supported at every moment: each fact that it holds rests
on facts that it holds.  A plan whose steps come in an order that the discipline allows keeps such
a journal supported, also if it stops halfway, because a step that fails writes nothing.
-/

namespace ProgramFacts

/-! ## What a step leaves behind -/

namespace Step

/-- What a journal holds once a step has been taken without failure. -/
def Left (journal : List Fact) : Step → Prop
  | write f => f ∈ journal
  | declare var _ method =>
    (∃ type, HasRow journal .varType [var, type]) ∧
      HasRow journal .varDeclaringMethod [var, method]
  | _ => True

theorem Left.mono
    {journal later : List Fact} {s : Step} (h : s.Left journal) (hle : journal ⊆ later) :
    s.Left later := by
  cases s with
  | write f => exact hle h
  | declare var type method =>
      obtain ⟨⟨recorded, htype⟩, hmethod⟩ := h
      exact ⟨⟨recorded, htype.mono hle⟩, hmethod.mono hle⟩
  | _ => trivial

theorem left_run_of_success
    {types : RecordedTypes} {s : Step}
    (h : (s.run types).failure = none) (before : List Fact) :
    s.Left (before ++ (s.run types).rows) := by
  cases s with
  | write f => simp [run, Run.wrote, Left]
  | declare var type method =>
      have hresolved : (types.resolve var type).isResolved = true := by
        by_contra hno
        simp [run, hno, Run.failed] at h
      have hrows : ((declare var type method).run types).rows =
          variableRows var (types.resolve var type) method := by
        simp [run, hresolved, Run.wrote]
      rw [hrows]
      refine ⟨⟨(types.resolve var type).name, ?_⟩, ?_⟩
      · exact ⟨.of .varType [var, _], by simp [variableRows], rfl, rfl⟩
      · exact ⟨.of .varDeclaringMethod [var, method], by simp [variableRows], rfl, rfl⟩
  | _ => trivial

end Step

/-! ## Disciplines -/

/-- Which facts of a journal support a fact, and after which steps of a plan a step is ready. -/
structure Discipline where
  supports : List Fact → Fact → Prop
  ready : List Step → Step → Prop
  supports_mono : ∀ {journal later : List Fact} {f : Fact},
    supports journal f → journal ⊆ later → supports later f
  ready_mono : ∀ {known later : List Step} {s : Step},
    ready known s → known ⊆ later → ready later s
  /-- What a step that is ready writes is supported by what the steps before it have left. -/
  supports_of_ready : ∀ {journal : List Fact} {known : List Step} {s : Step},
    (∀ k ∈ known, k.Left journal) → ready known s →
      ∀ (types : RecordedTypes), ∀ f ∈ (s.run types).rows, supports journal f

namespace Discipline

variable (d : Discipline)

/-- Whether at every moment each fact of a journal is supported by the facts written so far. -/
def Supported (journal : List Fact) : Prop :=
  ∀ pre, pre <+: journal → ∀ f ∈ pre, d.supports pre f

/-- Whether each step of a list is ready after the known steps and those before it. -/
def Ordered : List Step → List Step → Prop
  | _, [] => True
  | known, s :: rest => d.ready known s ∧ Ordered (known ++ [s]) rest

variable {d}

@[simp] theorem ordered_nil (known : List Step) : d.Ordered known [] := trivial

@[simp] theorem ordered_cons (known : List Step) (s : Step) (rest : List Step) :
    d.Ordered known (s :: rest) ↔ d.ready known s ∧ d.Ordered (known ++ [s]) rest := Iff.rfl

theorem supported_nil : d.Supported [] := by
  intro pre hpre f hf
  rw [List.prefix_nil.mp hpre] at hf
  exact absurd hf List.not_mem_nil

theorem Supported.append
    {journal : List Fact} (h : d.Supported journal)
    {facts : List Fact} (hfacts : ∀ f ∈ facts, d.supports journal f) :
    d.Supported (journal ++ facts) := by
  induction facts generalizing journal with
  | nil => simpa using h
  | cons g facts ih =>
      have hsubset : journal ⊆ journal ++ [g] := List.subset_append_left journal [g]
      have hnext : d.Supported (journal ++ [g]) := by
        intro pre hpre f hf
        rcases List.prefix_concat_iff.mp hpre with rfl | hpre
        · rcases List.mem_append.mp hf with hf | hf
          · exact d.supports_mono (h journal List.prefix_rfl f hf) hsubset
          · rw [List.mem_singleton.mp hf]
            exact d.supports_mono (hfacts g List.mem_cons_self) hsubset
        · exact h pre hpre f hf
      rw [← List.singleton_append, ← List.append_assoc]
      apply ih hnext
      intro f hf
      exact d.supports_mono (hfacts f (List.mem_cons_of_mem g hf)) hsubset

theorem Ordered.mono
    {known later steps : List Step} (h : d.Ordered known steps) (hle : known ⊆ later) :
    d.Ordered later steps := by
  induction steps generalizing known later with
  | nil => trivial
  | cons s rest ih =>
      refine ⟨d.ready_mono h.1 hle, ih h.2 ?_⟩
      exact List.append_subset.mpr
        ⟨List.subset_append_of_subset_left _ hle, List.subset_append_right _ _⟩

theorem Ordered.append
    {known first second : List Step}
    (hfirst : d.Ordered known first) (hsecond : d.Ordered known second) :
    d.Ordered known (first ++ second) := by
  induction first generalizing known with
  | nil => exact hsecond
  | cons s rest ih =>
      exact ⟨hfirst.1, ih hfirst.2 (hsecond.mono (List.subset_append_left _ _))⟩

/-- What comes later may build on what comes first. -/
theorem Ordered.append_known
    {known first second : List Step}
    (hfirst : d.Ordered known first) (hsecond : d.Ordered (known ++ first) second) :
    d.Ordered known (first ++ second) := by
  induction first generalizing known with
  | nil => simpa using hsecond
  | cons s rest ih =>
      refine ⟨hfirst.1, ih hfirst.2 ?_⟩
      rw [List.append_assoc, List.singleton_append]
      exact hsecond

/-- Steps that are ready from the beginning can be taken in any order. -/
theorem Ordered.of_ready
    {known steps : List Step} (h : ∀ s ∈ steps, d.ready known s) : d.Ordered known steps := by
  induction steps generalizing known with
  | nil => trivial
  | cons s rest ih =>
      refine ⟨h s List.mem_cons_self, ih fun s' hs' => ?_⟩
      exact d.ready_mono (h s' (List.mem_cons_of_mem s hs')) (List.subset_append_left _ _)

theorem Ordered.flatMap
    {α : Type} {known : List Step} {items : List α} {steps : α → List Step}
    (h : ∀ a ∈ items, d.Ordered known (steps a)) :
    d.Ordered known (items.flatMap steps) := by
  induction items with
  | nil => trivial
  | cons a items ih =>
      rw [List.flatMap_cons]
      apply Ordered.append
      · exact h a List.mem_cons_self
      · exact ih fun b hb => h b (List.mem_cons_of_mem a hb)

/-! ## Runs and calls -/

/-- A run of a plan in a right order keeps a journal supported. -/
theorem supported_run
    (types : RecordedTypes) (p : Plan)
    {known : List Step} (hordered : d.Ordered known p.steps)
    {journal : List Fact} (hleft : ∀ k ∈ known, k.Left journal) (h : d.Supported journal) :
    d.Supported (journal ++ (Plan.run types p).rows) := by
  induction types, p using Plan.run_induction generalizing known journal with
  | ended types => simpa [Plan.run, Run.wrote] using h
  | stops types t rest e hfails =>
      rw [Plan.run_cons_of_failure hfails, Task.rows_run_of_failure hfails, List.append_nil]
      exact h
  | goesOn types t rest hpasses ih =>
      rw [Plan.run_cons_of_success hpasses, ← List.append_assoc]
      obtain ⟨hready, hrest⟩ := hordered
      apply ih hrest
      · -- what the known steps have left stays, and the step adds what it leaves
        intro k hk
        rcases List.mem_append.mp hk with hk | hk
        · exact (hleft k hk).mono (List.subset_append_left _ _)
        · rw [List.mem_singleton.mp hk]
          exact Step.left_run_of_success ((Task.failure_run_eq_none_iff types t).mp hpasses) _
      · exact h.append (d.supports_of_ready hleft hready types)

/-- A journal stays supported over any sequence of calls with plans in a right order. -/
theorem supported_calls
    {cs : List Call} {e : Encoder} (hordered : ∀ c ∈ cs, d.Ordered [] (c.plan e.settings).steps)
    (h : d.Supported e.store.accepted.toList) :
    d.Supported (e.calls cs).store.accepted.toList := by
  induction cs generalizing e with
  | nil => exact h
  | cons c cs ih =>
      apply ih
      · intro c' hc'
        exact hordered c' (List.mem_cons_of_mem c hc')
      · rw [Encoder.accepted_call]
        exact supported_run e.types _ (hordered c List.mem_cons_self)
          (fun k hk => absurd hk List.not_mem_nil) h

/-- The journal of a fresh encoder stays supported over any such sequence of calls. -/
theorem supported_journal
    {settings : EncoderSettings} {cs : List Call}
    (hordered : ∀ c ∈ cs, d.Ordered [] (c.plan settings).steps) :
    d.Supported ((Encoder.fresh settings true).calls cs).store.journal := by
  rw [FactStore.journal_of_journaled (Encoder.journaled_calls _ cs)]
  exact supported_calls hordered supported_nil

end Discipline
end ProgramFacts
