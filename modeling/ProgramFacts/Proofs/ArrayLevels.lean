import ProgramFacts.Proofs.LiteralNames
import ProgramFacts.Proofs.SharedRows

/-!
# The levels of array types

To name a type is to write the rows of its array levels, from the innermost outwards, or nothing at
all if the type under them is unresolved.  In a store that gets rows about array types in no other
way, an array type has one component type, and its name is that of the component with a pair of
brackets.
-/

namespace ProgramFacts

/-! ## Levels over a base -/

/-- The name of the type with some array levels over a base of a given name. -/
def levelName (base : String) (levels : Nat) : String :=
  base ++ String.join (List.replicate levels "[]")

/-- The rows of some array levels over a base of a given name, two for each level. -/
def levelRows (base : String) (levels : Nat) : List Fact :=
  (List.range levels).flatMap fun k =>
    [.of .arrayType [levelName base (k + 1)],
      .of .componentType [levelName base (k + 1), levelName base k]]

theorem levelName_succ (base : String) (levels : Nat) :
    levelName base (levels + 1) = levelName base levels ++ "[]" := by
  rw [← String.toList_inj]
  simp [levelName, List.replicate_succ']

theorem levelRows_succ (base : String) (levels : Nat) :
    levelRows base (levels + 1) =
      levelRows base levels ++
        [.of .arrayType [levelName base (levels + 1)],
          .of .componentType [levelName base (levels + 1), levelName base levels]] := by
  simp [levelRows, List.range_succ]

theorem length_levelRows (base : String) (levels : Nat) :
    (levelRows base levels).length = 2 * levels := by
  induction levels with
  | zero => rfl
  | succ levels ih => rw [levelRows_succ, List.length_append, ih, List.length_cons]; rfl

namespace TypeRef

theorem name_nest (levels : Nat) (base : TypeRef) :
    (nest levels base).name = levelName base.name levels := by
  induction levels with
  | zero => simp [nest, levelName]
  | succ levels ih => rw [nest, name, ih, levelName_succ]

theorem element_nest (levels : Nat) (base : TypeRef) :
    (nest levels base).element = base.element := by
  induction levels with
  | zero => rfl
  | succ levels ih => exact ih

/-- A base that is no array has no rows of its own, so all rows are those of the levels over it. -/
theorem arrayRows_nest
    {base : TypeRef} (hbase : ∀ component, base ≠ array component) (levels : Nat) :
    (nest levels base).arrayRows = levelRows base.name levels := by
  induction levels with
  | zero =>
      cases base with
      | array component => exact absurd rfl (hbase component)
      | _ => rfl
  | succ levels ih =>
      rw [nest, arrayRows, ih, levelRows_succ, name, name_nest, levelName_succ]

theorem isResolved_eq_false_iff
    {base : TypeRef} (hbase : ∀ component, base ≠ array component) :
    base.isResolved = false ↔ ∃ n, base = unresolved n := by
  cases base with
  | array component => exact absurd rfl (hbase component)
  | unresolved n => simp [isResolved]
  | _ => simp [isResolved]

end TypeRef

/-! ## Naming a type -/

namespace Encoder

theorem run_typeId_of_isResolved (e : Encoder) {t : TypeRef} (h : t.isResolved = true) :
    (e.call (.typeId t)).run = .wrote e.types t.arrayRows := by
  simp [run_call, Call.plan, Call.encoding, Encoding.map, Encoding.typeId, Encoding.ofSteps,
    Plan.ofSteps, Plan.run, Task.run, Step.run, h, Run.andThen, Run.wrote]

theorem run_typeId_of_not_isResolved (e : Encoder) {t : TypeRef} (h : t.isResolved = false) :
    (e.call (.typeId t)).run = .failed e.types t.kindError := by
  simp [run_call, Call.plan, Call.encoding, Encoding.map, Encoding.typeId, Encoding.ofSteps,
    Plan.ofSteps, Plan.run, Task.run, Step.run, h, Run.andThen, Run.failed]

/-- A type that is resolved is answered by its name, after the rows of its levels. -/
theorem call_typeId_of_isResolved (e : Encoder) {t : TypeRef} (h : t.isResolved = true) :
    (e.call (.typeId t)).result = .ok (.text t.name) ∧
      (e.call (.typeId t)).encoder = { e with store := e.store.addAll t.arrayRows } := by
  have hrun : Plan.run e.types ((Call.typeId t).encoding e.settings).plan =
      .wrote e.types t.arrayRows := run_typeId_of_isResolved e h
  rw [call, perform, hrun]
  exact ⟨rfl, rfl⟩

/-- A type that is not resolved is refused by the name of its element, and nothing changes. -/
theorem call_typeId_of_not_isResolved (e : Encoder) {t : TypeRef} (h : t.isResolved = false) :
    (e.call (.typeId t)).result = .error (.invalidTypeKind t.element.name) ∧
      (e.call (.typeId t)).encoder = e := by
  have hrun : Plan.run e.types ((Call.typeId t).encoding e.settings).plan =
      .failed e.types t.kindError := run_typeId_of_not_isResolved e h
  rw [call, perform, hrun]
  exact ⟨rfl, rfl⟩

end Encoder

/-! ## Stores with named array types only -/

/-- Whether a row is about another thing than array types, or was written when a type was named. -/
def Fact.IsNamed (f : Fact) : Prop :=
  f.relation = .arrayType ∨ f.relation = .componentType →
    ∃ (e : Encoder) (t : TypeRef), f ∈ (e.call (.typeId t)).run.rows

/-- Whether a store has received rows about array types only from the naming of types. -/
def FactStore.NamesArrays (s : FactStore) : Prop :=
  ∀ f ∈ s.accepted.toList, f.IsNamed

namespace Fact

theorem isNamed_of_mem_arrayRows
    {t : TypeRef} (h : t.isResolved = true) {f : Fact} (hf : f ∈ t.arrayRows) : f.IsNamed := by
  intro _
  refine ⟨.fresh .standard false, t, ?_⟩
  rw [Encoder.run_typeId_of_isResolved _ h]
  exact hf

theorem isNamed_of_relation
    {f : Fact} (harray : f.relation ≠ .arrayType) (hcomponent : f.relation ≠ .componentType) :
    f.IsNamed := by
  rintro (h | h)
  · exact absurd h harray
  · exact absurd h hcomponent

end Fact

/-- A step that writes no row about types by itself leaves rows about array types only as the naming
of a type does: those of a type that is mentioned or recorded, and only if it is resolved. -/
theorem Step.isNamed_of_mem_rows_run
    {s : Step} (hs : s.WritesOnly (·.isAboutTypes = false)) {types : RecordedTypes} {f : Fact}
    (hf : f ∈ (s.run types).rows) : f.IsNamed := by
  cases s with
  | write g =>
      obtain rfl : f = g := List.mem_singleton.mp hf
      apply Fact.isNamed_of_relation
      · intro h
        simp [WritesOnly, h, Relation.isAboutTypes] at hs
      · intro h
        simp [WritesOnly, h, Relation.isAboutTypes] at hs
  | mention type =>
      cases h : type.isResolved with
      | false => simp [run, h, Run.failed] at hf
      | true =>
          simp only [run, h, if_true, Run.wrote] at hf
          exact Fact.isNamed_of_mem_arrayRows h hf
  | declare var type method =>
      cases h : (types.resolve var type).isResolved with
      | false => simp [run, h, Run.failed] at hf
      | true =>
          simp only [run, h, if_true, Run.wrote] at hf
          rcases mem_variableRows.mp hf with hf | rfl | rfl
          · exact Fact.isNamed_of_mem_arrayRows h hf
          · exact Fact.isNamed_of_relation (by simp [Fact.of]) (by simp [Fact.of])
          · exact Fact.isNamed_of_relation (by simp [Fact.of]) (by simp [Fact.of])
  | draw basename => exact absurd hf List.not_mem_nil
  | refuse error => exact absurd hf List.not_mem_nil

namespace Encoder

/-- Whatever a call does, it adds rows about array types only as the naming of a type does. -/
theorem namesArrays_call {e : Encoder} (h : e.store.NamesArrays) (c : Call) :
    (e.call c).encoder.store.NamesArrays := by
  rw [FactStore.NamesArrays, accepted_call]
  refine Plan.run_invariant (fun facts _ => ∀ f ∈ facts, f.IsNamed) ?_ _ e.types h
  intro s hs before types hbefore f hf
  rcases List.mem_append.mp hf with hf | hf
  · exact hbefore f hf
  · exact Step.isNamed_of_mem_rows_run
      ((c.writesOnly_plan e.settings s hs).mono fun _ => Call.isAboutTypes_of_mem_relations) hf

theorem namesArrays_calls {e : Encoder} (h : e.store.NamesArrays) (cs : List Call) :
    (e.calls cs).store.NamesArrays :=
  calls_invariant (fun e => e.store.NamesArrays) (fun _ c h => namesArrays_call h c) h cs

/-- The naming of a type writes to the relation of components the names of its levels, each with the
name of the level below. -/
theorem row_of_mem_rows_typeId
    {e : Encoder} {t : TypeRef} {f : Fact} (hf : f ∈ (e.call (.typeId t)).run.rows)
    (hrelation : f.relation = .componentType) :
    ∃ component, f.row = [component ++ "[]", component] := by
  cases h : t.isResolved with
  | false =>
      rw [run_typeId_of_not_isResolved e h] at hf
      exact absurd hf List.not_mem_nil
  | true =>
      rw [run_typeId_of_isResolved e h] at hf
      obtain ⟨component, -, hrow⟩ :=
        hasRow_componentType_arrayRows_iff.mp ⟨f, hf, hrelation, rfl⟩
      exact ⟨component.name, hrow⟩

end Encoder

theorem FactStore.NamesArrays.exists_component
    {s : FactStore} (h : s.NamesArrays) {row : List String} (hrow : row ∈ s.facts .componentType) :
    ∃ component, row = [component ++ "[]", component] := by
  obtain ⟨f, hf, hrelation, rfl⟩ := mem_facts_iff.mp hrow
  obtain ⟨e, t, hwritten⟩ := h f hf (Or.inr hrelation)
  exact Encoder.row_of_mem_rows_typeId hwritten hrelation

theorem FactStore.NamesArrays.component_unique
    {s : FactStore} (h : s.NamesArrays) {type component other : String}
    (hcomponent : [type, component] ∈ s.facts .componentType)
    (hother : [type, other] ∈ s.facts .componentType) : component = other := by
  obtain ⟨c, hc⟩ := h.exists_component hcomponent
  obtain ⟨d, hd⟩ := h.exists_component hother
  obtain ⟨rfl, rfl⟩ : type = c ++ "[]" ∧ component = c := by simpa using hc
  obtain ⟨hbrackets, rfl⟩ : component ++ "[]" = d ++ "[]" ∧ other = d := by simpa using hd
  simpa using hbrackets

/-! ## Main result -/

/-- Whatever an encoder has encoded before, naming a type of some array levels over a base fails
exactly if the base is unresolved: then the error names the base, and the encoder is left as it was.
Otherwise the answer is the name of the type, and the rows of its levels are appended, two for each
level from the innermost outwards, and nothing else changes.  In a store that has received rows about
array types in no other way, each component row is an array type with its component, the only one of
this array type; and no sequence of calls makes an encoder's store any other. -/
theorem call_typeId_of_nest
    {base : TypeRef} (hbase : ∀ component, base ≠ .array component) (levels : Nat) (e : Encoder) :
    let t := TypeRef.nest levels base
    let named := e.call (.typeId t)
    ((∃ error, named.result = .error error) ↔ ∃ n, base = .unresolved n) ∧
    (∀ n, base = .unresolved n →
      named.result = .error (.invalidTypeKind ("?" ++ n)) ∧ named.encoder = e) ∧
    ((∀ n, base ≠ .unresolved n) →
      named.result = .ok (.text t.name) ∧ t.name = levelName base.name levels ∧
      named.encoder = { e with store := e.store.addAll (levelRows base.name levels) } ∧
      named.encoder.store.accepted.toList =
        e.store.accepted.toList ++ levelRows base.name levels ∧
      (levelRows base.name levels).length = 2 * levels) ∧
    (∀ s : FactStore, s.NamesArrays →
      (∀ row ∈ s.facts .componentType, ∃ component, row = [component ++ "[]", component]) ∧
      ∀ type component other, [type, component] ∈ s.facts .componentType →
        [type, other] ∈ s.facts .componentType → component = other) ∧
    (e.store.NamesArrays → ∀ cs, (e.calls cs).store.NamesArrays) := by
  intro t named
  have hresolved : t.isResolved = base.isResolved := TypeRef.isResolved_nest levels base
  have hrefused : ∀ n, base = .unresolved n →
      named.result = .error (.invalidTypeKind ("?" ++ n)) ∧ named.encoder = e := by
    rintro n rfl
    have hrefusal := Encoder.call_typeId_of_not_isResolved e hresolved
    rw [TypeRef.element_nest] at hrefusal
    exact hrefusal
  have hanswered : (∀ n, base ≠ .unresolved n) →
      named.result = .ok (.text t.name) ∧
        named.encoder = { e with store := e.store.addAll (levelRows base.name levels) } := by
    intro hno
    rw [← TypeRef.arrayRows_nest hbase]
    apply Encoder.call_typeId_of_isResolved
    rw [hresolved, ← Bool.not_eq_false, TypeRef.isResolved_eq_false_iff hbase]
    rintro ⟨n, hn⟩
    exact hno n hn
  refine ⟨⟨?_, ?_⟩, hrefused, ?_, ?_, ?_⟩
  · rintro ⟨error, herror⟩
    by_contra hno
    have hok := (hanswered fun n hn => hno ⟨n, hn⟩).1
    rw [herror] at hok
    cases hok
  · rintro ⟨n, hn⟩
    exact ⟨_, (hrefused n hn).1⟩
  · intro hno
    obtain ⟨hresult, hencoder⟩ := hanswered hno
    refine ⟨hresult, TypeRef.name_nest levels base, hencoder, ?_, length_levelRows _ _⟩
    rw [hencoder, FactStore.toList_accepted_addAll]
  · intro s hs
    exact ⟨fun row => hs.exists_component, fun type component other => hs.component_unique⟩
  · intro h cs
    exact Encoder.namesArrays_calls h cs

/-- An array of arrays after another one, and an array of an unresolved type. -/
theorem call_typeId_of_nest_arrays :
    let e := (Encoder.fresh .standard true).calls [.typeId (.array (.primitive .int))]
    let named := e.call (.typeId (.array (.array (.named "a.B"))))
    let refused := e.call (.typeId (.array (.unresolved "T")))
    (∀ component, TypeRef.named "a.B" ≠ .array component) ∧
    (∀ component, TypeRef.unresolved "T" ≠ .array component) ∧
    e.store.NamesArrays ∧
    named.result = .ok (.text "a.B[][]") ∧
    named.encoder.store.accepted.toList =
      e.store.accepted.toList ++
        [.of .arrayType ["a.B[]"], .of .componentType ["a.B[]", "a.B"],
          .of .arrayType ["a.B[][]"], .of .componentType ["a.B[][]", "a.B[]"]] ∧
    (∀ component, ["a.B[][]", component] ∈ named.encoder.store.facts .componentType →
      component = "a.B[]") ∧
    refused.result = .error (.invalidTypeKind "?T") ∧ refused.encoder = e := by
  intro e named refused
  have hnamed : ∀ component, TypeRef.named "a.B" ≠ .array component := by
    rintro component ⟨⟩
  have hunresolved : ∀ component, TypeRef.unresolved "T" ≠ .array component := by
    rintro component ⟨⟩
  have hfresh : (Encoder.fresh .standard true).store.NamesArrays := by
    rintro f ⟨⟩
  obtain ⟨-, -, hanswered, hcomponents, hcalls⟩ := call_typeId_of_nest hnamed 2 e
  obtain ⟨-, hrefused, -⟩ := call_typeId_of_nest hunresolved 1 e
  obtain ⟨hresult, -, -, haccepted, -⟩ := hanswered (by rintro n ⟨⟩)
  have hstore : e.store.NamesArrays :=
    (call_typeId_of_nest hnamed 2 (.fresh .standard true)).2.2.2.2 hfresh _
  have happended : named.encoder.store.accepted.toList =
      e.store.accepted.toList ++ levelRows "a.B" 2 := haccepted
  refine ⟨hnamed, hunresolved, hstore, hresult, happended, ?_, hrefused "T" rfl⟩
  intro component hcomponent
  have hlevel : ["a.B[][]", "a.B[]"] ∈ named.encoder.store.facts .componentType := by
    rw [FactStore.mem_facts_iff, happended, hasRow_append_iff]
    exact Or.inr ⟨_, List.mem_of_getLast? rfl, rfl, rfl⟩
  exact (hcomponents _ (hcalls hstore [.typeId _])).2 _ _ _ hcomponent hlevel

end ProgramFacts
