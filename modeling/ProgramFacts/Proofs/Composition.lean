import ProgramFacts.Proofs.Rerun
import ProgramFacts.Proofs.SharedRows

/-!
# Programs that are encoded together

Two programs that record the same types for the variables they share can be encoded as one: the
facts are those of the one program and those of the other, and the statistics add up.  What a
program is encoded to then depends neither on the order of its classes and properties nor on the
files that they are split over.
-/

namespace ProgramFacts

/-! ## Recorded types that agree -/

namespace RecordedTypes

/-- Whether the same type is recorded for each variable that is recorded twice. -/
def Agree (types others : RecordedTypes) : Prop :=
  ∀ var type other, types.get? var = some type → others.get? var = some other → type = other

theorem agree_of_entries
    {types others : RecordedTypes}
    (h : ∀ e ∈ types.entries, ∀ g ∈ others.entries, e.1 = g.1 → e.2 = g.2) :
    types.Agree others := by
  intro var type other htype hother
  obtain ⟨before, after, hentries, -⟩ := List.lookup_eq_some_iff.mp htype
  obtain ⟨before', after', hothers, -⟩ := List.lookup_eq_some_iff.mp hother
  exact h (var, type) (by simp [hentries]) (var, other) (by simp [hothers]) rfl

/-- Types that are recorded in one place or else in another extend both, if the two agree. -/
theorem extends_of_get?_eq_or
    {types others final : RecordedTypes}
    (hfinal : ∀ var, final.get? var = (types.get? var).or (others.get? var))
    (hagree : types.Agree others) :
    final.Extends types ∧ final.Extends others := by
  constructor
  · intro var type htype
    rw [hfinal, htype, Option.some_or]
  · intro var other hother
    rw [hfinal, hother]
    cases htype : types.get? var with
    | none => rfl
    | some type => rw [hagree var type other htype hother, Option.some_or]

end RecordedTypes

/-- A step that passes writes the same rows under any types that still have those it passed
under. -/
theorem Step.rowsUnder_of_extends
    {types final : RecordedTypes} {s : Step}
    (hfinal : final.Extends types) (hs : s.Passes types) :
    s.rowsUnder final = s.rowsUnder types := by
  cases s with
  | declare var type method =>
      obtain ⟨recorded, hget, -⟩ := hs
      rw [rowsUnder, rowsUnder, RecordedTypes.resolve_of_get?_eq_some hget,
        RecordedTypes.resolve_of_get?_eq_some (hfinal var recorded hget)]
  | _ => rfl

/-! ## Statistics -/

namespace Statistics

theorem zero_add (a : Statistics) : zero.add a = a := by
  simp [add, zero]

theorem add_assoc (a b c : Statistics) : (a.add b).add c = a.add (b.add c) := by
  simp [add, Nat.add_assoc]

theorem add_left_comm (a b c : Statistics) : a.add (b.add c) = b.add (a.add c) := by
  simp [add, Nat.add_left_comm]

theorem sum_append (list others : List Statistics) :
    sum (list ++ others) = (sum list).add (sum others) := by
  induction list with
  | nil => exact (zero_add _).symm
  | cons a list ih => exact (congrArg a.add ih).trans (add_assoc a _ _).symm

theorem sum_perm {list others : List Statistics} (h : list.Perm others) :
    sum list = sum others :=
  h.foldr_eq' (fun a _ b _ c => add_left_comm b a c) zero

end Statistics

/-! ## Two programs -/

section Two

variable {settings : EncoderSettings} {journaled : Bool} {p q : Program} {sp sq : Statistics}

theorem Encoding.mem_steps_merge_iff {s : Step} :
    s ∈ (wholeProgram settings (p.merge q)).plan.steps ↔
      s ∈ (wholeProgram settings p).plan.steps ∨ s ∈ (wholeProgram settings q).plan.steps := by
  simp only [wholeProgram, Program.merge, Plan.steps_append, Plan.steps_flatMap,
    List.flatMap_append, List.mem_append]
  exact or_or_or_comm

theorem Encoding.registrations_merge :
    Step.registrations (wholeProgram settings (p.merge q)).plan.steps =
      Step.registrations (wholeProgram settings p).plan.steps ++
        Step.registrations (wholeProgram settings q).plan.steps := by
  simp [wholeProgram, Program.merge, registrations_property, flatMap_const_nil]

theorem Encoding.answer_merge :
    (wholeProgram settings (p.merge q)).answer =
      (wholeProgram settings p).answer.add (wholeProgram settings q).answer := by
  simp only [wholeProgram, Program.merge, List.map_append, Statistics.sum_append,
    List.length_append]
  simp only [Statistics.add, Statistics.zero, Statistics.mk.injEq]
  omega

theorem Program.supplied_merge :
    (p.merge q).supplied settings = p.supplied settings ++ q.supplied settings := by
  simp [supplied, methods, merge]

/-- Two programs that can be encoded apart can be encoded as one. -/
theorem result_generate_merge
    (hp : ((Encoder.fresh settings journaled).generate p).result = .ok sp)
    (hq : ((Encoder.fresh settings journaled).generate q).result = .ok sq) :
    ((Encoder.fresh settings journaled).generate (p.merge q)).result = .ok (sp.add sq) := by
  obtain ⟨hpassP, hfirstP⟩ := (Plan.failure_run_empty_eq_none_iff _).mp
    (Encoder.failure_run_of_generate_fresh hp)
  obtain ⟨hpassQ, hfirstQ⟩ := (Plan.failure_run_empty_eq_none_iff _).mp
    (Encoder.failure_run_of_generate_fresh hq)
  obtain ⟨-, rfl⟩ := (Encoder.result_perform_eq_ok_iff _ _ _).mp hp
  obtain ⟨-, rfl⟩ := (Encoder.result_perform_eq_ok_iff _ _ _).mp hq
  refine (Encoder.result_perform_eq_ok_iff _ _ _).mpr ⟨?_, Encoding.answer_merge⟩
  refine (Plan.failure_run_empty_eq_none_iff _).mpr ⟨?_, ?_⟩
  · intro s hs
    rcases Encoding.mem_steps_merge_iff.mp hs with hs | hs
    · exact hpassP s hs
    · exact hpassQ s hs
  · -- a variable has its first type from the first program, or else from the second
    intro var type hlookup
    rw [Encoding.registrations_merge, List.lookup_append, Option.or_eq_some_iff] at hlookup
    rcases hlookup with hlookup | ⟨-, hlookup⟩
    · exact hfirstP var type hlookup
    · exact hfirstQ var type hlookup

theorem get?_types_generate_merge
    (hp : ((Encoder.fresh settings journaled).generate p).result = .ok sp)
    (hq : ((Encoder.fresh settings journaled).generate q).result = .ok sq) (var : String) :
    ((Encoder.fresh settings journaled).generate (p.merge q)).encoder.types.get? var =
      (((Encoder.fresh settings journaled).generate p).encoder.types.get? var).or
        (((Encoder.fresh settings journaled).generate q).encoder.types.get? var) := by
  rw [get?_types_generate (result_generate_merge hp hq), get?_types_generate hp,
    get?_types_generate hq, Program.supplied_merge, List.lookup_append]

theorem Step.rowsUnder_of_generate
    (hp : ((Encoder.fresh settings journaled).generate p).result = .ok sp)
    {final : RecordedTypes}
    (hfinal : final.Extends ((Encoder.fresh settings journaled).generate p).encoder.types)
    {s : Step} (hs : s ∈ (Encoding.wholeProgram settings p).plan.steps) :
    s.rowsUnder final =
      s.rowsUnder ((Encoder.fresh settings journaled).generate p).encoder.types :=
  rowsUnder_of_extends hfinal
    (Plan.passes_of_success (Encoder.failure_run_of_generate_fresh hp) s hs)

/-- The facts of two programs that agree on the types of variables are those of the one and those
of the other. -/
theorem mem_facts_generate_merge_iff
    (hp : ((Encoder.fresh settings journaled).generate p).result = .ok sp)
    (hq : ((Encoder.fresh settings journaled).generate q).result = .ok sq)
    (hagree : ((Encoder.fresh settings journaled).generate p).encoder.types.Agree
      ((Encoder.fresh settings journaled).generate q).encoder.types)
    {r : Relation} {row : List String} :
    row ∈ ((Encoder.fresh settings journaled).generate (p.merge q)).encoder.store.facts r ↔
      row ∈ ((Encoder.fresh settings journaled).generate p).encoder.store.facts r ∨
        row ∈ ((Encoder.fresh settings journaled).generate q).encoder.store.facts r := by
  obtain ⟨hextendsP, hextendsQ⟩ :=
    RecordedTypes.extends_of_get?_eq_or (get?_types_generate_merge hp hq) hagree
  rw [mem_facts_generate_iff_rowsUnder (result_generate_merge hp hq),
    mem_facts_generate_iff_rowsUnder hp, mem_facts_generate_iff_rowsUnder hq]
  constructor
  · rintro ⟨s, hs, hrow⟩
    rcases Encoding.mem_steps_merge_iff.mp hs with hs | hs
    · rw [Step.rowsUnder_of_generate hp hextendsP hs] at hrow
      exact Or.inl ⟨s, hs, hrow⟩
    · rw [Step.rowsUnder_of_generate hq hextendsQ hs] at hrow
      exact Or.inr ⟨s, hs, hrow⟩
  · rintro (⟨s, hs, hrow⟩ | ⟨s, hs, hrow⟩)
    · rw [← Step.rowsUnder_of_generate hp hextendsP hs] at hrow
      exact ⟨s, Encoding.mem_steps_merge_iff.mpr (Or.inl hs), hrow⟩
    · rw [← Step.rowsUnder_of_generate hq hextendsQ hs] at hrow
      exact ⟨s, Encoding.mem_steps_merge_iff.mpr (Or.inr hs), hrow⟩

end Two

/-! ## Many programs -/

namespace Program

/-- The classes and properties of several programs, one program after another. -/
def mergeAll (files : List Program) : Program :=
  files.foldl merge empty

/-- The program with one class and nothing else. -/
def ofClass (c : ClassDecl) : Program :=
  ⟨[c], []⟩

/-- The program with one property and nothing else. -/
def ofProperty (q : Property) : Program :=
  ⟨[], [q]⟩

/-- The classes and properties of a program, each as a program of its own. -/
def pieces (p : Program) : List Program :=
  p.classes.map ofClass ++ p.properties.map ofProperty

theorem mergeAll_eq (files : List Program) :
    mergeAll files = ⟨files.flatMap classes, files.flatMap properties⟩ := by
  have hfrom : ∀ p : Program, files.foldl merge p =
      ⟨p.classes ++ files.flatMap classes, p.properties ++ files.flatMap properties⟩ := by
    induction files with
    | nil => simp
    | cons q files ih =>
        intro p
        rw [List.foldl_cons, ih]
        simp [merge]
  exact hfrom empty

theorem mergeAll_cons (p : Program) (files : List Program) :
    mergeAll (p :: files) = p.merge (mergeAll files) := by
  simp [mergeAll_eq, merge]

theorem mergeAll_pieces (p : Program) : mergeAll p.pieces = p := by
  simp [mergeAll_eq, pieces, List.flatMap_map, ofClass, ofProperty, Encoding.flatMap_const_nil]

theorem pieces_perm {p q : Program}
    (hclasses : p.classes.Perm q.classes) (hproperties : p.properties.Perm q.properties) :
    p.pieces.Perm q.pieces :=
  (hclasses.map ofClass).append (hproperties.map ofProperty)

end Program

section Many

variable {settings : EncoderSettings} {journaled : Bool} {files : List Program}

theorem result_generate_mergeAll
    (hok : ∀ p ∈ files, ∃ s, ((Encoder.fresh settings journaled).generate p).result = .ok s) :
    ((Encoder.fresh settings journaled).generate (.mergeAll files)).result =
      .ok (Statistics.sum (files.map fun p => (Encoding.wholeProgram settings p).answer)) := by
  induction files with
  | nil => rfl
  | cons p files ih =>
      obtain ⟨s, hp⟩ := hok p List.mem_cons_self
      have hfiles := ih fun q hq => hok q (List.mem_cons_of_mem p hq)
      obtain ⟨-, rfl⟩ := (Encoder.result_perform_eq_ok_iff _ _ _).mp hp
      rw [Program.mergeAll_cons]
      exact result_generate_merge hp hfiles

/-- What is recorded for several programs is recorded for one of them. -/
theorem exists_get?_of_types_generate_mergeAll
    (hok : ∀ p ∈ files, ∃ s, ((Encoder.fresh settings journaled).generate p).result = .ok s)
    {var : String} {type : TypeRef}
    (hget : ((Encoder.fresh settings journaled).generate (.mergeAll files)).encoder.types.get? var =
      some type) :
    ∃ p ∈ files,
      ((Encoder.fresh settings journaled).generate p).encoder.types.get? var = some type := by
  induction files with
  | nil => cases hget
  | cons p files ih =>
      obtain ⟨s, hp⟩ := hok p List.mem_cons_self
      have hok' : ∀ q ∈ files,
          ∃ s, ((Encoder.fresh settings journaled).generate q).result = .ok s :=
        fun q hq => hok q (List.mem_cons_of_mem p hq)
      rw [Program.mergeAll_cons, get?_types_generate_merge hp (result_generate_mergeAll hok'),
        Option.or_eq_some_iff] at hget
      rcases hget with hget | ⟨-, hget⟩
      · exact ⟨p, List.mem_cons_self, hget⟩
      · obtain ⟨q, hq, hget⟩ := ih hok' hget
        exact ⟨q, List.mem_cons_of_mem p hq, hget⟩

theorem mem_facts_generate_mergeAll_iff
    (hok : ∀ p ∈ files, ∃ s, ((Encoder.fresh settings journaled).generate p).result = .ok s)
    (hagree : ∀ p ∈ files, ∀ q ∈ files,
      ((Encoder.fresh settings journaled).generate p).encoder.types.Agree
        ((Encoder.fresh settings journaled).generate q).encoder.types)
    (r : Relation) (row : List String) :
    row ∈ ((Encoder.fresh settings journaled).generate (.mergeAll files)).encoder.store.facts r ↔
      ∃ p ∈ files, row ∈ ((Encoder.fresh settings journaled).generate p).encoder.store.facts r := by
  induction files with
  | nil =>
      rw [mem_facts_generate_iff_rowsUnder (result_generate_mergeAll hok)]
      simp [Program.mergeAll, Program.empty, Encoding.wholeProgram]
  | cons p files ih =>
      obtain ⟨s, hp⟩ := hok p List.mem_cons_self
      have hok' : ∀ q ∈ files,
          ∃ s, ((Encoder.fresh settings journaled).generate q).result = .ok s :=
        fun q hq => hok q (List.mem_cons_of_mem p hq)
      have hrest := ih hok' fun q hq q' hq' =>
        hagree q (List.mem_cons_of_mem p hq) q' (List.mem_cons_of_mem p hq')
      have hfirst : ((Encoder.fresh settings journaled).generate p).encoder.types.Agree
          ((Encoder.fresh settings journaled).generate (.mergeAll files)).encoder.types := by
        -- a type that is recorded for the other programs is recorded for one of them
        intro var type other htype hother
        obtain ⟨q, hq, hget⟩ := exists_get?_of_types_generate_mergeAll hok' hother
        exact hagree p List.mem_cons_self q (List.mem_cons_of_mem p hq) var type other htype hget
      rw [Program.mergeAll_cons,
        mem_facts_generate_merge_iff hp (result_generate_mergeAll hok') hfirst, hrest]
      simp

/-! ## Pieces of a program -/

theorem result_generate_ofProperty (q : Property) :
    ∃ s, ((Encoder.fresh settings journaled).generate (.ofProperty q)).result = .ok s := by
  have hsteps : (Encoding.wholeProgram settings (.ofProperty q)).plan.steps =
      (Encoding.property settings q).plan.steps := by
    simp [Encoding.wholeProgram, Program.ofProperty]
  have hsuccess :
      (Plan.run .empty (Encoding.wholeProgram settings (.ofProperty q)).plan).failure = none := by
    rw [Plan.failure_run_empty_eq_none_iff, hsteps, Encoding.registrations_property]
    exact ⟨Encoding.canPass_property settings q, fun _ _ h => by cases h⟩
  exact ⟨_, (Encoder.result_perform_eq_ok_iff _ _ _).mpr ⟨hsuccess, rfl⟩⟩

theorem get?_types_generate_ofProperty (q : Property) (var : String) :
    ((Encoder.fresh settings journaled).generate (.ofProperty q)).encoder.types.get? var =
      none := by
  obtain ⟨s, h⟩ := result_generate_ofProperty q
  rw [get?_types_generate h]
  rfl

variable {p : Program}

theorem result_generate_of_mem_pieces
    (hok : ∀ c ∈ p.classes,
      ∃ s, ((Encoder.fresh settings journaled).generate (.ofClass c)).result = .ok s) :
    ∀ a ∈ p.pieces, ∃ s, ((Encoder.fresh settings journaled).generate a).result = .ok s := by
  intro a ha
  rcases List.mem_append.mp ha with ha | ha
  · obtain ⟨c, hc, rfl⟩ := List.mem_map.mp ha
    exact hok c hc
  · obtain ⟨q, -, rfl⟩ := List.mem_map.mp ha
    exact result_generate_ofProperty q

theorem agree_of_mem_pieces
    (hagree : ∀ c ∈ p.classes, ∀ d ∈ p.classes,
      ((Encoder.fresh settings journaled).generate (.ofClass c)).encoder.types.Agree
        ((Encoder.fresh settings journaled).generate (.ofClass d)).encoder.types) :
    ∀ a ∈ p.pieces, ∀ b ∈ p.pieces,
      ((Encoder.fresh settings journaled).generate a).encoder.types.Agree
        ((Encoder.fresh settings journaled).generate b).encoder.types := by
  intro a ha b hb var type other htype hother
  -- properties record no types, so both pieces are classes
  rcases List.mem_append.mp ha with ha | ha
  · obtain ⟨c, hc, rfl⟩ := List.mem_map.mp ha
    rcases List.mem_append.mp hb with hb | hb
    · obtain ⟨d, hd, rfl⟩ := List.mem_map.mp hb
      exact hagree c hc d hd var type other htype hother
    · obtain ⟨q, -, rfl⟩ := List.mem_map.mp hb
      rw [get?_types_generate_ofProperty] at hother
      cases hother
  · obtain ⟨q, -, rfl⟩ := List.mem_map.mp ha
    rw [get?_types_generate_ofProperty] at htype
    cases htype

end Many

/-! ## Main result -/

/-- Two programs that are encoded with success and record the same types for the variables they
share can be encoded as one: the statistics add up, and the facts are those of the one and those of
the other.  If this holds between the classes of a program, then its statistics and its snapshot
stay the same when its classes and properties are put in any other order, in one file or split over
several. -/
theorem generate_merge_and_rearrange (settings : EncoderSettings) (journaled : Bool) :
    let encoded := (Encoder.fresh settings journaled).generate
    (∀ (p q : Program) (sp sq : Statistics),
      (encoded p).result = .ok sp → (encoded q).result = .ok sq →
      (encoded p).encoder.types.Agree (encoded q).encoder.types →
        (encoded (p.merge q)).result = .ok (sp.add sq) ∧
        ∀ r row, row ∈ (encoded (p.merge q)).encoder.store.facts r ↔
          row ∈ (encoded p).encoder.store.facts r ∨ row ∈ (encoded q).encoder.store.facts r) ∧
    ∀ p : Program,
      (∀ c ∈ p.classes, ∃ s, (encoded (.ofClass c)).result = .ok s) →
      (∀ c ∈ p.classes, ∀ d ∈ p.classes,
        (encoded (.ofClass c)).encoder.types.Agree (encoded (.ofClass d)).encoder.types) →
        ∀ files : List Program,
          (files.flatMap Program.classes).Perm p.classes →
          (files.flatMap Program.properties).Perm p.properties →
            ∃ s, (encoded p).result = .ok s ∧ (encoded (.mergeAll files)).result = .ok s ∧
              (encoded (.mergeAll files)).encoder.store.snapshot =
                (encoded p).encoder.store.snapshot := by
  intro encoded
  constructor
  · intro p q sp sq hp hq hagree
    exact ⟨result_generate_merge hp hq, fun r row => mem_facts_generate_merge_iff hp hq hagree⟩
  · intro p hok hagree files hclasses hproperties
    have hpieces : (Program.mergeAll files).pieces.Perm p.pieces := by
      rw [Program.mergeAll_eq]
      exact Program.pieces_perm hclasses hproperties
    have hok := result_generate_of_mem_pieces hok
    have hagree := agree_of_mem_pieces hagree
    have hok' : ∀ a ∈ (Program.mergeAll files).pieces, ∃ s, (encoded a).result = .ok s :=
      fun a ha => hok a (hpieces.mem_iff.mp ha)
    have hagree' : ∀ a ∈ (Program.mergeAll files).pieces, ∀ b ∈ (Program.mergeAll files).pieces,
        (encoded a).encoder.types.Agree (encoded b).encoder.types :=
      fun a ha b hb => hagree a (hpieces.mem_iff.mp ha) b (hpieces.mem_iff.mp hb)
    have hresult := result_generate_mergeAll hok
    have hresult' := result_generate_mergeAll hok'
    rw [Program.mergeAll_pieces] at hresult hresult'
    refine ⟨_, hresult, ?_, ?_⟩
    · rw [hresult', Statistics.sum_perm (hpieces.map _)]
    · apply FactStore.snapshot_eq_of_mem_iff
      intro r row
      have hrows := mem_facts_generate_mergeAll_iff hok hagree r row
      have hrows' := mem_facts_generate_mergeAll_iff hok' hagree' r row
      rw [Program.mergeAll_pieces] at hrows hrows'
      rw [hrows, hrows']
      simp only [hpieces.mem_iff]

def sharedMethod (body : List Instruction) : MethodDecl where
  declaringClass := "A"
  name := "m"
  params := []
  returnType := .primitive .void
  modifiers := []
  declaredExceptions := []
  body := body

/-- A program that assigns a number to a variable of a method, with a property. -/
def countingProgram : Program where
  classes :=
    [⟨"A", false, none, [], [], [],
      [sharedMethod [⟨0, none, .constant ⟨"x", .primitive .int⟩ (.numeric "1")⟩]], true, none⟩]
  properties := [⟨"app.properties", "limit", "1"⟩]

/-- A program that returns the same variable of the same method, after a variable of its own. -/
def returningProgram : Program where
  classes :=
    [⟨"B", false, none, [], [], [],
      [sharedMethod
        [⟨1, none, .constant ⟨"a", .array (.named "A")⟩ .null⟩,
          ⟨2, none, .returnValue ⟨"x", .primitive .int⟩⟩]], true, none⟩]
  properties := []

/-- Two programs that share the receiver and a local variable of a method. -/
theorem generate_merge_countingProgram :
    let encoded := (Encoder.fresh .standard true).generate
    (encoded countingProgram).result = .ok ⟨1, 0, 1, 1, 0, 1⟩ ∧
    (encoded returningProgram).result = .ok ⟨1, 0, 1, 2, 0, 0⟩ ∧
    (encoded countingProgram).encoder.types.Agree (encoded returningProgram).encoder.types ∧
    (encoded (countingProgram.merge returningProgram)).result = .ok ⟨2, 0, 2, 3, 0, 1⟩ ∧
    (∀ r row, row ∈ (encoded (countingProgram.merge returningProgram)).encoder.store.facts r ↔
      row ∈ (encoded countingProgram).encoder.store.facts r ∨
        row ∈ (encoded returningProgram).encoder.store.facts r) ∧
    ∃ s, (encoded (countingProgram.merge returningProgram)).result = .ok s ∧
      (encoded (.mergeAll [returningProgram, countingProgram])).result = .ok s ∧
      (encoded (.mergeAll [returningProgram, countingProgram])).encoder.store.snapshot =
        (encoded (countingProgram.merge returningProgram)).encoder.store.snapshot := by
  intro encoded
  have hcounting : (encoded countingProgram).result = .ok ⟨1, 0, 1, 1, 0, 1⟩ := by decide +kernel
  have hreturning : (encoded returningProgram).result = .ok ⟨1, 0, 1, 2, 0, 0⟩ := by
    decide +kernel
  have hagree :
      (encoded countingProgram).encoder.types.Agree (encoded returningProgram).encoder.types :=
    RecordedTypes.agree_of_entries (by decide +kernel)
  obtain ⟨htogether, hrearranged⟩ := generate_merge_and_rearrange .standard true
  obtain ⟨hresult, hfacts⟩ := htogether _ _ _ _ hcounting hreturning hagree
  refine ⟨hcounting, hreturning, hagree, hresult, hfacts, ?_⟩
  apply hrearranged
  · intro c hc
    have hc : c ∈ countingProgram.classes ++ returningProgram.classes := hc
    simp only [countingProgram, returningProgram, List.cons_append, List.nil_append,
      List.mem_cons, List.not_mem_nil, or_false] at hc
    rcases hc with rfl | rfl
    · exact ⟨⟨1, 0, 1, 1, 0, 0⟩, by decide +kernel⟩
    · exact ⟨⟨1, 0, 1, 2, 0, 0⟩, by decide +kernel⟩
  · intro c hc d hd
    apply RecordedTypes.agree_of_entries
    revert d
    revert c
    decide +kernel
  · decide
  · decide

end ProgramFacts
