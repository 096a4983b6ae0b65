import Mathlib.Algebra.GroupWithZero.Nat
import ProgramFacts.Proofs.FactStore

/-!
# Laws of queries

Rows are offered to a store one after another, and a row that does not fit its relation is turned
away.  What the store answers afterwards depends on the set of the offers that fit, whatever their
order and however often they were made; only the journal tells them apart.
-/

namespace ProgramFacts

/-! ## Offers -/

/-- A row that is offered to a store for a relation. -/
structure Offer where
  relation : Relation
  row : List String
  deriving DecidableEq

/-- Whether a row has as many cells as its relation has columns. -/
def Offer.fits (o : Offer) : Bool :=
  o.row.length == o.relation.arity

def Fact.toOffer (f : Fact) : Offer :=
  ⟨f.relation, f.row⟩

theorem hasRow_iff_mem_map {facts : List Fact} {r : Relation} {row : List String} :
    HasRow facts r row ↔ ⟨r, row⟩ ∈ facts.map Fact.toOffer := by
  simp [HasRow, Fact.toOffer]

namespace FactStore

/-- A store after an offer; it stays as it is if the row is turned away. -/
def offer (s : FactStore) (o : Offer) : FactStore :=
  (s.addRow? o.relation o.row).getD s

/-- A store after a sequence of offers. -/
def offerAll (s : FactStore) (offers : List Offer) : FactStore :=
  offers.foldl offer s

theorem addRow?_of_fits {s : FactStore} {o : Offer} (h : o.fits = true) :
    ∃ f : Fact, f.toOffer = o ∧ s.addRow? o.relation o.row = some (s.add f) := by
  have hlength : o.row.length = o.relation.arity := by simpa [Offer.fits] using h
  exact ⟨⟨o.relation, o.row, hlength⟩, rfl, by simp [addRow?, Fact.ofRow?, hlength]⟩

theorem addRow?_of_not_fits {s : FactStore} {o : Offer} (h : o.fits = false) :
    s.addRow? o.relation o.row = none := by
  have hlength : o.row.length ≠ o.relation.arity := by simpa [Offer.fits] using h
  simp [addRow?, Fact.ofRow?, hlength]

@[simp] theorem journaled_offer (s : FactStore) (o : Offer) :
    (s.offer o).journaled = s.journaled := by
  cases h : o.fits with
  | false => rw [offer, addRow?_of_not_fits h, Option.getD_none]
  | true =>
      obtain ⟨f, -, hadd⟩ := addRow?_of_fits (s := s) h
      rw [offer, hadd]
      rfl

/-- An offer is accepted exactly if it fits. -/
theorem accepted_offer (s : FactStore) (o : Offer) :
    (s.offer o).accepted.toList.map Fact.toOffer =
      s.accepted.toList.map Fact.toOffer ++ if o.fits then [o] else [] := by
  cases h : o.fits with
  | false => rw [offer, addRow?_of_not_fits h]; simp
  | true =>
      obtain ⟨f, rfl, hadd⟩ := addRow?_of_fits (s := s) h
      rw [offer, hadd]
      simp [add]

@[simp] theorem journaled_offerAll (s : FactStore) (offers : List Offer) :
    (s.offerAll offers).journaled = s.journaled := by
  induction offers generalizing s with
  | nil => rfl
  | cons o offers ih => rw [offerAll, List.foldl_cons, ← offerAll, ih, journaled_offer]

/-- A store accepts the offers that fit, in the order in which they are made. -/
theorem accepted_offerAll (s : FactStore) (offers : List Offer) :
    (s.offerAll offers).accepted.toList.map Fact.toOffer =
      s.accepted.toList.map Fact.toOffer ++ offers.filter Offer.fits := by
  induction offers generalizing s with
  | nil => simp [offerAll]
  | cons o offers ih =>
      rw [offerAll, List.foldl_cons, ← offerAll, ih, accepted_offer, List.append_assoc,
        List.filter_cons]
      cases o.fits <;> simp

/-! ## Queries -/

/-- Whether every query is answered as by the set of some offers, and the journal, if there is one,
as by their list. -/
structure Shows (s : FactStore) (journaled : Bool) (offers : List Offer) : Prop where
  mem_facts_iff : ∀ r row, row ∈ s.facts r ↔ ⟨r, row⟩ ∈ offers
  /-- Rows are compared cell by cell, so that no row is shown twice. -/
  increasing : ∀ r, (s.facts r).Pairwise (List.Lex (· < ·))
  length_row : ∀ r, ∀ row ∈ s.facts r, row.length = r.arity
  contains_iff : ∀ r row, s.contains r row = true ↔ row ∈ s.facts r
  lookup_eq : ∀ r key, s.lookup r key = (s.facts r).filter fun row => row.head? = some key
  count_eq : ∀ r, s.count r = (s.facts r).length
  size_eq : s.size = (Relation.all.map s.count).sum
  isEmpty_iff : s.isEmpty = true ↔ offers = []
  snapshot_eq : s.snapshot =
    (Relation.all.filter fun r => offers.any fun o => o.relation = r).map fun r => (r, s.facts r)
  journal_eq : s.journal.map Fact.toOffer = if journaled then offers else []

/-- Whether two stores answer every query in the same way, apart from the journal. -/
structure SameAnswers (s t : FactStore) : Prop where
  facts_eq : s.facts = t.facts
  contains_eq : s.contains = t.contains
  lookup_eq : s.lookup = t.lookup
  count_eq : s.count = t.count
  size_eq : s.size = t.size
  isEmpty_eq : s.isEmpty = t.isEmpty
  snapshot_eq : s.snapshot = t.snapshot

theorem size_eq_sum (s : FactStore) : s.size = (Relation.all.map s.count).sum := by
  rw [size, List.length_flatMap]
  rfl

theorem contains_iff_mem_facts {s : FactStore} {r : Relation} {row : List String} :
    s.contains r row = true ↔ row ∈ s.facts r := by
  rw [contains, List.contains_iff_mem, facts, mem_sortRows]

/-- A relation has a row exactly if a row was accepted for it. -/
theorem facts_eq_nil_iff {s : FactStore} {r : Relation} :
    s.facts r = [] ↔ ∀ o ∈ s.accepted.toList.map Fact.toOffer, o.relation ≠ r := by
  rw [List.eq_nil_iff_forall_not_mem]
  constructor
  · rintro h ⟨_, row⟩ ho rfl
    exact h row (mem_facts_iff.mpr (hasRow_iff_mem_map.mpr ho))
  · intro h row hrow
    exact h _ (hasRow_iff_mem_map.mp (mem_facts_iff.mp hrow)) rfl

theorem isEmpty_iff_accepted {s : FactStore} :
    s.isEmpty = true ↔ s.accepted.toList.map Fact.toOffer = [] := by
  have hfacts : s.isEmpty = true ↔ ∀ r, s.facts r = [] := by
    rw [isEmpty, beq_iff_eq, size, List.length_eq_zero_iff, List.flatMap_eq_nil_iff]
    exact ⟨fun h r => h r (Relation.mem_all r), fun h r _ => h r⟩
  rw [hfacts, List.eq_nil_iff_forall_not_mem]
  constructor
  · intro h o ho
    exact facts_eq_nil_iff.mp (h o.relation) o ho rfl
  · intro h r
    exact facts_eq_nil_iff.mpr fun o ho => absurd ho (h o)

/-- The snapshot has the relations that have accepted a row, in the order of the schema. -/
theorem snapshot_eq_map (s : FactStore) :
    s.snapshot =
      (Relation.all.filter fun r =>
        (s.accepted.toList.map Fact.toOffer).any fun o => o.relation = r).map
          fun r => (r, s.facts r) := by
  rw [snapshot, List.filter_map]
  congr 1
  apply List.filter_congr
  intro r _
  rw [Bool.eq_iff_iff]
  simp only [Function.comp_apply, Bool.not_eq_true', ← Bool.not_eq_true, List.isEmpty_iff,
    facts_eq_nil_iff, List.any_eq_true, decide_eq_true_eq]
  push Not
  rfl

theorem shows_accepted (s : FactStore) :
    s.Shows s.journaled (s.accepted.toList.map Fact.toOffer) where
  mem_facts_iff r row := mem_facts_iff.trans hasRow_iff_mem_map
  increasing := pairwise_lex_facts s
  length_row r row := length_of_mem_facts
  contains_iff r row := contains_iff_mem_facts
  lookup_eq r key := by
    rw [lookup]
    apply List.filter_congr
    intro row _
    simp [Bool.beq_eq_decide_eq]
  count_eq r := rfl
  size_eq := size_eq_sum s
  isEmpty_iff := isEmpty_iff_accepted
  snapshot_eq := snapshot_eq_map s
  journal_eq := by cases h : s.journaled <;> simp [journal, h]

/-- Stores that have accepted the same set of offers cannot be told apart but by their journals. -/
theorem sameAnswers_of_mem_iff
    {s t : FactStore}
    (h : ∀ o, o ∈ s.accepted.toList.map Fact.toOffer ↔ o ∈ t.accepted.toList.map Fact.toOffer) :
    s.SameAnswers t := by
  have hmem : ∀ r row, row ∈ s.facts r ↔ row ∈ t.facts r := by
    intro r row
    rw [(shows_accepted s).mem_facts_iff, (shows_accepted t).mem_facts_iff, h]
  have hfacts : s.facts = t.facts := by
    funext r
    apply sortRows_eq_of_mem_iff
    intro row
    simpa only [facts, mem_sortRows] using hmem r row
  have hcontains : s.contains = t.contains := by
    funext r row
    rw [Bool.eq_iff_iff, contains_iff_mem_facts, contains_iff_mem_facts, hfacts]
  constructor
  · exact hfacts
  · exact hcontains
  · funext r key
    rw [lookup, lookup, hfacts]
  · funext r
    rw [count, count, hfacts]
  · rw [size, size, hfacts]
  · rw [isEmpty, isEmpty, size, size, hfacts]
  · exact snapshot_eq_of_mem_iff hmem

/-- Whatever is offered to a store, it turns away what does not fit and shows the rest: as a set to
every query, and as a list in the journal.  Two sequences of offers of which the same ones fit lead
to the same answers. -/
theorem shows_offerAll (journaled : Bool) (offers : List Offer) :
    let s := (empty journaled).offerAll offers
    s.Shows journaled (offers.filter Offer.fits) ∧
      (∀ o : Offer, o.fits = false → s.addRow? o.relation o.row = none ∧ s.offer o = s) ∧
      ∀ (journaled' : Bool) (others : List Offer),
        (∀ o, o ∈ offers.filter Offer.fits ↔ o ∈ others.filter Offer.fits) →
          s.SameAnswers ((empty journaled').offerAll others) := by
  have haccepted : ∀ (journaled : Bool) (offers : List Offer),
      ((empty journaled).offerAll offers).accepted.toList.map Fact.toOffer =
        offers.filter Offer.fits := by
    intro journaled offers
    rw [accepted_offerAll]
    rfl
  intro s
  refine ⟨?_, ?_, ?_⟩
  · have hshows := shows_accepted s
    rw [haccepted, journaled_offerAll] at hshows
    exact hshows
  · intro o ho
    have hnone := addRow?_of_not_fits (s := s) ho
    exact ⟨hnone, by rw [offer, hnone, Option.getD_none]⟩
  · intro journaled' others h
    apply sameAnswers_of_mem_iff
    intro o
    rw [haccepted, haccepted, h]

/-- Two classes, one of them twice, and a row that lacks a cell. -/
def repeatedOffers : List Offer :=
  [⟨.classType, ["b.B"]⟩, ⟨.varType, ["x"]⟩, ⟨.classType, ["a.A"]⟩, ⟨.classType, ["b.B"]⟩]

/-- The same classes in another order. -/
def orderedOffers : List Offer :=
  [⟨.classType, ["a.A"]⟩, ⟨.classType, ["b.B"]⟩]

theorem sameAnswers_repeatedOffers :
    (∀ o, o ∈ repeatedOffers.filter Offer.fits ↔ o ∈ orderedOffers.filter Offer.fits) ∧
      ((empty true).offerAll repeatedOffers).SameAnswers
        ((empty false).offerAll orderedOffers) := by
  have hsame :
      ∀ o, o ∈ repeatedOffers.filter Offer.fits ↔ o ∈ orderedOffers.filter Offer.fits := by
    have hrepeated : repeatedOffers.filter Offer.fits =
        [⟨.classType, ["b.B"]⟩, ⟨.classType, ["a.A"]⟩, ⟨.classType, ["b.B"]⟩] := by decide
    have hordered : orderedOffers.filter Offer.fits = orderedOffers := by decide
    intro o
    rw [hrepeated, hordered]
    simp only [orderedOffers, List.mem_cons, List.not_mem_nil, or_false]
    tauto
  exact ⟨hsame, (shows_offerAll true repeatedOffers).2.2 false orderedOffers hsame⟩

end FactStore
end ProgramFacts
