import Mathlib.Data.String.Basic
import ProgramFacts.FactStore

/-!
# Laws of the fact store

The rows that a store shows for a relation are the rows it has accepted for it, each of them once.
The journal of a journaled store is the list of all accepted facts in order.
-/

namespace ProgramFacts

/-! ## The order of rows -/

namespace Text

theorem precedes_total (as bs : List String) :
    (precedes as bs || precedes bs as) = true := by
  induction as generalizing bs with
  | nil => simp [precedes]
  | cons a as ih =>
      cases bs with
      | nil => simp [precedes]
      | cons b bs =>
          rcases lt_trichotomy a b with h | h | h
          · simp [precedes, h.ne, h]
          · subst h
            simpa [precedes] using ih bs
          · simp [precedes, h.ne, h.ne', h]

theorem precedes_trans
    (as bs cs : List String)
    (hab : precedes as bs = true) (hbc : precedes bs cs = true) :
    precedes as cs = true := by
  induction as generalizing bs cs with
  | nil => simp [precedes]
  | cons a as ih =>
      cases bs with
      | nil => simp [precedes] at hab
      | cons b bs =>
          cases cs with
          | nil => simp [precedes] at hbc
          | cons c cs =>
              simp only [precedes] at hab hbc ⊢
              by_cases hEqAB : a = b
              · subst hEqAB
                by_cases hEqAC : a = c
                · subst hEqAC
                  rw [if_pos rfl] at hab hbc ⊢
                  exact ih bs cs hab hbc
                · rw [if_neg hEqAC] at hbc ⊢
                  exact hbc
              · rw [if_neg hEqAB, decide_eq_true_eq] at hab
                by_cases hEqBC : b = c
                · subst hEqBC
                  simp [hEqAB, hab]
                · rw [if_neg hEqBC, decide_eq_true_eq] at hbc
                  have hac : a < c := lt_trans hab hbc
                  simp [hac.ne, hac]

theorem precedes_antisymm
    {as bs : List String}
    (hab : precedes as bs = true) (hba : precedes bs as = true) :
    as = bs := by
  induction as generalizing bs with
  | nil =>
      cases bs with
      | nil => rfl
      | cons b bs => simp [precedes] at hba
  | cons a as ih =>
      cases bs with
      | nil => simp [precedes] at hab
      | cons b bs =>
          simp only [precedes] at hab hba
          by_cases hEq : a = b
          · subst hEq
            rw [if_pos rfl] at hab hba
            rw [ih hab hba]
          · rw [if_neg hEq, decide_eq_true_eq] at hab
            rw [if_neg (Ne.symm hEq), decide_eq_true_eq] at hba
            exact absurd hba (lt_asymm hab)

/-- A row that comes before another one precedes it in the lexicographic order. -/
theorem lex_of_precedes
    {as bs : List String} (h : precedes as bs = true) (hne : as ≠ bs) :
    List.Lex (· < ·) as bs := by
  induction as generalizing bs with
  | nil =>
      cases bs with
      | nil => exact absurd rfl hne
      | cons b bs => exact List.Lex.nil
  | cons a as ih =>
      cases bs with
      | nil => simp [precedes] at h
      | cons b bs =>
          rw [precedes] at h
          by_cases hEq : a = b
          · subst hEq
            rw [if_pos rfl] at h
            exact List.Lex.cons (ih h fun hrest => hne (by rw [hrest]))
          · rw [if_neg hEq, decide_eq_true_eq] at h
            exact List.Lex.rel h

end Text

/-! ## Distinct rows -/

theorem mem_dropRepeats {α : Type} [DecidableEq α] {list : List α} {x : α} :
    x ∈ dropRepeats list ↔ x ∈ list := by
  fun_induction dropRepeats list with
  | case1 => exact Iff.rfl
  | case2 a => exact Iff.rfl
  | case3 b rest ih => simpa using ih
  | case4 a b rest hne ih => rw [List.mem_cons, ih, ← List.mem_cons]

theorem dropRepeats_sublist {α : Type} [DecidableEq α] (list : List α) :
    (dropRepeats list).Sublist list := by
  fun_induction dropRepeats list with
  | case1 => exact List.Sublist.refl _
  | case2 a => exact List.Sublist.refl _
  | case3 b rest ih => exact ih.cons b
  | case4 a b rest hne ih => exact ih.cons_cons a

/-- In a sorted list equal elements are neighbours. -/
theorem nodup_dropRepeats
    {list : List (List String)}
    (hsorted : list.Pairwise fun a b => Text.precedes a b = true) :
    (dropRepeats list).Nodup := by
  fun_induction dropRepeats list with
  | case1 => exact List.nodup_nil
  | case2 a => simp
  | case3 b rest ih => exact ih hsorted.of_cons
  | case4 a b rest hne ih =>
      rw [List.nodup_cons, mem_dropRepeats]
      refine ⟨?_, ih hsorted.of_cons⟩
      intro hmem
      have hab : Text.precedes a b = true := List.rel_of_pairwise_cons hsorted (by simp)
      rcases List.mem_cons.mp hmem with h | h
      · exact hne h
      · have hba : Text.precedes b a = true := List.rel_of_pairwise_cons hsorted.of_cons h
        exact hne (Text.precedes_antisymm hab hba)

theorem mem_sortRows {rows : List (List String)} {row : List String} :
    row ∈ sortRows rows ↔ row ∈ rows := by
  rw [sortRows, mem_dropRepeats, List.mem_mergeSort]

theorem nodup_sortRows (rows : List (List String)) : (sortRows rows).Nodup :=
  nodup_dropRepeats
    (List.pairwise_mergeSort Text.precedes_trans Text.precedes_total rows)

theorem pairwise_sortRows (rows : List (List String)) :
    (sortRows rows).Pairwise fun a b => Text.precedes a b = true :=
  (List.pairwise_mergeSort Text.precedes_trans Text.precedes_total rows).sublist
    (dropRepeats_sublist _)

/-- Sorted lists show the set of their rows and nothing else. -/
theorem sortRows_eq_of_mem_iff
    {rows others : List (List String)} (h : ∀ row, row ∈ rows ↔ row ∈ others) :
    sortRows rows = sortRows others := by
  have hperm : (sortRows rows).Perm (sortRows others) := by
    rw [List.perm_ext_iff_of_nodup (nodup_sortRows rows) (nodup_sortRows others)]
    intro row
    rw [mem_sortRows, mem_sortRows, h]
  apply hperm.eq_of_pairwise _ (pairwise_sortRows rows) (pairwise_sortRows others)
  intro a b _ _ hab hba
  exact Text.precedes_antisymm hab hba

/-- Sorted lists are strictly increasing. -/
theorem pairwise_lex_sortRows (rows : List (List String)) :
    (sortRows rows).Pairwise (List.Lex (· < ·)) := by
  apply ((pairwise_sortRows rows).and (nodup_sortRows rows)).imp
  intro a b h
  exact Text.lex_of_precedes h.1 h.2

/-! ## Accepted facts -/

theorem Relation.mem_all (r : Relation) : r ∈ all := by
  cases r <;> decide

theorem Fact.eq_iff {f g : Fact} : f = g ↔ f.relation = g.relation ∧ f.row = g.row := by
  constructor
  · rintro rfl
    exact ⟨rfl, rfl⟩
  · rintro ⟨hrelation, hrow⟩
    cases f
    cases g
    simp_all

/-- Whether some facts hold a row of a relation. -/
def HasRow (facts : List Fact) (r : Relation) (row : List String) : Prop :=
  ∃ f ∈ facts, f.relation = r ∧ f.row = row

theorem HasRow.mono
    {facts more : List Fact} {r : Relation} {row : List String}
    (h : HasRow facts r row) (hle : facts ⊆ more) : HasRow more r row := by
  obtain ⟨f, hf, hrow⟩ := h
  exact ⟨f, hle hf, hrow⟩

theorem hasRow_append_iff {facts more : List Fact} {r : Relation} {row : List String} :
    HasRow (facts ++ more) r row ↔ HasRow facts r row ∨ HasRow more r row := by
  simp [HasRow, or_and_right, exists_or]

namespace FactStore

theorem toList_accepted_addAll (s : FactStore) (fs : List Fact) :
    (s.addAll fs).accepted.toList = s.accepted.toList ++ fs := by
  induction fs generalizing s with
  | nil => simp [addAll]
  | cons f fs ih =>
      have hadd : (s.add f).accepted.toList = s.accepted.toList ++ [f] := by simp [add]
      rw [addAll, List.foldl_cons, ← addAll, ih, hadd, List.append_assoc, List.singleton_append]

@[simp] theorem journaled_addAll (s : FactStore) (fs : List Fact) :
    (s.addAll fs).journaled = s.journaled := by
  induction fs generalizing s with
  | nil => rfl
  | cons f fs ih =>
      rw [addAll, List.foldl_cons, ← addAll, ih]
      rfl

theorem journal_of_journaled {s : FactStore} (h : s.journaled = true) :
    s.journal = s.accepted.toList := by
  simp [journal, h]

/-- A store shows the rows that it has accepted. -/
theorem mem_facts_iff {s : FactStore} {r : Relation} {row : List String} :
    row ∈ s.facts r ↔ HasRow s.accepted.toList r row := by
  rw [facts, mem_sortRows, rowsOf, List.mem_map]
  constructor
  · rintro ⟨f, hf, hrow⟩
    rw [List.mem_filter, decide_eq_true_eq] at hf
    exact ⟨f, hf.1, hf.2, hrow⟩
  · rintro ⟨f, hf, hrelation, hrow⟩
    exact ⟨f, by simp [hf, hrelation], hrow⟩

theorem length_of_mem_facts {s : FactStore} {r : Relation} {row : List String}
    (h : row ∈ s.facts r) : row.length = r.arity := by
  obtain ⟨f, -, rfl, rfl⟩ := mem_facts_iff.mp h
  exact f.length_row

theorem nodup_facts (s : FactStore) (r : Relation) : (s.facts r).Nodup :=
  nodup_sortRows _

theorem pairwise_lex_facts (s : FactStore) (r : Relation) :
    (s.facts r).Pairwise (List.Lex (· < ·)) :=
  pairwise_lex_sortRows _

/-- Stores with the same rows show the same snapshot. -/
theorem snapshot_eq_of_mem_iff
    {s t : FactStore} (h : ∀ r row, row ∈ s.facts r ↔ row ∈ t.facts r) :
    s.snapshot = t.snapshot := by
  have hfacts : s.facts = t.facts := by
    funext r
    apply sortRows_eq_of_mem_iff
    intro row
    simpa only [facts, mem_sortRows] using h r row
  rw [snapshot, snapshot, hfacts]

end FactStore
end ProgramFacts
