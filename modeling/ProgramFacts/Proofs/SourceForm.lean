import Mathlib.Data.List.DropRight
import ProgramFacts.TypeRef.Source

/-!
# Laws of source forms

A text that is read as a type spells a base and some array levels.  The name of the type is that
base followed by one pair of brackets per level, and it is read as the same type again, so that
names tell apart the types that can be read.  The name of a resolved type holds name characters and
brackets only.
-/

namespace ProgramFacts

theorem Primitive.name_of_ofName?_eq_some
    {s : String} {p : Primitive} (h : ofName? s = some p) : p.name = s := by
  simpa using List.find?_some h

namespace TypeRef

/-! ## Bases and brackets -/

/-- The brackets of some array levels. -/
def brackets : Nat → List Char
  | 0 => []
  | n + 1 => brackets n ++ ['[', ']']

theorem toList_name_nest (n : Nat) (t : TypeRef) :
    (nest n t).name.toList = t.name.toList ++ brackets n := by
  induction n with
  | zero => simp [nest, brackets]
  | succ n ih => simp [nest, name, brackets, ih]

theorem isResolved_nest (n : Nat) (t : TypeRef) : (nest n t).isResolved = t.isResolved := by
  induction n with
  | zero => rfl
  | succ n ih => exact ih

theorem peelReversed_brackets (cs : List Char) :
    peelReversed (']' :: '[' :: cs) = ((peelReversed cs).1, (peelReversed cs).2 + 1) :=
  rfl

/-- Whether a reversed text has no blanks and no brackets to take off. -/
def Settled (cs : List Char) : Prop :=
  ∀ c rest, cs = c :: rest → Text.isBlank c = false ∧ (c = ']' → rest.head? ≠ some '[')

theorem settled_peelReversed (cs : List Char) : Settled (peelReversed cs).1 := by
  fun_induction peelReversed cs with
  | case1 => simp [Settled]
  | case2 rest base levels hrest ih => simpa [hrest] using ih
  | case3 c rest hbrackets hblank ih => exact ih
  | case4 c rest hbrackets hblank =>
      intro d after h
      obtain ⟨rfl, rfl⟩ := List.cons.inj h
      refine ⟨by simpa using hblank, ?_⟩
      rintro rfl hhead
      obtain ⟨after, rfl⟩ := List.head?_eq_some_iff.mp hhead
      exact hbrackets after rfl rfl

theorem peelReversed_of_settled {cs : List Char} (h : Settled cs) : peelReversed cs = (cs, 0) := by
  cases cs with
  | nil => rfl
  | cons c rest =>
      obtain ⟨hblank, hbrackets⟩ := h c rest rfl
      unfold peelReversed
      split
      · cases ‹_ = []›
      · next heq =>
          obtain ⟨rfl, rfl⟩ := List.cons.inj heq
          exact absurd rfl (hbrackets rfl)
      · next heq =>
          obtain ⟨rfl, rfl⟩ := List.cons.inj heq
          rw [hblank]
          rfl

theorem Settled.of_append {front back : List Char} (h : Settled (front ++ back)) :
    Settled front := by
  rintro c rest rfl
  obtain ⟨hblank, hbrackets⟩ := h c (rest ++ back) rfl
  refine ⟨hblank, fun hc hhead => hbrackets hc ?_⟩
  rw [List.head?_append, hhead]
  rfl

theorem settled_reverse_peel (cs : List Char) : Settled (peel cs).1.reverse := by
  have hsplit : (peelReversed cs.reverse).1 =
      (peel cs).1.reverse ++
        ((peelReversed cs.reverse).1.reverse.takeWhile Text.isBlank).reverse := by
    rw [← List.reverse_append]
    simp [peel, Text.trimStart]
  apply Settled.of_append
  rw [← hsplit]
  exact settled_peelReversed cs.reverse

theorem trimStart_peel (cs : List Char) : Text.trimStart (peel cs).1 = (peel cs).1 :=
  List.dropWhile_idempotent _ _

/-- There is nothing to take off a base. -/
theorem peel_peel (cs : List Char) : peel (peel cs).1 = ((peel cs).1, 0) := by
  rw [peel, peelReversed_of_settled (settled_reverse_peel cs)]
  simp [trimStart_peel]

theorem peel_append_brackets (cs : List Char) (n : Nat) :
    peel (cs ++ brackets n) = ((peel cs).1, (peel cs).2 + n) := by
  induction n with
  | zero => simp [brackets]
  | succ n ih =>
      have hlast : peel (cs ++ brackets n ++ ['[', ']']) =
          ((peel (cs ++ brackets n)).1, (peel (cs ++ brackets n)).2 + 1) := by
        have hreverse : (cs ++ brackets n ++ ['[', ']']).reverse =
            ']' :: '[' :: (cs ++ brackets n).reverse := by
          simp
        simp only [peel, hreverse, peelReversed_brackets]
      rw [brackets, ← List.append_assoc, hlast, ih, Nat.add_assoc]

/-! ## Types that are read -/

theorem toList_name_of_ofBase {cs : List Char} {t : TypeRef} (h : ofBase cs = .ok t) :
    t.name.toList = cs := by
  unfold ofBase at h
  split at h
  · cases h
  · cases h
  · cases h
    simp [name]
  · split at h
    · next p hp =>
        cases h
        simp [name, Primitive.name_of_ofName?_eq_some hp]
    · split at h
      · cases h
        simp [name]
      · cases h

theorem ofSource_eq_ok_iff {s : String} {t : TypeRef} :
    ofSource s = .ok t ↔
      ∃ base, ofBase (peel s.toList).1 = .ok base ∧ t = nest (peel s.toList).2 base := by
  unfold ofSource
  cases h : ofBase (peel s.toList).1 <;> simp [h, Except.map, eq_comm]

/-- The name of a type that was read is read as the same type. -/
theorem ofSource_name {s : String} {t : TypeRef} (h : ofSource s = .ok t) :
    ofSource t.name = .ok t := by
  obtain ⟨base, hbase, rfl⟩ := ofSource_eq_ok_iff.mp h
  have hpeel : peel (nest (peel s.toList).2 base).name.toList =
      ((peel s.toList).1, (peel s.toList).2) := by
    rw [toList_name_nest, toList_name_of_ofBase hbase, peel_append_brackets, peel_peel,
      Nat.zero_add]
  rw [ofSource_eq_ok_iff, hpeel]
  exact ⟨base, hbase, rfl⟩

/-- Names tell apart the types that can be read. -/
theorem eq_of_name_eq
    {t t' : TypeRef} (h : ofSource t.name = .ok t) (h' : ofSource t'.name = .ok t')
    (hname : t.name = t'.name) : t = t' := by
  rw [hname, h'] at h
  cases h
  rfl

/-! ## Resolved types -/

/-- Whether a type can be read from a source form and is resolved. -/
structure Readable (t : TypeRef) : Prop where
  source : ∃ s, ofSource s = .ok t
  resolved : t.isResolved = true

theorem isNameChar_of_mem_primitive (p : Primitive) : ∀ c ∈ p.name.toList, isNameChar c = true := by
  have hall : p.name.toList.all isNameChar = true := by
    cases p <;> decide +kernel
  exact List.all_eq_true.mp hall

theorem isNameChar_of_mem_ofBase
    {cs : List Char} {t : TypeRef} (h : ofBase cs = .ok t) (hresolved : t.isResolved = true) :
    ∀ c ∈ cs, isNameChar c = true := by
  unfold ofBase at h
  split at h
  · cases h
  · cases h
  · cases h
    cases hresolved
  · split at h
    · next p hp =>
        have hname := Primitive.name_of_ofName?_eq_some hp
        have hchars := isNameChar_of_mem_primitive p
        rw [hname, String.toList_ofList] at hchars
        exact hchars
    · split at h
      · next hclass =>
          simp only [isClassName, Bool.and_eq_true] at hclass
          simpa using hclass.1.1.2
      · cases h

theorem ofBase_nil (t : TypeRef) : ofBase [] ≠ .ok t := by
  intro h
  cases h

/-- The name of a resolved type holds only name characters and brackets. -/
theorem Readable.mem_name
    {t : TypeRef} (h : t.Readable) {c : Char} (hc : c ∈ t.name.toList) :
    isNameChar c = true ∨ c = '[' ∨ c = ']' := by
  obtain ⟨⟨s, hs⟩, hresolved⟩ := h
  obtain ⟨base, hbase, rfl⟩ := ofSource_eq_ok_iff.mp hs
  have hbrackets : ∀ n, c ∈ brackets n → c = '[' ∨ c = ']' := by
    intro n h
    induction n with
    | zero => simp [brackets] at h
    | succ n ih =>
        rw [brackets, List.mem_append] at h
        rcases h with h | h
        · exact ih h
        · simpa using h
  rw [isResolved_nest] at hresolved
  rw [toList_name_nest, toList_name_of_ofBase hbase, List.mem_append] at hc
  rcases hc with hc | hc
  · exact Or.inl (isNameChar_of_mem_ofBase hbase hresolved c hc)
  · exact Or.inr (hbrackets _ hc)

theorem Readable.name_ne_nil {t : TypeRef} (h : t.Readable) : t.name.toList ≠ [] := by
  obtain ⟨⟨s, hs⟩, -⟩ := h
  obtain ⟨base, hbase, rfl⟩ := ofSource_eq_ok_iff.mp hs
  rw [toList_name_nest, toList_name_of_ofBase hbase]
  intro hnil
  rw [(List.append_eq_nil_iff.mp hnil).1] at hbase
  exact ofBase_nil base hbase

theorem Readable.ofSource_name {t : TypeRef} (h : t.Readable) : ofSource t.name = .ok t := by
  obtain ⟨s, hs⟩ := h.source
  exact TypeRef.ofSource_name hs

end TypeRef
end ProgramFacts
