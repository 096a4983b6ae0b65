import Mathlib.Data.String.Basic
import ProgramFacts.Identifier

/-!
# Laws of joined texts

Identifiers are joined from parts.  A part ends where a separator stands that it does not hold, so
that a joined text determines its parts; and numbers in decimal form hold no separators and are told
apart by their form.
-/

namespace ProgramFacts

namespace Text

/-! ## Separators -/

/-- What stands before and after the first occurrence of a separator. -/
theorem split_first
    {a : Char} {before before' after after' : List Char}
    (h : before ++ a :: after = before' ++ a :: after')
    (hbefore : a ∉ before) (hbefore' : a ∉ before') :
    before = before' ∧ after = after' := by
  have hsplit := congrArg (List.splitOn a) h
  rw [List.splitOn_append_cons_self_of_not_mem hbefore,
    List.splitOn_append_cons_self_of_not_mem hbefore'] at hsplit
  obtain ⟨hparts, hrest⟩ := List.cons.inj hsplit
  refine ⟨hparts, ?_⟩
  calc
    after = [a].intercalate (List.splitOn a after) := (List.intercalate_splitOn a).symm
    _ = [a].intercalate (List.splitOn a after') := by rw [hrest]
    _ = after' := List.intercalate_splitOn a

/-- What stands before and after the last occurrence of a separator. -/
theorem split_last
    {a : Char} {before before' after after' : List Char}
    (h : before ++ a :: after = before' ++ a :: after')
    (hafter : a ∉ after) (hafter' : a ∉ after') :
    before = before' ∧ after = after' := by
  have hreverse := congrArg List.reverse h
  simp only [List.reverse_append, List.reverse_cons, List.append_assoc, List.singleton_append]
    at hreverse
  obtain ⟨hends, hstarts⟩ := split_first hreverse (by simpa using hafter) (by simpa using hafter')
  exact ⟨List.reverse_inj.mp hstarts, List.reverse_inj.mp hends⟩

theorem mem_intercalate
    {a c : Char} {parts : List (List Char)} (h : c ∈ [a].intercalate parts) :
    c = a ∨ ∃ p ∈ parts, c ∈ p := by
  induction parts with
  | nil => simp at h
  | cons p parts ih =>
      cases parts with
      | nil => exact Or.inr ⟨p, List.mem_cons_self, by simpa using h⟩
      | cons q parts =>
          rw [List.intercalate_cons_cons, List.append_assoc, List.mem_append,
            List.singleton_append, List.mem_cons] at h
          rcases h with h | h | h
          · exact Or.inr ⟨p, List.mem_cons_self, h⟩
          · exact Or.inl h
          · obtain hc | ⟨r, hr, hc⟩ := ih h
            · exact Or.inl hc
            · exact Or.inr ⟨r, List.mem_cons_of_mem p hr, hc⟩

/-- Parts that are not empty and do not hold the separator are determined by the joined text. -/
theorem intercalate_injective
    {a : Char} {parts parts' : List (List Char)}
    (h : [a].intercalate parts = [a].intercalate parts')
    (hparts : ∀ p ∈ parts, p ≠ [] ∧ a ∉ p) (hparts' : ∀ p ∈ parts', p ≠ [] ∧ a ∉ p) :
    parts = parts' := by
  have hempty : ∀ {parts : List (List Char)}, (∀ p ∈ parts, p ≠ [] ∧ a ∉ p) →
      [a].intercalate parts = [] → parts = [] := by
    intro parts hparts hnil
    by_contra hne
    have hsplit := List.splitOn_intercalate a (fun p hp => (hparts p hp).2) hne
    rw [hnil] at hsplit
    exact (hparts [] (by simp [← hsplit])).1 rfl
  by_cases hnil : parts = []
  · subst hnil
    exact (hempty hparts' h.symm).symm
  · have hnil' : parts' ≠ [] := by
      rintro rfl
      exact hnil (hempty hparts h)
    rw [← List.splitOn_intercalate a (fun p hp => (hparts p hp).2) hnil, h,
      List.splitOn_intercalate a (fun p hp => (hparts' p hp).2) hnil']

theorem mapM_eq_some_map
    {α β : Type} {read : α → Option β} {value : α → β} {parts : List α}
    (h : ∀ p ∈ parts, read p = some (value p)) : parts.mapM read = some (parts.map value) := by
  induction parts with
  | nil => rfl
  | cons p parts ih =>
      rw [List.mapM_cons, h p List.mem_cons_self,
        ih fun q hq => h q (List.mem_cons_of_mem p hq)]
      rfl

/-- Parts that are written one by one are read back one by one. -/
theorem mapM_map_eq_some
    {α β : Type} {write : α → β} {read : β → Option α} {parts : List α}
    (h : ∀ p ∈ parts, read (write p) = some p) :
    (parts.map write).mapM read = some parts := by
  have hmap : parts.mapM (read ∘ write) = some (parts.map id) := mapM_eq_some_map h
  rw [List.mapM_map, hmap, List.map_id]

/-! ## Decimal forms -/

theorem isDigit_of_mem_repr {n : Nat} {c : Char} (h : c ∈ n.repr.toList) : c.isDigit = true := by
  rw [Nat.repr_eq_ofList_toDigits, String.toList_ofList] at h
  exact Nat.isDigit_of_mem_toDigits (by decide) (by decide) h

/-- A number is read back from its digits. -/
theorem repr_injective : Function.Injective Nat.repr := by
  intro m n h
  rw [Nat.repr_eq_ofList_toDigits, Nat.repr_eq_ofList_toDigits, String.ofList_inj] at h
  rw [← Nat.ofDigitChars_ten_toDigits (n := m), h, Nat.ofDigitChars_ten_toDigits]

theorem not_mem_repr {c : Char} (hc : c.isDigit = false) (n : Nat) : c ∉ n.repr.toList := by
  intro h
  rw [isDigit_of_mem_repr h] at hc
  cases hc

end Text

theorem mem_signedDecimal {z : Int} {c : Char} (h : c ∈ (signedDecimal z).toList) :
    c = '-' ∨ c.isDigit = true := by
  cases z with
  | ofNat n => exact Or.inr (Text.isDigit_of_mem_repr h)
  | negSucc n =>
      simp only [signedDecimal, String.toList_append, List.mem_append] at h
      rcases h with h | h
      · exact Or.inl (by simpa using h)
      · exact Or.inr (Text.isDigit_of_mem_repr h)

theorem signedDecimal_injective {y z : Int} (h : signedDecimal y = signedDecimal z) : y = z := by
  have hsign : ∀ m n : Nat, m.repr ≠ "-" ++ n.repr := by
    intro m n heq
    have hminus : '-' ∈ m.repr.toList := by simp [heq]
    exact Text.not_mem_repr (by decide) m hminus
  cases y with
  | ofNat m =>
      cases z with
      | ofNat n => rw [Text.repr_injective h]
      | negSucc n => exact absurd h (hsign m (n + 1))
  | negSucc m =>
      cases z with
      | ofNat n => exact absurd h.symm (hsign n (m + 1))
      | negSucc n =>
          have hdigits : (m + 1).repr = (n + 1).repr := by simpa [signedDecimal] using h
          rw [Nat.succ.inj (Text.repr_injective hdigits)]

/-! ## Shortened texts -/

/-- Whether two texts are longer than a threshold and have the same hash. -/
structure Text.Collide (threshold : Nat) (a b : String) : Prop where
  left : threshold < unitLength a
  right : threshold < unitLength b
  hash_eq : hash a = hash b

theorem hashTag_injective {label a b : String} (h : hashTag label a = hashTag label b) :
    Text.hash a = Text.hash b := by
  have hdecimal : signedDecimal (Text.hash a).toInt = signedDecimal (Text.hash b).toInt := by
    simpa [hashTag, String.append_assoc] using h
  exact Int32.toInt_inj.mp (signedDecimal_injective hdecimal)

/-- Two texts with the same identifier are the same text, or they are long and have the same hash,
or one of them is short and spells the tag of the other. -/
theorem shorten_eq_shorten
    {label : String} {threshold : Nat} {a b : String}
    (h : shorten label threshold a = shorten label threshold b) :
    a = b ∨ Text.Collide threshold a b ∨
      (Text.unitLength a ≤ threshold ∧ threshold < Text.unitLength b ∧ a = hashTag label b) ∨
      (Text.unitLength b ≤ threshold ∧ threshold < Text.unitLength a ∧ b = hashTag label a) := by
  unfold shorten at h
  by_cases ha : Text.unitLength a ≤ threshold
  · by_cases hb : Text.unitLength b ≤ threshold
    · rw [if_pos ha, if_pos hb] at h
      exact Or.inl h
    · rw [if_pos ha, if_neg hb] at h
      exact Or.inr (Or.inr (Or.inl ⟨ha, by omega, h⟩))
  · by_cases hb : Text.unitLength b ≤ threshold
    · rw [if_neg ha, if_pos hb] at h
      exact Or.inr (Or.inr (Or.inr ⟨hb, by omega, h.symm⟩))
    · rw [if_neg ha, if_neg hb] at h
      exact Or.inr (Or.inl ⟨by omega, by omega, hashTag_injective h⟩)

end ProgramFacts
