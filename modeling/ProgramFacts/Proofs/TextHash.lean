import Mathlib.Algebra.BigOperators.Fin
import Mathlib.Tactic.Ring
import ProgramFacts.Proofs.JoinedText

/-!
# The hash of a text

The hash is the polynomial with base 31 whose coefficients are the UTF-16 units of the text, in
signed arithmetic modulo `2 ^ 32`.  It takes a text apart at any place, so that parts of the same
length and hash can stand for each other, and texts that collide make longer texts collide.
-/

namespace ProgramFacts
namespace Text

/-! ## UTF-16 units -/

/-- Whether some numbers are the UTF-16 form of some characters: the code point of a character
below U+10000, and a high and a low surrogate for any other. -/
inductive IsUtf16 : List Char → List Nat → Prop where
  | nil : IsUtf16 [] []
  | single {c : Char} {cs : List Char} {us : List Nat} (hc : c.toNat < 0x10000)
      (rest : IsUtf16 cs us) : IsUtf16 (c :: cs) (c.toNat :: us)
  | pair {c : Char} {cs : List Char} {us : List Nat} {high low : Nat}
      (hhigh : 0xD800 ≤ high ∧ high < 0xDC00) (hlow : 0xDC00 ≤ low ∧ low < 0xE000)
      (hc : c.toNat = 0x10000 + (high - 0xD800) * 0x400 + (low - 0xDC00))
      (rest : IsUtf16 cs us) : IsUtf16 (c :: cs) (high :: low :: us)

theorem toNat_lt (c : Char) : c.toNat < 0x110000 := by
  have hvalid : c.toNat < 0xD800 ∨ 0xDFFF < c.toNat ∧ c.toNat < 0x110000 := c.valid
  omega

theorem isUtf16_units (cs : List Char) : IsUtf16 cs (cs.flatMap unitsOf) := by
  induction cs with
  | nil => exact .nil
  | cons c cs ih =>
      rw [List.flatMap_cons, unitsOf]
      by_cases hc : c.toNat < 0x10000
      · rw [if_pos hc]
        exact .single hc ih
      · have hbound := toNat_lt c
        rw [if_neg hc]
        exact .pair (by omega) (by omega) (by omega) ih

/-- A list of characters has one UTF-16 form. -/
theorem IsUtf16.eq_units {cs : List Char} {us : List Nat} (h : IsUtf16 cs us) :
    us = cs.flatMap unitsOf := by
  induction h with
  | nil => rfl
  | single hc rest ih => rw [List.flatMap_cons, unitsOf, if_pos hc, ← ih, List.singleton_append]
  | @pair c cs us high low hhigh hlow hc rest ih =>
      have hsplit : unitsOf c = [high, low] := by
        have hhigh' : 0xD800 + (c.toNat - 0x10000) / 0x400 = high := by omega
        have hlow' : 0xDC00 + (c.toNat - 0x10000) % 0x400 = low := by omega
        rw [unitsOf, if_neg (by omega), hhigh', hlow']
      rw [List.flatMap_cons, hsplit, ← ih]
      rfl

theorem units_append (s t : String) : units (s ++ t) = units s ++ units t := by
  simp [units]

theorem unitLength_append (s t : String) :
    unitLength (s ++ t) = unitLength s + unitLength t := by
  rw [unitLength, units_append, List.length_append]
  rfl

/-! ## Polynomials -/

/-- The value at 31 of the polynomial with the given coefficients, the highest first. -/
def polynomial (us : List Nat) : Nat :=
  ∑ i : Fin us.length, us[i] * 31 ^ (us.length - 1 - i)

theorem polynomial_cons (u : Nat) (us : List Nat) :
    polynomial (u :: us) = u * 31 ^ us.length + polynomial us := by
  have hexponent : ∀ i : Fin us.length, us.length - (i + 1) = us.length - 1 - i := by
    omega
  simp [polynomial, Fin.sum_univ_succ, hexponent]

/-- One step of the hash after another is the polynomial modulo `2 ^ 32`. -/
theorem toInt_foldl_hashStep (us : List Nat) (h : Int32) :
    (us.foldl hashStep h).toInt = (h.toInt * 31 ^ us.length + polynomial us).bmod (2 ^ 32) := by
  induction us generalizing h with
  | nil =>
      have hzero : polynomial [] = 0 := rfl
      simp [hzero]
  | cons u us ih =>
      have hstep : (hashStep h u).toInt = (h.toInt * 31 + u).bmod (2 ^ 32) := by
        rw [hashStep, Int32.toInt_add, Int32.toInt_mul, Int32.toInt_ofNat']
        exact (Int.bmod_add_bmod).trans Int.add_bmod_bmod
      calc
        ((u :: us).foldl hashStep h).toInt
            = ((hashStep h u).toInt * 31 ^ us.length + polynomial us).bmod (2 ^ 32) := ih _
        _ = ((h.toInt * 31 + u) * 31 ^ us.length + polynomial us).bmod (2 ^ 32) := by
          rw [hstep, ← Int.bmod_add_bmod, Int.bmod_mul_bmod, Int.bmod_add_bmod]
        _ = (h.toInt * 31 ^ (u :: us).length + polynomial (u :: us)).bmod (2 ^ 32) := by
          rw [polynomial_cons, List.length_cons]
          congr 1
          push_cast
          ring

theorem toInt_hash (s : String) : (hash s).toInt = (polynomial (units s) : Int).bmod (2 ^ 32) := by
  have h := toInt_foldl_hashStep (units s) 0
  rwa [Int32.toInt_zero, zero_mul, zero_add] at h

/-! ## Joined texts -/

theorem toInt_hash_append (s t : String) :
    (hash (s ++ t)).toInt =
      ((hash s).toInt * 31 ^ unitLength t + (hash t).toInt).bmod (2 ^ 32) := by
  calc
    (hash (s ++ t)).toInt
        = ((hash s).toInt * 31 ^ unitLength t + polynomial (units t)).bmod (2 ^ 32) := by
      rw [hash, units_append, List.foldl_append, toInt_foldl_hashStep]
      rfl
    _ = ((hash s).toInt * 31 ^ unitLength t + (hash t).toInt).bmod (2 ^ 32) := by
      rw [toInt_hash t, Int.add_bmod_bmod]

/-- Texts of the same length and hash can stand for each other in front of any text, and after texts
of the same hash. -/
theorem hash_append_congr
    {s s' t t' : String} (hs : hash s = hash s') (ht : hash t = hash t')
    (hlength : unitLength t = unitLength t') : hash (s ++ t) = hash (s' ++ t') := by
  rw [← Int32.toInt_inj, toInt_hash_append, toInt_hash_append, hs, ht, hlength]

/-- Whether two texts have the same length and the same hash. -/
structure Alike (s t : String) : Prop where
  unitLength_eq : unitLength s = unitLength t
  hash_eq : hash s = hash t

namespace Alike

theorem refl (s : String) : Alike s s :=
  ⟨rfl, rfl⟩

theorem append {s s' t t' : String} (hs : Alike s s') (ht : Alike t t') :
    Alike (s ++ t) (s' ++ t') where
  unitLength_eq := by
    rw [unitLength_append, unitLength_append, hs.unitLength_eq, ht.unitLength_eq]
  hash_eq := hash_append_congr hs.hash_eq ht.hash_eq ht.unitLength_eq

theorem join
    {pieces : List (String × String)} (h : ∀ piece ∈ pieces, Alike piece.1 piece.2) :
    Alike (String.join (pieces.map Prod.fst)) (String.join (pieces.map Prod.snd)) := by
  induction pieces with
  | nil => exact refl _
  | cons piece pieces ih =>
      rw [List.forall_mem_cons] at h
      rw [List.map_cons, List.map_cons, String.join_cons, String.join_cons]
      exact h.1.append (ih h.2)

theorem collide {s t : String} (h : Alike s t) {threshold : Nat} (hlong : threshold < unitLength s) :
    Collide threshold s t :=
  ⟨hlong, h.unitLength_eq ▸ hlong, h.hash_eq⟩

end Alike

/-! ## Main result -/

/-- A text has one UTF-16 form, and its hash is the signed number that is congruent, modulo
`2 ^ 32`, to the polynomial with base 31 in the units.  The hash of a joined text comes from those
of its two parts and the length of the second.  A part can be replaced, in any place, by one of the
same length and hash; and texts that are joined from pieces which are pairwise alike are alike, and
collide as soon as they are longer than the threshold. -/
theorem hash_eq_polynomial (s : String) :
    (∃ us, IsUtf16 s.toList us ∧ (∀ other, IsUtf16 s.toList other → other = us) ∧
      unitLength s = us.length ∧
      (hash s).toInt =
        ((∑ i : Fin us.length, us[i] * 31 ^ (us.length - 1 - i) : Nat) : Int).bmod (2 ^ 32)) ∧
    (∀ t, (hash (s ++ t)).toInt =
      ((hash s).toInt * 31 ^ unitLength t + (hash t).toInt).bmod (2 ^ 32)) ∧
    (∀ t before after, unitLength s = unitLength t → hash s = hash t →
      hash (before ++ s ++ after) = hash (before ++ t ++ after)) ∧
    ∀ pieces : List (String × String),
      (∀ piece ∈ pieces, unitLength piece.1 = unitLength piece.2 ∧ hash piece.1 = hash piece.2) →
      let joined := String.join (pieces.map Prod.fst)
      let joined' := String.join (pieces.map Prod.snd)
      unitLength joined = unitLength joined' ∧ hash joined = hash joined' ∧
        ∀ threshold < unitLength joined, Collide threshold joined joined' := by
  refine ⟨⟨units s, isUtf16_units s.toList, ?_, rfl, toInt_hash s⟩, toInt_hash_append s, ?_, ?_⟩
  · intro other hother
    exact hother.eq_units
  · intro t before after hlength hhash
    have halike : Alike s t := ⟨hlength, hhash⟩
    exact (((Alike.refl before).append halike).append (Alike.refl after)).hash_eq
  · intro pieces hpieces joined joined'
    have halike : Alike joined joined' := by
      apply Alike.join
      intro piece hpiece
      exact ⟨(hpieces piece hpiece).1, (hpieces piece hpiece).2⟩
    exact ⟨halike.unitLength_eq, halike.hash_eq, fun threshold hlong => halike.collide hlong⟩

/-- Two texts of eight units that differ in one piece of two units. -/
theorem collide_replicate :
    hash "Aa" = hash "BB" ∧
      Collide 7 (String.join (List.replicate 4 "Aa"))
        (String.join ("BB" :: List.replicate 3 "Aa")) := by
  have hhash : hash "Aa" = hash "BB" := by decide
  have hlong : 7 < unitLength (String.join (List.replicate 4 "Aa")) := by
    simp [unitLength, units, unitsOf]
  have hpieces : ∀ piece ∈ ("Aa", "BB") :: List.replicate 3 ("Aa", "Aa"),
      unitLength piece.1 = unitLength piece.2 ∧ hash piece.1 = hash piece.2 := by
    rw [List.forall_mem_cons]
    refine ⟨⟨by simp [unitLength, units, unitsOf], hhash⟩, ?_⟩
    intro piece hpiece
    rw [List.eq_of_mem_replicate hpiece]
    exact ⟨rfl, rfl⟩
  have hcollide := ((hash_eq_polynomial "").2.2.2 _ hpieces).2.2 7
  simp only [List.map_cons, List.map_replicate] at hcollide
  exact ⟨hhash, hcollide hlong⟩

end Text
end ProgramFacts
