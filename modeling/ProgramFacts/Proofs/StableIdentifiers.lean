import Mathlib.Data.Nat.Digits.Defs
import ProgramFacts.Proofs.Calls
import ProgramFacts.Proofs.TextHash

/-!
# Bounded and stable identifiers

A tag has a few units only, whatever text it stands for.  An identifier is therefore never longer
than the threshold and the longest tag; and if the threshold leaves room for a tag, an identifier is
its own identifier.
-/

namespace ProgramFacts

/-! ## The length of tags -/

theorem Text.unitLength_of_ascii {s : String} (h : ∀ c ∈ s.toList, c.toNat < 0x10000) :
    unitLength s = s.length := by
  have hunits : units s = s.toList.map Char.toNat := by
    rw [units, List.map_eq_flatMap]
    apply List.flatMap_congr
    intro c hc
    rw [unitsOf, if_pos (h c hc)]
  rw [unitLength, hunits, List.length_map, String.length_toList]

/-- The decimal form of a number of 32 bits has at most ten digits and a sign. -/
theorem length_signedDecimal_le (z : Int32) : (signedDecimal z.toInt).length ≤ 11 := by
  have hlow : -2 ^ 31 ≤ z.toInt := Int32.le_toInt z
  have hhigh : z.toInt < 2 ^ 31 := Int32.toInt_lt z
  cases h : z.toInt with
  | ofNat n =>
      rw [h, Int.ofNat_eq_natCast] at hhigh
      have hdigits : n.repr.length ≤ 10 := Nat.repr_length n 10 (by decide) (by omega)
      exact hdigits.trans (by decide)
  | negSucc n =>
      rw [h, Int.negSucc_eq] at hlow
      have hdigits : (n + 1).repr.length ≤ 10 :=
        Nat.repr_length (n + 1) 10 (by decide) (by omega)
      rw [signedDecimal, String.length_append]
      exact Nat.add_le_add_left hdigits 1

theorem unitLength_signedDecimal (z : Int) :
    Text.unitLength (signedDecimal z) = (signedDecimal z).length := by
  apply Text.unitLength_of_ascii
  intro c hc
  rcases mem_signedDecimal hc with rfl | hdigit
  · decide
  · have hcode : c.toNat ≤ 57 := (Char.isDigit_iff_toNat.mp hdigit).2
    omega

/-- A tag is its label and at most sixteen more units. -/
theorem unitLength_hashTag_le (label raw : String) :
    Text.unitLength (hashTag label raw) ≤ Text.unitLength label + 16 := by
  have hdecimal := length_signedDecimal_le (Text.hash raw)
  have hopen : Text.unitLength "<<" = 2 := by decide
  have hcolon : Text.unitLength ":" = 1 := by decide
  have hclose : Text.unitLength ">>" = 2 := by decide
  rw [hashTag, Text.unitLength_append, Text.unitLength_append, Text.unitLength_append,
    Text.unitLength_append, unitLength_signedDecimal, hopen, hcolon, hclose]
  omega

/-! ## Shortened texts -/

theorem unitLength_shorten_le (label : String) (threshold : Nat) (raw : String) :
    Text.unitLength (shorten label threshold raw) ≤
      max threshold (Text.unitLength label + 16) := by
  unfold shorten
  split
  · next hshort => exact hshort.trans (Nat.le_max_left _ _)
  · exact (unitLength_hashTag_le label raw).trans (Nat.le_max_right _ _)

/-- If the threshold leaves room for a tag, what is shortened is not shortened any further. -/
theorem shorten_shorten
    {label : String} {threshold : Nat} (h : Text.unitLength label + 16 ≤ threshold)
    (raw : String) :
    shorten label threshold (shorten label threshold raw) = shorten label threshold raw := by
  have hbound := unitLength_shorten_le label threshold raw
  rw [Nat.max_eq_left h] at hbound
  rw [shorten, if_pos hbound]

/-! ## Quoted strings -/

/-- Whether a text is neither empty nor padded with blanks. -/
def Text.Unpadded (s : String) : Prop :=
  s ≠ "" ∧ trimmed s = s

/-- A text in angle brackets has no blanks at its ends. -/
theorem Text.unpadded_of_angles
    {s : String} (middle : List Char) (h : s.toList = '<' :: (middle ++ ['>'])) : Unpadded s := by
  constructor
  · rintro rfl
    cases h
  · have hopen : isBlank '<' = false := by decide
    have hclose : isBlank '>' = false := by decide
    rw [← String.toList_inj, trimmed, String.toList_ofList, h]
    simp [trim, trimEnd, trimStart, hopen, hclose]

theorem quoteIfPadded_of_unpadded {s : String} (h : Text.Unpadded s) : quoteIfPadded s = s :=
  if_pos h

theorem unpadded_quoteIfPadded (s : String) : Text.Unpadded (quoteIfPadded s) := by
  unfold quoteIfPadded
  split
  · next h => exact h
  · exact Text.unpadded_of_angles ("<\"".toList ++ s.toList ++ "\">".toList) (by simp)

theorem unpadded_hashTag (label raw : String) : Text.Unpadded (hashTag label raw) :=
  Text.unpadded_of_angles
    ("<".toList ++ label.toList ++ ":".toList ++
      (signedDecimal (Text.hash raw).toInt).toList ++ ">".toList)
    (by simp [hashTag])

namespace EncoderSettings

/-- The identifier of a string is not quoted again, if quotes are asked for at all. -/
theorem rawString_stringId (settings : EncoderSettings) (s : String) :
    settings.rawString (settings.stringId s) = settings.stringId s := by
  cases hquote : settings.quotePaddedStrings with
  | false => rw [rawString, hquote]; rfl
  | true =>
      have hunpadded : Text.Unpadded (settings.stringId s) := by
        rw [stringId, shorten]
        split
        · rw [rawString, hquote]
          exact unpadded_quoteIfPadded s
        · exact unpadded_hashTag _ _
      rw [rawString, hquote, if_pos rfl, quoteIfPadded_of_unpadded hunpadded]

theorem stringId_stringId
    {settings : EncoderSettings} (h : 20 ≤ settings.stringHashThreshold) (s : String) :
    settings.stringId (settings.stringId s) = settings.stringId s := by
  rw [stringId, rawString_stringId]
  exact shorten_shorten h _

theorem signatureId_signatureId
    {settings : EncoderSettings} (h : 27 ≤ settings.signatureHashThreshold) (signature : String) :
    settings.signatureId (settings.signatureId signature) = settings.signatureId signature :=
  shorten_shorten h signature

end EncoderSettings

/-! ## Main result -/

namespace Encoder

theorem result_call_stringConstant (e : Encoder) (s : String) :
    (e.call (.stringConstant s)).result = .ok (.text (e.settings.stringId s)) := rfl

theorem result_call_signature (e : Encoder) (s : String) :
    (e.call (.signature s)).result = .ok (.text (e.settings.signatureId s)) := rfl

theorem result_call_signatureId (e : Encoder) (s : String) :
    (e.call (.signatureId s)).result = .ok (.text (e.settings.signatureId s)) := rfl

end Encoder

/-- The identifier of a string constant has at most 20 units, or as many as the threshold allows,
and that of a signature at most 27.  If the threshold allows for that many, the identifier is its own
identifier, whatever is encoded in between, and whether or not padded strings are quoted. -/
theorem identifiers_bounded_and_stable (e : Encoder) (s : String) :
    ∃ id signature,
      (e.call (.stringConstant s)).result = .ok (.text id) ∧
      (e.call (.signature s)).result = .ok (.text signature) ∧
      (e.call (.signatureId s)).result = .ok (.text signature) ∧
      Text.unitLength id ≤ max e.settings.stringHashThreshold 20 ∧
      Text.unitLength signature ≤ max e.settings.signatureHashThreshold 27 ∧
      (20 ≤ e.settings.stringHashThreshold → ∀ cs,
        ((e.calls cs).call (.stringConstant id)).result = .ok (.text id)) ∧
      (27 ≤ e.settings.signatureHashThreshold → ∀ cs,
        ((e.calls cs).call (.signature signature)).result = .ok (.text signature) ∧
          ((e.calls cs).call (.signatureId signature)).result = .ok (.text signature)) := by
  refine ⟨e.settings.stringId s, e.settings.signatureId s, e.result_call_stringConstant s,
    e.result_call_signature s, e.result_call_signatureId s, ?_, ?_, ?_, ?_⟩
  · exact unitLength_shorten_le "HASH" e.settings.stringHashThreshold _
  · exact unitLength_shorten_le "METHOD HASH" e.settings.signatureHashThreshold _
  · intro h cs
    rw [Encoder.result_call_stringConstant, Encoder.settings_calls,
      EncoderSettings.stringId_stringId h]
  · intro h cs
    rw [Encoder.result_call_signature, Encoder.result_call_signatureId, Encoder.settings_calls,
      EncoderSettings.signatureId_signatureId h]
    exact ⟨rfl, rfl⟩

/-- A text of 28 units with the least hash: null characters at the front do not change it. -/
def leastHashText : String :=
  String.ofList (List.replicate 10 (Char.ofNat 0) ++ "polygenelubricants".toList)

/-- Settings under which a tag is as long as an identifier can be. -/
def tightThresholds : EncoderSettings :=
  ⟨20, 27, false⟩

/-- The least hash has the longest tags, and these are kept under the least thresholds that leave
room for them. -/
theorem identifiers_bounded_and_stable_leastHashText :
    let e := Encoder.fresh tightThresholds true
    (e.call (.stringConstant leastHashText)).result = .ok (.text "<<HASH:-2147483648>>") ∧
      (e.call (.signature leastHashText)).result = .ok (.text "<<METHOD HASH:-2147483648>>") ∧
      Text.unitLength "<<HASH:-2147483648>>" = 20 ∧
      Text.unitLength "<<METHOD HASH:-2147483648>>" = 27 ∧
      (e.call (.stringConstant "<<HASH:-2147483648>>")).result =
        .ok (.text "<<HASH:-2147483648>>") ∧
      (e.call (.signature "<<METHOD HASH:-2147483648>>")).result =
        .ok (.text "<<METHOD HASH:-2147483648>>") := by
  intro e
  have hstring : (e.call (.stringConstant leastHashText)).result =
      .ok (.text "<<HASH:-2147483648>>") := by decide +kernel
  have hsignature : (e.call (.signature leastHashText)).result =
      .ok (.text "<<METHOD HASH:-2147483648>>") := by decide +kernel
  obtain ⟨id, signature, hid, hsigned, -, -, -, hagain, hagain'⟩ :=
    identifiers_bounded_and_stable e leastHashText
  obtain rfl : id = "<<HASH:-2147483648>>" := by
    rw [hstring] at hid
    cases hid
    rfl
  obtain rfl : signature = "<<METHOD HASH:-2147483648>>" := by
    rw [hsignature] at hsigned
    cases hsigned
    rfl
  exact ⟨hstring, hsignature, by simp [Text.unitLength, Text.units, Text.unitsOf],
    by simp [Text.unitLength, Text.units, Text.unitsOf], hagain (by decide) [],
    (hagain' (by decide) []).1⟩

end ProgramFacts
