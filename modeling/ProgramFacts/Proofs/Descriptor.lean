import Mathlib.Data.List.TakeWhile
import ProgramFacts.Encoding.Instructions

/-!
# Laws of descriptors

What a descriptor begins with decides which type it denotes: an array, a class or a primitive type.
An unresolved type has no descriptor.  The class literals that are accepted are the descriptors of
arrays and classes.
-/

namespace ProgramFacts

theorem Primitive.letter_of_ofLetter?_eq_some
    {c : Char} {p : Primitive} (h : ofLetter? c = some p) : p.letter = c := by
  simpa using List.find?_some h

namespace TypeRef

/-- A descriptor at the front of a text is that of an array, of a class, or of a primitive type. -/
theorem readDescriptor_cases
    {cs after : List Char} {t : TypeRef} (h : readDescriptor cs = some (t, after)) :
    (∃ rest component, cs = '[' :: rest ∧ readDescriptor rest = some (component, after) ∧
      t = array component) ∨
    (∃ name, cs = 'L' :: (name ++ ';' :: after) ∧ name ≠ [] ∧ ';' ∉ name ∧
      t = named (String.ofList (substitute '/' '.' name))) ∨
    ∃ p : Primitive, cs = p.letter :: after ∧ t = primitive p := by
  fun_cases readDescriptor cs with
  | case1 => simp [readDescriptor] at h
  | case2 rest component rest' hrest =>
      rw [readDescriptor, hrest] at h
      obtain ⟨rfl, rfl⟩ : component.array = t ∧ rest' = after := by simpa using h
      exact Or.inl ⟨rest, component, rfl, hrest, rfl⟩
  | case3 rest hrest => simp [readDescriptor, hrest] at h
  | case4 rest name rest' hrest hempty =>
      have hname : name.isEmpty = true := hempty
      simp [readDescriptor, hrest, name, hname] at h
  | case5 rest name rest' hrest hname =>
      have hsplit : rest = name ++ ';' :: rest' := by
        rw [← hrest]
        exact List.takeWhile_append_dropWhile.symm
      have hno : ';' ∉ name := by
        intro hmem
        simpa using List.mem_takeWhile_imp hmem
      have hne : name ≠ [] := by simpa using hname
      obtain ⟨rfl, rfl⟩ :
          named (String.ofList (substitute '/' '.' name)) = t ∧ rest' = after := by
        have hread : readDescriptor ('L' :: rest) =
            some (named (String.ofList (substitute '/' '.' name)), rest') := by
          rw [readDescriptor]
          simp only [hrest]
          rw [if_neg hname]
        simpa [hread] using h
      exact Or.inr (Or.inl ⟨name, by rw [hsplit], hne, hno, rfl⟩)
  | case6 rest hrest =>
      rw [readDescriptor] at h
      split at h
      · exact absurd ‹_› (hrest _)
      · cases h
  | case7 c rest harray hnamed p hp =>
      obtain ⟨rfl, rfl⟩ : primitive p = t ∧ rest = after := by simpa [readDescriptor, hp] using h
      exact Or.inr (Or.inr ⟨p, by rw [Primitive.letter_of_ofLetter?_eq_some hp], rfl⟩)
  | case8 c rest harray hnamed hp => simp [readDescriptor, hp] at h

/-- No descriptor denotes an unresolved type. -/
theorem isResolved_of_readDescriptor
    {cs after : List Char} {t : TypeRef} (h : readDescriptor cs = some (t, after)) :
    t.isResolved = true := by
  induction t generalizing cs with
  | array component ih =>
      rcases readDescriptor_cases h with ⟨rest, inner, rfl, hrest, heq⟩ | ⟨name, -, -, -, heq⟩ |
        ⟨p, -, heq⟩
      · cases heq
        exact ih hrest
      · cases heq
      · cases heq
  | primitive p => rfl
  | named name => rfl
  | unresolved name =>
      rcases readDescriptor_cases h with ⟨rest, inner, -, -, heq⟩ | ⟨name', -, -, -, heq⟩ |
        ⟨p, -, heq⟩ <;> cases heq

theorem readDescriptor_of_ofDescriptor?
    {s : String} {t : TypeRef} (h : ofDescriptor? s = some t) :
    readDescriptor s.toList = some (t, []) := by
  unfold ofDescriptor? at h
  split at h
  · next heq => rwa [← Option.some.inj h]
  · cases h

theorem isResolved_of_ofDescriptor?
    {s : String} {t : TypeRef} (h : ofDescriptor? s = some t) : t.isResolved = true :=
  isResolved_of_readDescriptor (readDescriptor_of_ofDescriptor? h)

end TypeRef
/-! ## Class literals -/

namespace Encoding

theorem isClassLiteral_iff
    {literal : String} {t : TypeRef} (h : TypeRef.ofDescriptor? literal = some t) :
    isClassLiteral literal = true ↔ ∀ p, t ≠ .primitive p := by
  unfold isClassLiteral
  rcases TypeRef.readDescriptor_cases (TypeRef.readDescriptor_of_ofDescriptor? h) with
    ⟨rest, component, hcs, -, rfl⟩ | ⟨name, hcs, -, -, rfl⟩ | ⟨p, hcs, rfl⟩
  · simp [hcs]
  · have hlast : ('L' :: (name ++ [';'])).getLast? = some ';' := by
      rw [← List.cons_append]
      exact List.getLast?_concat
    simp [hcs, hlast]
  · rw [hcs]
    cases p <;> simp [Primitive.letter]

/-- The accepted class literals are the descriptors that denote no primitive type. -/
theorem literalType?_eq_some_iff {literal : String} {t : TypeRef} :
    literalType? literal = some t ↔
      TypeRef.ofDescriptor? literal = some t ∧ ∀ p, t ≠ .primitive p := by
  unfold literalType?
  cases hliteral : isClassLiteral literal with
  | false =>
      simp only [Bool.false_eq_true, if_false, false_iff, reduceCtorEq]
      rintro ⟨htype, hprimitive⟩
      rw [(isClassLiteral_iff htype).mpr hprimitive] at hliteral
      cases hliteral
  | true =>
      simp only [if_true]
      exact ⟨fun htype => ⟨htype, (isClassLiteral_iff htype).mp hliteral⟩, And.left⟩

end Encoding
end ProgramFacts
