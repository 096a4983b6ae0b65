import ProgramFacts.Proofs.Descriptor
import ProgramFacts.Proofs.SourceGrammar

/-!
# The grammar of descriptors

A descriptor is a number of opening brackets, and then the letter of a primitive type or a name
between `L` and `;`.  These texts are read as types and no others, and the descriptor of the type is
the same text with slashes for dots.  A resolved type that has a source form is read back from its
descriptor, whatever follows it, so that descriptors can stand one after another.
-/

namespace ProgramFacts
namespace TypeRef

/-! ## Renaming characters -/

theorem substitute_of_not_mem {old : Char} {cs : List Char} (h : old ∉ cs) (new : Char) :
    substitute old new cs = cs := by
  have hid : ∀ c ∈ cs, (if c == old then new else c) = id c := by
    intro c hc
    have hne : c ≠ old := fun heq => h (heq ▸ hc)
    simp [hne]
  rw [substitute, List.map_congr_left hid, List.map_id]

theorem substitute_substitute (old new : Char) (cs : List Char) :
    substitute old new (substitute new old cs) = substitute old new cs := by
  rw [substitute, substitute, substitute, List.map_map]
  apply List.map_congr_left
  intro c _
  by_cases hnew : c = new
  · simp [hnew]
  · simp [hnew]

theorem mem_of_mem_substitute
    {old new c : Char} {cs : List Char} (h : c ∈ substitute old new cs) : c = new ∨ c ∈ cs := by
  obtain ⟨d, hd, rfl⟩ := List.mem_map.mp h
  by_cases hold : d = old
  · exact Or.inl (by simp [hold])
  · exact Or.inr (by simpa [hold] using hd)

/-! ## Texts that denote types -/

/-- What a descriptor without brackets denotes. -/
inductive Denotes : List Char → TypeRef → Prop
  | primitive (p : Primitive) : Denotes [p.letter] (.primitive p)
  | named {name : List Char} (hname : name ≠ []) (hend : ';' ∉ name) :
      Denotes ('L' :: (name ++ [';'])) (.named (String.ofList (substitute '/' '.' name)))

theorem readDescriptor_class
    {name : List Char} (hname : name ≠ []) (hend : ';' ∉ name) (after : List Char) :
    readDescriptor ('L' :: (name ++ ';' :: after)) =
      some (named (String.ofList (substitute '/' '.' name)), after) := by
  have hchars : ∀ c ∈ name, (c != ';') = true := by
    intro c hc
    rw [bne_iff_ne]
    rintro rfl
    exact hend hc
  have htake : (name ++ ';' :: after).takeWhile (· != ';') = name := by
    rw [List.takeWhile_append_of_pos hchars]
    simp
  have hdrop : (name ++ ';' :: after).dropWhile (· != ';') = ';' :: after := by
    rw [List.dropWhile_append_of_pos hchars]
    simp
  have hisEmpty : ¬ name.isEmpty = true := by simpa using hname
  rw [readDescriptor]
  simp only [htake, hdrop]
  rw [if_neg hisEmpty]

/-- What denotes a type is read as this type, whatever follows. -/
theorem readDescriptor_of_denotes
    {cs : List Char} {b : TypeRef} (h : Denotes cs b) (n : Nat) (after : List Char) :
    readDescriptor (List.replicate n '[' ++ (cs ++ after)) = some (nest n b, after) := by
  induction n with
  | zero =>
      cases h with
      | primitive p => cases p <;> rfl
      | named hname hend =>
          have hread := readDescriptor_class hname hend after
          simpa [nest] using hread
  | succ n ih =>
      rw [List.replicate_succ, List.cons_append, readDescriptor, ih]
      rfl

theorem exists_denotes_of_readDescriptor
    {cs after : List Char} {t : TypeRef} (h : readDescriptor cs = some (t, after)) :
    ∃ n body b, cs = List.replicate n '[' ++ (body ++ after) ∧ Denotes body b ∧ t = nest n b := by
  induction t generalizing cs with
  | array component ih =>
      rcases readDescriptor_cases h with ⟨rest, inner, rfl, hrest, heq⟩ | ⟨name, -, -, -, heq⟩ |
        ⟨p, -, heq⟩
      · obtain rfl := array.inj heq
        obtain ⟨n, body, b, rfl, hbody, rfl⟩ := ih hrest
        exact ⟨n + 1, body, b, rfl, hbody, rfl⟩
      · cases heq
      · cases heq
  | _ =>
      rcases readDescriptor_cases h with ⟨rest, inner, -, -, heq⟩ | ⟨name, rfl, hname, hend, heq⟩ |
        ⟨p, rfl, heq⟩
      · cases heq
      · exact ⟨0, 'L' :: (name ++ [';']), _, by simp, .named hname hend, heq⟩
      · exact ⟨0, [p.letter], _, rfl, .primitive p, heq⟩

theorem ofDescriptor?_eq_some_iff {d : String} {t : TypeRef} :
    ofDescriptor? d = some t ↔
      ∃ n cs b, d.toList = List.replicate n '[' ++ cs ∧ Denotes cs b ∧ t = nest n b := by
  constructor
  · intro h
    have hread := exists_denotes_of_readDescriptor (readDescriptor_of_ofDescriptor? h)
    simpa only [List.append_nil] using hread
  · rintro ⟨n, cs, b, hd, hcs, rfl⟩
    have hread := readDescriptor_of_denotes hcs n []
    rw [List.append_nil, ← hd] at hread
    simp [ofDescriptor?, hread]

/-! ## Descriptors of types -/

theorem toList_descriptor_nest (n : Nat) (t : TypeRef) :
    (nest n t).descriptor.toList = List.replicate n '[' ++ t.descriptor.toList := by
  induction n with
  | zero => rfl
  | succ n ih => simp [nest, descriptor, ih, List.replicate_succ]

/-- What a text denotes is written as the text with slashes for dots. -/
theorem toList_descriptor_of_denotes {cs : List Char} {b : TypeRef} (h : Denotes cs b) :
    b.descriptor.toList = substitute '.' '/' cs := by
  cases h with
  | primitive p => cases p <;> decide
  | @named name hname hend =>
      have hslashes := substitute_substitute '.' '/' name
      have hwhole : substitute '.' '/' ('L' :: (name ++ [';'])) =
          'L' :: (substitute '.' '/' name ++ [';']) := by
        simp [substitute]
      rw [hwhole, ← hslashes]
      simp [descriptor]

/-- A resolved type that has a source form is denoted by its descriptor. -/
theorem denotes_of_spells
    {cs : List Char} {b : TypeRef} (h : Spells cs b) (hresolved : b.isResolved = true) :
    Denotes b.descriptor.toList b := by
  cases h with
  | unresolved hname => cases hresolved
  | primitive p =>
      have hletter : (TypeRef.primitive p).descriptor.toList = [p.letter] := by simp [descriptor]
      rw [hletter]
      exact .primitive p
  | named hname hkeyword =>
      have hslash : isNameChar '/' = false := by decide +kernel
      have hend : isNameChar ';' = false := by decide +kernel
      have hback : substitute '/' '.' (substitute '.' '/' cs) = cs := by
        rw [substitute_substitute, substitute_of_not_mem (hname.not_mem hslash)]
      have hne : substitute '.' '/' cs ≠ [] := by
        simpa [substitute] using hname.ne_nil
      have hnotEnd : ';' ∉ substitute '.' '/' cs := by
        intro hmem
        rcases mem_of_mem_substitute hmem with heq | hmem
        · cases heq
        · exact hname.not_mem hend hmem
      have hdescriptor : (TypeRef.named (String.ofList cs)).descriptor.toList =
          'L' :: (substitute '.' '/' cs ++ [';']) := by
        simp [descriptor]
      have hdenotes := Denotes.named hne hnotEnd
      rw [hback] at hdenotes
      rw [hdescriptor]
      exact hdenotes

theorem Readable.exists_denotes {t : TypeRef} (h : t.Readable) :
    ∃ n b, Denotes b.descriptor.toList b ∧ t = nest n b := by
  obtain ⟨⟨s, hs⟩, hresolved⟩ := h
  obtain ⟨b, hb, rfl⟩ := ofSource_eq_ok_iff.mp hs
  rw [isResolved_nest] at hresolved
  exact ⟨_, b, denotes_of_spells (ofBase_eq_ok_iff.mp hb) hresolved, rfl⟩

/-- A resolved type that has a source form is read back from its descriptor, whatever follows. -/
theorem Readable.readDescriptor_append {t : TypeRef} (h : t.Readable) (after : List Char) :
    readDescriptor (t.descriptor.toList ++ after) = some (t, after) := by
  obtain ⟨n, b, hb, rfl⟩ := h.exists_denotes
  rw [toList_descriptor_nest, List.append_assoc]
  exact readDescriptor_of_denotes hb n after

theorem Readable.ofDescriptor?_descriptor {t : TypeRef} (h : t.Readable) :
    ofDescriptor? t.descriptor = some t := by
  have hread := h.readDescriptor_append []
  rw [List.append_nil] at hread
  simp [ofDescriptor?, hread]

/-- A text is read as a descriptor exactly if it denotes a type under a number of opening brackets;
the type has as many array levels, and its own descriptor is the text with slashes for dots.  A type
that has a source form is read back from its descriptor exactly if it is resolved. -/
theorem ofDescriptor_iff_denotes :
    (∀ d : String,
      (∀ t, ofDescriptor? d = some t ↔
        ∃ n cs b, d.toList = List.replicate n '[' ++ cs ∧ Denotes cs b ∧ t = nest n b) ∧
      ∀ t, ofDescriptor? d = some t → t.descriptor.toList = substitute '.' '/' d.toList) ∧
    ∀ s t, ofSource s = .ok t → (ofDescriptor? t.descriptor = some t ↔ t.isResolved = true) := by
  refine ⟨?_, ?_⟩
  · intro d
    refine ⟨fun t => ofDescriptor?_eq_some_iff, ?_⟩
    intro t h
    obtain ⟨n, cs, b, hd, hcs, rfl⟩ := ofDescriptor?_eq_some_iff.mp h
    have hbrackets : substitute '.' '/' (List.replicate n '[') = List.replicate n '[' := by
      simp [substitute]
    calc
      (nest n b).descriptor.toList = List.replicate n '[' ++ b.descriptor.toList :=
        toList_descriptor_nest n b
      _ = substitute '.' '/' (List.replicate n '[') ++ substitute '.' '/' cs := by
        rw [toList_descriptor_of_denotes hcs, hbrackets]
      _ = substitute '.' '/' d.toList := by
        rw [hd, substitute, substitute, substitute, List.map_append]
  · intro s t hs
    constructor
    · exact isResolved_of_ofDescriptor?
    · intro hresolved
      exact Readable.ofDescriptor?_descriptor ⟨⟨s, hs⟩, hresolved⟩

/-- A descriptor with a dot where a slash belongs, and the one that is written for its type. -/
theorem ofDescriptor_iff_denotes_dottedClass :
    let t := array (array (named "p.q.R"))
    Denotes "Lp/q.R;".toList (named "p.q.R") ∧ ofDescriptor? "[[Lp/q.R;" = some t ∧
      t.descriptor = "[[Lp/q/R;" ∧ ofSource "p.q.R[][]" = .ok t ∧
      ofDescriptor? "[[Lp/q/R;" = some t := by
  intro t
  have hdenotes : Denotes "Lp/q.R;".toList (named "p.q.R") := by
    have hne : "p/q.R".toList ≠ [] := by decide
    have hend : ';' ∉ "p/q.R".toList := by decide
    exact .named hne hend
  obtain ⟨hread, hback⟩ := ofDescriptor_iff_denotes
  obtain ⟨hiff, hwrite⟩ := hread "[[Lp/q.R;"
  have ht : ofDescriptor? "[[Lp/q.R;" = some t :=
    (hiff t).mpr ⟨2, "Lp/q.R;".toList, named "p.q.R", by decide, hdenotes, rfl⟩
  have hdescriptor : t.descriptor = "[[Lp/q/R;" := by
    apply String.toList_inj.mp
    rw [hwrite t ht]
    decide
  have hsource : ofSource "p.q.R[][]" = .ok t := by decide +kernel
  refine ⟨hdenotes, ht, hdescriptor, hsource, ?_⟩
  rw [← hdescriptor]
  exact (hback _ t hsource).mpr rfl

end TypeRef
end ProgramFacts
