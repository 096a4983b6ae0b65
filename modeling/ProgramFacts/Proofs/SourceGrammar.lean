import Mathlib.Data.List.DropRight
import ProgramFacts.Proofs.Calls
import ProgramFacts.Proofs.SourceForm

/-!
# The grammar of source forms

Trim a text, take a pair of brackets off its end, and go on until there is none: what is left is a
base.  The text is the source form of a type exactly if its base is a question mark and a name, the
keyword of a primitive type, or the dotted name of a class, and the type has one array level for
each pair that was taken off.  Its name spells the same type without the blanks.
-/

namespace ProgramFacts

/-! ## Trimming -/

namespace Text

/-- Nothing is trimmed from the front of a text if nothing is trimmed from a longer one. -/
theorem trimStart_of_isPrefix
    {front cs : List Char} (hfront : front <+: cs) (h : trimStart cs = cs) :
    trimStart front = front := by
  cases front with
  | nil => rfl
  | cons c front =>
      obtain ⟨rest, rfl⟩ := hfront
      rw [List.cons_append] at h
      by_cases hblank : isBlank c = true
      · -- a blank at the front would have been trimmed
        have hlength := congrArg List.length h
        rw [trimStart, List.dropWhile_cons_of_pos hblank, List.length_cons] at hlength
        have hle := List.length_dropWhile_le isBlank (front ++ rest)
        omega
      · rw [trimStart, List.dropWhile_cons_of_neg hblank]

theorem trimStart_trimStart (cs : List Char) : trimStart (trimStart cs) = trimStart cs :=
  List.dropWhile_idempotent _ _

theorem isPrefix_trimEnd (cs : List Char) : trimEnd cs <+: cs :=
  List.rdropWhile_prefix isBlank cs

theorem trimStart_trim (cs : List Char) : trimStart (trim cs) = trim cs :=
  trimStart_of_isPrefix (isPrefix_trimEnd _) (trimStart_trimStart cs)

end Text

/-! ## Keywords -/

namespace Primitive

theorem ofName?_eq_some_iff {s : String} {p : Primitive} : ofName? s = some p ↔ p.name = s := by
  constructor
  · exact name_of_ofName?_eq_some
  · rintro rfl
    cases p <;> decide

theorem ofName?_eq_none_iff {s : String} : ofName? s = none ↔ ∀ p : Primitive, p.name ≠ s := by
  simp only [Option.eq_none_iff_forall_ne_some, ne_eq, ofName?_eq_some_iff]

theorem name_injective : Function.Injective name := by
  intro p p' h
  have hread := ofName?_eq_some_iff.mpr h
  rw [ofName?_eq_some_iff.mpr rfl] at hread
  exact (Option.some.inj hread).symm

end Primitive

theorem Encoder.answer_typeId
    {e : Encoder} {t : TypeRef} {answer : Answer}
    (h : (e.call (.typeId t)).result = .ok answer) : answer = .text t.name :=
  ((result_perform_eq_ok_iff _ _ _).mp h).2.symm

namespace TypeRef

/-! ## Taking off blanks -/

theorem peelReversed_of_isBlank {c : Char} (h : Text.isBlank c = true) (cs : List Char) :
    peelReversed (c :: cs) = peelReversed cs := by
  conv_lhs => unfold peelReversed
  split
  · cases ‹_ = []›
  · next heq =>
      obtain ⟨rfl, rfl⟩ := List.cons.inj heq
      exact absurd h (by decide)
  · next heq =>
      obtain ⟨rfl, rfl⟩ := List.cons.inj heq
      rw [if_pos h]

theorem peelReversed_trimStart (cs : List Char) :
    peelReversed (Text.trimStart cs) = peelReversed cs := by
  induction cs with
  | nil => rfl
  | cons c cs ih =>
      by_cases hblank : Text.isBlank c = true
      · rw [peelReversed_of_isBlank hblank, ← ih, Text.trimStart,
          List.dropWhile_cons_of_pos hblank, Text.trimStart]
      · rw [Text.trimStart, List.dropWhile_cons_of_neg hblank]

theorem peelReversed_blanks {blanks : List Char} (h : ∀ c ∈ blanks, Text.isBlank c = true) :
    peelReversed blanks = ([], 0) := by
  rw [← peelReversed_trimStart, Text.trimStart, List.dropWhile_eq_nil_iff.mpr h]
  rfl

/-- Blanks at the far end are still there when nothing more is taken off, and are trimmed then. -/
theorem peelReversed_append_blanks
    {blanks : List Char} (h : ∀ c ∈ blanks, Text.isBlank c = true) (cs : List Char) :
    Text.trimStart (peelReversed (cs ++ blanks)).1.reverse =
        Text.trimStart (peelReversed cs).1.reverse ∧
      (peelReversed (cs ++ blanks)).2 = (peelReversed cs).2 := by
  fun_induction peelReversed cs with
  | case1 =>
      rw [List.nil_append, peelReversed_blanks h]
      exact ⟨rfl, rfl⟩
  | case2 rest base levels hrest ih =>
      rw [List.cons_append, List.cons_append, peelReversed_brackets]
      rw [hrest] at ih
      exact ⟨ih.1, congrArg (· + 1) ih.2⟩
  | case3 c rest hbrackets hblank ih =>
      rw [List.cons_append, peelReversed_of_isBlank hblank]
      exact ih
  | case4 c rest hbrackets hblank =>
      have hsettled : Settled (c :: (rest ++ blanks)) := by
        intro d after hcs
        obtain ⟨rfl, rfl⟩ := List.cons.inj hcs
        refine ⟨by simpa using hblank, ?_⟩
        rintro rfl hhead
        cases rest with
        | nil =>
            have hmem : '[' ∈ blanks := List.mem_of_mem_head? hhead
            exact absurd (h '[' hmem) (by decide)
        | cons d rest =>
            obtain rfl : d = '[' := by simpa using hhead
            exact hbrackets rest rfl rfl
      rw [List.cons_append, peelReversed_of_settled hsettled, ← List.cons_append,
        List.reverse_append]
      refine ⟨?_, rfl⟩
      apply List.dropWhile_append_of_pos
      intro d hd
      exact h d (List.mem_reverse.mp hd)

theorem peel_trimEnd (cs : List Char) : peel (Text.trimEnd cs) = peel cs := by
  rw [peel, peel, Text.trimEnd, List.reverse_reverse, peelReversed_trimStart]

theorem peel_trimStart (cs : List Char) : peel (Text.trimStart cs) = peel cs := by
  have hblanks : ∀ c ∈ (cs.takeWhile Text.isBlank).reverse, Text.isBlank c = true := by
    intro c hc
    exact List.mem_takeWhile_imp (List.mem_reverse.mp hc)
  have hreverse : cs.reverse =
      (Text.trimStart cs).reverse ++ (cs.takeWhile Text.isBlank).reverse := by
    rw [← List.reverse_append, Text.trimStart, List.takeWhile_append_dropWhile]
  obtain ⟨hbase, hlevels⟩ := peelReversed_append_blanks hblanks (Text.trimStart cs).reverse
  rw [← hreverse] at hbase hlevels
  simp only [peel, hbase, hlevels]

theorem peel_trim (cs : List Char) : peel (Text.trim cs) = peel cs := by
  rw [Text.trim, peel_trimEnd, peel_trimStart]

/-! ## Taking off brackets -/

/-- What is left of a text, and how many pairs of brackets are gone, once its ends are trimmed and a
pair of brackets is taken off its end as often as there is one. -/
inductive Leaves : List Char → List Char → Nat → Prop
  | settled {cs : List Char} (hsettled : ∀ front, Text.trim cs ≠ front ++ ['[', ']']) :
      Leaves cs (Text.trim cs) 0
  | level {cs front base : List Char} {levels : Nat}
      (hlevel : Text.trim cs = front ++ ['[', ']']) (hrest : Leaves front base levels) :
      Leaves cs base (levels + 1)

theorem peel_of_brackets {cs front : List Char} (h : Text.trim cs = front ++ ['[', ']']) :
    peel cs = ((peel front).1, (peel front).2 + 1) := by
  rw [← peel_trim, h]
  exact peel_append_brackets front 1

theorem peel_of_no_brackets
    {cs : List Char} (h : ∀ front, Text.trim cs ≠ front ++ ['[', ']']) :
    peel cs = (Text.trim cs, 0) := by
  have hsettled : Settled (Text.trim cs).reverse := by
    intro c rest hcs
    have htrimmed : (Text.trim cs).reverse = Text.trimStart (Text.trimStart cs).reverse := by
      rw [Text.trim, Text.trimEnd, List.reverse_reverse]
    refine ⟨?_, ?_⟩
    · have hhead : (Text.trimStart (Text.trimStart cs).reverse).head? = some c := by
        rw [← htrimmed, hcs, List.head?_cons]
      have hnot := List.head?_dropWhile_not Text.isBlank (Text.trimStart cs).reverse
      rw [Text.trimStart] at hhead
      simpa [hhead] using hnot
    · rintro rfl hhead
      obtain ⟨front, rfl⟩ := List.head?_eq_some_iff.mp hhead
      apply h front.reverse
      rw [← List.reverse_reverse (Text.trim cs), hcs]
      simp
  rw [← peel_trim, peel, peelReversed_of_settled hsettled]
  simp only [List.reverse_reverse, Text.trimStart_trim]

theorem leaves_iff {cs base : List Char} {levels : Nat} :
    Leaves cs base levels ↔ peel cs = (base, levels) := by
  constructor
  · intro h
    induction h with
    | settled hsettled => exact peel_of_no_brackets hsettled
    | level hlevel hrest ih => rw [peel_of_brackets hlevel, ih]
  · intro h
    induction levels generalizing cs with
    | zero =>
        by_cases hbrackets : ∃ front, Text.trim cs = front ++ ['[', ']']
        · obtain ⟨front, hfront⟩ := hbrackets
          rw [peel_of_brackets hfront] at h
          cases (Prod.mk.inj h).2
        · have hsettled := not_exists.mp hbrackets
          rw [peel_of_no_brackets hsettled] at h
          rw [← (Prod.mk.inj h).1]
          exact .settled hsettled
    | succ levels ih =>
        by_cases hbrackets : ∃ front, Text.trim cs = front ++ ['[', ']']
        · obtain ⟨front, hfront⟩ := hbrackets
          rw [peel_of_brackets hfront] at h
          obtain ⟨hbase, hlevels⟩ := Prod.mk.inj h
          exact .level hfront (ih (Prod.ext hbase (Nat.succ.inj hlevels)))
        · rw [peel_of_no_brackets (not_exists.mp hbrackets)] at h
          cases (Prod.mk.inj h).2

/-! ## Bases -/

/-- Whether a text is a dotted name. -/
structure IsDottedName (cs : List Char) : Prop where
  ne_nil : cs ≠ []
  chars : ∀ c ∈ cs, Text.isAlphanumeric c = true ∨ c ∈ ['_', '$', '.', '-']
  head : cs.head? ≠ some '.'
  last : cs.getLast? ≠ some '.'

/-- What a base spells.  A keyword is not the name of a class. -/
inductive Spells : List Char → TypeRef → Prop
  | unresolved {name : List Char} (hname : name ≠ []) :
      Spells ('?' :: name) (.unresolved (String.ofList name))
  | primitive (p : Primitive) : Spells p.name.toList (.primitive p)
  | named {cs : List Char} (hname : IsDottedName cs)
      (hkeyword : ∀ p : Primitive, p.name.toList ≠ cs) : Spells cs (.named (String.ofList cs))

theorem isNameChar_iff (c : Char) :
    isNameChar c = true ↔ Text.isAlphanumeric c = true ∨ c ∈ ['_', '$', '.', '-'] := by
  simp [isNameChar, or_assoc]

theorem isClassName_iff (cs : List Char) : isClassName cs = true ↔ IsDottedName cs := by
  simp only [isClassName, Bool.and_eq_true, bne_iff_ne, List.all_eq_true, isNameChar_iff,
    Bool.not_eq_true', List.isEmpty_eq_false_iff]
  constructor
  · rintro ⟨⟨⟨hne, hchars⟩, hhead⟩, hlast⟩
    exact ⟨hne, hchars, hhead, hlast⟩
  · intro h
    exact ⟨⟨⟨h.ne_nil, h.chars⟩, h.head⟩, h.last⟩

theorem IsDottedName.not_mem {cs : List Char} (h : IsDottedName cs) {c : Char}
    (hc : isNameChar c = false) : c ∉ cs := by
  intro hmem
  rw [(isNameChar_iff c).mpr (h.chars c hmem)] at hc
  cases hc

theorem isNameChar_question : isNameChar '?' = false := by
  decide +kernel

theorem question_not_mem_primitive (p : Primitive) : '?' ∉ p.name.toList := by
  cases p <;> decide

/-- A text with a question mark in front spells an unresolved type and nothing else. -/
theorem spells_question_iff {name : List Char} {t : TypeRef} :
    Spells ('?' :: name) t ↔ name ≠ [] ∧ t = unresolved (String.ofList name) := by
  constructor
  · intro h
    generalize hcs : '?' :: name = cs at h
    cases h with
    | unresolved hname =>
        obtain rfl := (List.cons.inj hcs).2
        exact ⟨hname, rfl⟩
    | primitive p => exact absurd (hcs ▸ List.mem_cons_self) (question_not_mem_primitive p)
    | named hname hkeyword =>
        exact absurd (hcs ▸ List.mem_cons_self) (hname.not_mem isNameChar_question)
  · rintro ⟨hname, rfl⟩
    exact .unresolved hname

theorem not_spells_nil (t : TypeRef) : ¬ Spells [] t := by
  intro h
  generalize hcs : ([] : List Char) = cs at h
  cases h with
  | unresolved hname => cases hcs
  | primitive p =>
      cases p <;> simp [Primitive.name] at hcs
  | named hname hkeyword => exact hname.ne_nil hcs.symm

theorem spells_primitive_iff (p : Primitive) (t : TypeRef) :
    Spells p.name.toList t ↔ t = primitive p := by
  constructor
  · intro h
    generalize hcs : p.name.toList = cs at h
    cases h with
    | unresolved hname => exact absurd (hcs ▸ List.mem_cons_self) (question_not_mem_primitive p)
    | primitive p' =>
        have hname : p.name = p'.name := String.toList_inj.mp hcs
        rw [Primitive.name_injective hname]
    | named hname hkeyword => exact absurd hcs (hkeyword p)
  · rintro rfl
    exact .primitive p

/-- What a text without a question mark in front spells, if it is no keyword. -/
theorem spells_iff_of_not_keyword
    {cs : List Char} (hmark : ∀ name, cs ≠ '?' :: name)
    (hkeyword : ∀ p : Primitive, p.name.toList ≠ cs) (t : TypeRef) :
    Spells cs t ↔ IsDottedName cs ∧ t = named (String.ofList cs) := by
  constructor
  · intro h
    cases h with
    | unresolved hname => exact absurd rfl (hmark _)
    | primitive p => exact absurd rfl (hkeyword p)
    | named hname _ => exact ⟨hname, rfl⟩
  · rintro ⟨hname, rfl⟩
    exact .named hname hkeyword

/-- A base is read as what it spells. -/
theorem ofBase_eq_ok_iff {cs : List Char} {t : TypeRef} : ofBase cs = .ok t ↔ Spells cs t := by
  unfold ofBase
  split
  · simp [not_spells_nil]
  · simp [spells_question_iff]
  · next name hname => simp [spells_question_iff, show name ≠ [] from hname, eq_comm]
  · next hnil hempty hmark =>
      have hmark : ∀ name, cs ≠ '?' :: name := fun name => hmark name
      split
      · next p hp =>
          have hcs : cs = p.name.toList := by
            rw [Primitive.ofName?_eq_some_iff.mp hp, String.toList_ofList]
          rw [hcs, spells_primitive_iff, Except.ok.injEq, eq_comm]
      · next hp =>
          have hkeyword : ∀ p : Primitive, p.name.toList ≠ cs := by
            rintro p rfl
            exact Primitive.ofName?_eq_none_iff.mp hp p String.ofList_toList.symm
          rw [spells_iff_of_not_keyword hmark hkeyword, ← isClassName_iff]
          split
          · next hclass => simp [hclass, eq_comm]
          · next hclass => simp [hclass]

/-- A base that is refused is empty, or is named by the error. -/
theorem error_of_ofBase {cs : List Char} {e : SourceError} (h : ofBase cs = .error e) :
    e = if cs = [] then .empty else .malformed (String.ofList cs) := by
  unfold ofBase at h
  split at h
  · cases h
    rfl
  · cases h
    rfl
  · cases h
  · next hnil hempty hmark =>
      rw [if_neg hnil]
      split at h
      · cases h
      · split at h
        · cases h
        · cases h
          rfl

theorem ofSource_eq_error_iff {s : String} {e : SourceError} :
    ofSource s = .error e ↔
      (∀ t, ¬ Spells (peel s.toList).1 t) ∧
        e = if (peel s.toList).1 = [] then .empty
          else .malformed (String.ofList (peel s.toList).1) := by
  have hsource : ofSource s = .error e ↔ ofBase (peel s.toList).1 = .error e := by
    unfold ofSource
    cases h : ofBase (peel s.toList).1 <;> simp [h, Except.map]
  rw [hsource]
  constructor
  · intro h
    refine ⟨?_, error_of_ofBase h⟩
    intro t ht
    rw [ofBase_eq_ok_iff.mpr ht] at h
    cases h
  · rintro ⟨hnone, he⟩
    cases h : ofBase (peel s.toList).1 with
    | ok t => exact absurd (ofBase_eq_ok_iff.mp h) (hnone t)
    | error e' => rw [he, error_of_ofBase h]

/-! ## Reading types -/

/-- Every text leaves one base and a number of array levels.  The text is read as a type exactly if
its base spells one, and the type has these array levels; else the error says that the base is
empty, or names it.  The name of a type that was read is its base with the brackets, and is read as
the same type; so different types have different names, and encoders answer different texts for
them. -/
theorem ofSource_iff_spells (s : String) :
    ∃ base levels,
      (∀ cs n, Leaves s.toList cs n ↔ cs = base ∧ n = levels) ∧
      (∀ t, ofSource s = .ok t ↔ ∃ b, Spells base b ∧ t = nest levels b) ∧
      (ofSource s = .error .empty ↔ base = []) ∧
      (∀ text, ofSource s = .error (.malformed text) ↔
        base ≠ [] ∧ (∀ b, ¬ Spells base b) ∧ text = String.ofList base) ∧
      ∀ t, ofSource s = .ok t →
        t.name.toList = base ++ brackets levels ∧ ofSource t.name = .ok t ∧
        ∀ s' t', ofSource s' = .ok t' →
          (t.name = t'.name → t = t') ∧
          ∀ (e e' : Encoder) (answer : Answer), (e.call (.typeId t)).result = .ok answer →
            (e'.call (.typeId t')).result = .ok answer → t = t' := by
  refine ⟨(peel s.toList).1, (peel s.toList).2, ?_, ?_, ?_, ?_, ?_⟩
  · intro cs n
    rw [leaves_iff, Prod.ext_iff, eq_comm, eq_comm (a := n)]
  · intro t
    simp only [ofSource_eq_ok_iff, ofBase_eq_ok_iff]
  · rw [ofSource_eq_error_iff]
    by_cases hbase : (peel s.toList).1 = []
    · simp [hbase, not_spells_nil]
    · simp [hbase]
  · intro text
    rw [ofSource_eq_error_iff]
    by_cases hbase : (peel s.toList).1 = []
    · simp [hbase]
    · simp [hbase]
  · intro t ht
    have hname := ofSource_name ht
    refine ⟨?_, hname, ?_⟩
    · obtain ⟨b, hb, rfl⟩ := ofSource_eq_ok_iff.mp ht
      rw [toList_name_nest, toList_name_of_ofBase hb]
    · intro s' t' ht'
      have hinjective : t.name = t'.name → t = t' := eq_of_name_eq hname (ofSource_name ht')
      refine ⟨hinjective, ?_⟩
      intro e e' answer h h'
      have hanswers := (Encoder.answer_typeId h).symm.trans (Encoder.answer_typeId h')
      exact hinjective (Answer.text.inj hanswers)

/-- A source form with blanks of three kinds. -/
theorem ofSource_iff_spells_spacedArray :
    let s := "\u2003a.B-1 [] \t[]"
    let t := array (array (named "a.B-1"))
    Leaves s.toList "a.B-1".toList 2 ∧ Spells "a.B-1".toList (named "a.B-1") ∧
      ofSource s = .ok t ∧ ofSource "a.B-1[][]" = .ok t := by
  intro s t
  have hleft : Leaves s.toList "a.B-1".toList 2 := leaves_iff.mpr (by decide +kernel)
  have hspells : Spells "a.B-1".toList (named "a.B-1") := by
    apply Spells.named ((isClassName_iff _).mp (by decide +kernel))
    intro p
    cases p <;> decide
  obtain ⟨base, levels, hleaves, hread, -, -, hok⟩ := ofSource_iff_spells s
  obtain ⟨rfl, rfl⟩ := (hleaves _ _).mp hleft
  have ht : ofSource s = .ok t := (hread t).mpr ⟨_, hspells, rfl⟩
  exact ⟨hleft, hspells, ht, (hok t ht).2.1⟩

end TypeRef
end ProgramFacts
