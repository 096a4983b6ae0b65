import Mathlib.Data.List.TakeWhile
import ProgramFacts.Json.Printer
import ProgramFacts.Json.Reader
import ProgramFacts.Proofs.JoinedText

/-!
# Reading written JSON

A value that is written on one line is read back, as long as its strings denote texts and its
numbers are spelled as numbers.  The writing falls into the tokens of the value, whatever follows
it, and the machine that takes these tokens puts the value together again.
-/

namespace ProgramFacts
namespace Json

/-! ## Strings -/

/-- The piece as which a written character is read. -/
def pieceOf (c : Char) : Piece :=
  if c.toNat < 0x20 ∧ c ∉ ['\x08', '\x0c', '\n', '\r', '\t'] then .unit c.toNat else .char c

theorem number?_hexDigits {n : Nat} (h : n < 0x20) :
    Text.number? 16 ['0', '0', Text.hexDigit (n / 16), Text.hexDigit (n % 16)] = some n := by
  have hall : ∀ n : Fin 0x20,
      Text.number? 16 ['0', '0', Text.hexDigit (n.val / 16), Text.hexDigit (n.val % 16)] =
        some n.val := by
    decide
  exact hall ⟨n, h⟩

theorem readPieces_escapeChar (c : Char) (cs : List Char) :
    readPieces (escapeChar c ++ cs) =
      (readPieces cs).map fun read => (pieceOf c :: read.1, read.2) := by
  by_cases hquote : c = '"'
  · subst hquote
    cases h : readPieces cs <;> simp [escapeChar, readPieces, escaped?, pieceOf, h]
  by_cases hbackslash : c = '\\'
  · subst hbackslash
    cases h : readPieces cs <;> simp [escapeChar, readPieces, escaped?, pieceOf, h]
  by_cases hletter : c ∈ ['\x08', '\x0c', '\n', '\r', '\t']
  · simp only [List.mem_cons, List.not_mem_nil, or_false] at hletter
    rcases hletter with rfl | rfl | rfl | rfl | rfl <;>
      cases h : readPieces cs <;> simp [escapeChar, readPieces, escaped?, pieceOf, h]
  simp only [List.mem_cons, List.not_mem_nil, or_false, not_or] at hletter
  obtain ⟨hback, hform, hline, hreturn, htab⟩ := hletter
  by_cases hcontrol : c.toNat < 0x20
  · have hdigits := number?_hexDigits hcontrol
    cases h : readPieces cs <;>
      simp [escapeChar, readPieces, pieceOf, hquote, hbackslash, hback, hform, hline, hreturn,
        htab, hcontrol, hdigits, h]
  · cases h : readPieces cs <;>
      simp [escapeChar, readPieces, pieceOf, hquote, hbackslash, hback, hform, hline, hreturn,
        htab, hcontrol, h]

/-- No written character is half of a surrogate pair, so each piece is joined by itself. -/
theorem joinPieces_pieceOf (c : Char) (pieces : List Piece) :
    joinPieces (pieceOf c :: pieces) = (joinPieces pieces).map (c :: ·) := by
  unfold pieceOf
  split_ifs with hcontrol
  · -- only control characters are read as units
    have hlead : isLeadUnit c.toNat = false := by
      simp only [isLeadUnit, Bool.and_eq_false_iff, decide_eq_false_iff_not]
      omega
    have htrail : isTrailUnit c.toNat = false := by
      simp only [isTrailUnit, Bool.and_eq_false_iff, decide_eq_false_iff_not]
      omega
    cases pieces with
    | nil => simp [joinPieces, hlead, htrail]
    | cons piece pieces => cases piece <;> simp [joinPieces, hlead, htrail]
  · rfl

/-- A text is read up to its closing quote. -/
theorem readPieces_quoted (cs rest : List Char) :
    readPieces (cs.flatMap escapeChar ++ '"' :: rest) = some (cs.map pieceOf, rest) := by
  induction cs with
  | nil => rfl
  | cons c cs ih =>
      rw [List.flatMap_cons, List.append_assoc, readPieces_escapeChar, ih]
      rfl

theorem joinPieces_map_pieceOf (cs : List Char) : joinPieces (cs.map pieceOf) = some cs := by
  induction cs with
  | nil => rfl
  | cons c cs ih => rw [List.map_cons, joinPieces_pieceOf, ih, Option.map_some]

/-! ## Numbers -/

/-- Whether a text spells a number. -/
def IsLexeme (lexeme : String) : Prop :=
  isNumber lexeme.toList = true ∧ ∀ c ∈ lexeme.toList, isNumberChar c = true

/-- Only zero begins with a zero. -/
theorem head_repr {n : Nat} (h : 0 < n) : n.repr.toList.head? ≠ some '0' := by
  rw [Nat.repr_eq_ofList_toDigits, String.toList_ofList]
  induction n using Nat.strongRecOn with
  | ind n ih =>
      rw [Nat.toDigits_eq_if (by decide)]
      split_ifs with hsmall
      · have hall : ∀ n : Fin 10, 0 < n.val → [n.val.digitChar].head? ≠ some '0' := by decide
        exact hall ⟨n, hsmall⟩ h
      · have hfront := ih (n / 10) (by omega) (by omega)
        have hne : (Nat.toDigits 10 (n / 10)).head? ≠ none := by simp [Nat.toDigits_ne_nil]
        rw [List.head?_append]
        cases hhead : (Nat.toDigits 10 (n / 10)).head? with
        | none => exact absurd hhead hne
        | some c => rwa [hhead] at hfront

theorem isNumber_of_digits
    {c : Char} {cs : List Char} (hc : c ≠ '0') (h : ∀ d ∈ c :: cs, d.isDigit = true) :
    isNumber (c :: cs) = true := by
  have hsign : c ≠ '-' := by
    rintro rfl
    exact absurd (h _ List.mem_cons_self) (by decide)
  have hdigits : skipDigits? (c :: cs) = some [] := by
    rw [skipDigits?, if_pos (h c List.mem_cons_self), List.dropWhile_eq_nil_iff.mpr h]
  have hinteger : skipInteger? (c :: cs) = some [] := by
    rw [skipInteger?, hdigits]
    rintro rest ⟨⟩
    exact hc rfl
  unfold isNumber
  split
  · next heq => exact absurd (List.cons.inj heq).1 hsign
  · simp [hinteger, skipFraction?, skipExponent?]

theorem isLexeme_repr (n : Nat) : IsLexeme n.repr := by
  have hdigits : ∀ c ∈ n.repr.toList, c.isDigit = true := fun c => Text.isDigit_of_mem_repr
  constructor
  · rcases Nat.eq_zero_or_pos n with rfl | hpos
    · decide
    · have hhead := head_repr hpos
      cases hcs : n.repr.toList with
      | nil => simp at hcs
      | cons c cs =>
          rw [hcs] at hdigits hhead
          exact isNumber_of_digits (by simpa using hhead) hdigits
  · intro c hc
    simp [isNumberChar, hdigits c hc]

theorem naturalBelow?_natural {n bound : Nat} (h : n < bound) :
    (natural n).naturalBelow? bound = some n := by
  have hdigits : n.repr.toList.all Char.isDigit = true :=
    List.all_eq_true.mpr fun c => Text.isDigit_of_mem_repr
  have hvalue : n.repr.toList.foldl (fun n c => n * 10 + (c.toNat - '0'.toNat)) 0 = n := by
    have hread := Nat.ofDigitChars_ten_toDigits (n := n)
    simp only [Nat.ofDigitChars, Nat.mul_comm 10] at hread
    rwa [Nat.repr_eq_ofList_toDigits, String.toList_ofList]
  rw [natural, naturalBelow?, if_pos hdigits, hvalue, if_pos h]

/-! ## Tokens -/

mutual

def toTokens : Json → List Token
  | null => [.null]
  | bool b => [.bool b]
  | number lexeme => [.number lexeme]
  | string t => [.string t]
  | array [] => [.beginArray, .endArray]
  | array (v :: vs) => .beginArray :: (toTokens v ++ (itemTokens vs ++ [.endArray]))
  | object [] => [.beginObject, .endObject]
  | object ((key, v) :: ms) =>
    .beginObject :: .string key :: .colon :: (toTokens v ++ (memberTokens ms ++ [.endObject]))

/-- The tokens of the items of an array after the first. -/
def itemTokens : List Json → List Token
  | [] => []
  | v :: vs => .comma :: (toTokens v ++ itemTokens vs)

/-- The tokens of the members of an object after the first. -/
def memberTokens : List (Option String × Json) → List Token
  | [] => []
  | (key, v) :: ms => .comma :: .string key :: .colon :: (toTokens v ++ memberTokens ms)

end

/-- Whether strings denote texts and numbers are spelled as numbers, all the way down. -/
inductive IsPrintable : Json → Prop
  | null : IsPrintable null
  | bool (b : Bool) : IsPrintable (bool b)
  | number {lexeme : String} (h : IsLexeme lexeme) : IsPrintable (number lexeme)
  | string (s : String) : IsPrintable (string (some s))
  | array {items : List Json} (h : ∀ v ∈ items, IsPrintable v) : IsPrintable (array items)
  | object {members : List (Option String × Json)} (hkeys : ∀ m ∈ members, ∃ key, m.1 = some key)
    (h : ∀ m ∈ members, IsPrintable m.2) : IsPrintable (object members)

theorem isPrintable_text (s : String) : (text s).IsPrintable :=
  .string s

theorem isPrintable_natural (n : Nat) : (natural n).IsPrintable :=
  .number (isLexeme_repr n)

theorem isPrintable_record
    {members : List (String × Json)} (h : ∀ m ∈ members, m.2.IsPrintable) :
    (record members).IsPrintable := by
  refine .object ?_ ?_
  · intro m hm
    obtain ⟨member, -, rfl⟩ := List.mem_map.mp hm
    exact ⟨member.1, rfl⟩
  · intro m hm
    obtain ⟨member, hmember, rfl⟩ := List.mem_map.mp hm
    exact h member hmember

theorem isPrintable_list
    {α : Type} {write : α → Json} {xs : List α} (h : ∀ x ∈ xs, (write x).IsPrintable) :
    (array (xs.map write)).IsPrintable := by
  refine .array ?_
  intro v hv
  obtain ⟨x, hx, rfl⟩ := List.mem_map.mp hv
  exact h x hx

theorem isPrintable_option
    {α : Type} {write : α → Json} (h : ∀ x, (write x).IsPrintable) (x : Option α) :
    (option (x.map write)).IsPrintable := by
  cases x with
  | none => exact .null
  | some x => exact h x

/-- Whether a text goes on with something that is no part of a number. -/
def EndsNumber (rest : List Char) : Prop :=
  ∀ c ∈ rest.head?, isNumberChar c = false

theorem tokens_quote (s : String) (rest : List Char) :
    tokens (quote s ++ rest) = (tokens rest).map (.string (some s) :: ·) := by
  have hread := readPieces_quoted s.toList rest
  have hjoin := joinPieces_map_pieceOf s.toList
  rw [quote, List.cons_append, List.append_assoc, List.singleton_append, tokens]
  split
  · next pieces after heq =>
      rw [hread] at heq
      cases heq
      rw [hjoin, Option.map_some, String.ofList_toList]
  · next heq =>
      rw [hread] at heq
      cases heq

theorem EndsNumber.takeWhile_eq_nil {rest : List Char} (h : EndsNumber rest) :
    rest.takeWhile isNumberChar = [] ∧ rest.dropWhile isNumberChar = rest := by
  cases rest with
  | nil => exact ⟨rfl, rfl⟩
  | cons c rest =>
      have hc : isNumberChar c = false := h c rfl
      simp [hc]

theorem tokens_lexeme
    {lexeme : String} (h : IsLexeme lexeme) {rest : List Char} (hrest : EndsNumber rest) :
    tokens (lexeme.toList ++ rest) = (tokens rest).map (.number lexeme :: ·) := by
  obtain ⟨hnumber, hchars⟩ := h
  obtain ⟨hnothing, hall⟩ := hrest.takeWhile_eq_nil
  cases hcs : lexeme.toList with
  | nil =>
      rw [hcs] at hnumber
      cases hnumber
  | cons c cs =>
      rw [hcs] at hchars hnumber
      have hc : isNumberChar c = true := hchars c List.mem_cons_self
      have hrun : ∀ d ∈ cs, isNumberChar d = true := by
        intro d hd
        exact hchars d (List.mem_cons_of_mem c hd)
      have htake : (cs ++ rest).takeWhile isNumberChar = cs := by
        rw [List.takeWhile_append_of_pos hrun, hnothing, List.append_nil]
      have hdrop : (cs ++ rest).dropWhile isNumberChar = rest := by
        rw [List.dropWhile_append_of_pos hrun, hall]
      have hlexeme : String.ofList (c :: cs) = lexeme := by
        rw [← hcs, String.ofList_toList]
      rw [List.cons_append, tokens]
      · simp only [hc, htake, hdrop, hnumber, hlexeme, if_true]
      -- the first character of a number begins no other token
      all_goals first
        | rintro rfl; cases hc
        | rintro after rfl; cases hc

/-- Whether a value is written as its tokens, whatever follows. -/
def IsWrittenAsTokens (v : Json) : Prop :=
  ∀ rest, EndsNumber rest → tokens (compactChars v ++ rest) = (tokens rest).map (v.toTokens ++ ·)

theorem endsNumber_compactItems (vs : List Json) {rest : List Char} (h : EndsNumber rest) :
    EndsNumber (compactItems vs ++ rest) := by
  cases vs with
  | nil => exact h
  | cons v vs => simp [EndsNumber, compactItems, isNumberChar, Char.isDigit]

theorem endsNumber_compactMembers
    (ms : List (Option String × Json)) {rest : List Char} (h : EndsNumber rest) :
    EndsNumber (compactMembers ms ++ rest) := by
  cases ms with
  | nil => exact h
  | cons m ms => simp [EndsNumber, compactMembers, isNumberChar, Char.isDigit]

theorem tokens_compactItems
    {vs : List Json} (h : ∀ v ∈ vs, v.IsWrittenAsTokens) {rest : List Char}
    (hrest : EndsNumber rest) :
    tokens (compactItems vs ++ rest) = (tokens rest).map (itemTokens vs ++ ·) := by
  induction vs with
  | nil => simp [compactItems, itemTokens]
  | cons v vs ih =>
      have hvalue := h v List.mem_cons_self _ (endsNumber_compactItems vs hrest)
      have hitems := ih fun w hw => h w (List.mem_cons_of_mem v hw)
      simp [compactItems, itemTokens, tokens, hvalue, hitems, Function.comp_def]

theorem tokens_compactMembers
    {ms : List (Option String × Json)} (hkeys : ∀ m ∈ ms, ∃ key, m.1 = some key)
    (h : ∀ m ∈ ms, m.2.IsWrittenAsTokens) {rest : List Char} (hrest : EndsNumber rest) :
    tokens (compactMembers ms ++ rest) = (tokens rest).map (memberTokens ms ++ ·) := by
  induction ms with
  | nil => simp [compactMembers, memberTokens]
  | cons m ms ih =>
      obtain ⟨key, v⟩ := m
      obtain ⟨name, rfl⟩ := hkeys _ List.mem_cons_self
      have hvalue := h _ List.mem_cons_self _ (endsNumber_compactMembers ms hrest)
      have hmembers := ih (fun m hm => hkeys m (List.mem_cons_of_mem _ hm))
        fun m hm => h m (List.mem_cons_of_mem _ hm)
      simp [compactMembers, memberTokens, tokens, tokens_quote, hvalue, hmembers,
        Function.comp_def]

theorem IsPrintable.isWrittenAsTokens {v : Json} (h : v.IsPrintable) : v.IsWrittenAsTokens := by
  induction h with
  | null =>
      intro rest _
      simp [compactChars, toTokens, tokens]
  | bool b =>
      intro rest _
      cases b <;> simp [compactChars, toTokens, tokens]
  | number h =>
      intro rest hrest
      simpa [compactChars, toTokens] using tokens_lexeme h hrest
  | string s =>
      intro rest _
      simpa [compactChars, toTokens] using tokens_quote s rest
  | @array items _ ih =>
      intro rest _
      cases items with
      | nil => simp [compactChars, toTokens, tokens, Function.comp_def]
      | cons v vs =>
          have hend : EndsNumber (']' :: rest) := by simp [EndsNumber, isNumberChar, Char.isDigit]
          have hvalue := ih v List.mem_cons_self _ (endsNumber_compactItems vs hend)
          have hitems := tokens_compactItems (fun w hw => ih w (List.mem_cons_of_mem v hw)) hend
          simp [compactChars, toTokens, tokens, hvalue, hitems, Function.comp_def]
  | @object members hkeys _ ih =>
      intro rest _
      cases members with
      | nil => simp [compactChars, toTokens, tokens, Function.comp_def]
      | cons m ms =>
          obtain ⟨key, v⟩ := m
          obtain ⟨name, rfl⟩ := hkeys _ List.mem_cons_self
          have hend : EndsNumber ('\x7d' :: rest) := by
            simp [EndsNumber, isNumberChar, Char.isDigit]
          have hvalue := ih _ List.mem_cons_self _ (endsNumber_compactMembers ms hend)
          have hmembers := tokens_compactMembers
            (fun m hm => hkeys m (List.mem_cons_of_mem _ hm))
            (fun m hm => ih m (List.mem_cons_of_mem _ hm)) hend
          simp [compactChars, toTokens, tokens, tokens_quote, hvalue, hmembers, Function.comp_def]

/-! ## Values -/

theorem readTokens_append (state : Reading) (ts more : List Token) :
    readTokens state (ts ++ more) = (readTokens state ts).bind fun next => readTokens next more :=
  List.foldlM_append

@[simp] theorem readTokens_nil (state : Reading) : readTokens state [] = some state :=
  rfl

theorem readTokens_cons (state : Reading) (t : Token) (ts : List Token) :
    readTokens state (t :: ts) = (readToken state t).bind fun next => readTokens next ts :=
  List.foldlM_cons

/-- No value begins with the end of an array, so the first item is read as any value. -/
theorem readTokens_firstItem (v : Json) (stack : List Frame) :
    readTokens (.firstItem stack) v.toTokens =
      readTokens (.value (.array [] :: stack)) v.toTokens := by
  match v with
  | .null => rfl
  | .bool b => rfl
  | .number lexeme => rfl
  | .string t => rfl
  | .array [] => rfl
  | .array (v :: vs) => rfl
  | .object [] => rfl
  | .object (m :: ms) => rfl

mutual

/-- The tokens of a value are put together to the value, which goes to the innermost container. -/
theorem readTokens_toTokens (stack : List Frame) (v : Json) :
    readTokens (.value stack) v.toTokens = some (deliver v stack) := by
  match v with
  | .null => rfl
  | .bool b => rfl
  | .number lexeme => rfl
  | .string t => rfl
  | .array [] => rfl
  | .array (v :: vs) =>
      -- an array that was just opened is not on the stack yet when its first item begins
      have hfirst := readTokens_toTokens (.array [] :: stack) v
      have hitems := readTokens_itemTokens stack [v] vs
      rw [← readTokens_firstItem] at hfirst
      simp [toTokens, readTokens_cons, readTokens_append, readToken, beginValue, deliver, hfirst,
        hitems]
  | .object [] => rfl
  | .object ((key, v) :: ms) =>
      have hfirst := readTokens_toTokens (.object [] key :: stack) v
      have hmembers := readTokens_memberTokens stack [(key, v)] ms
      simp [toTokens, readTokens_cons, readTokens_append, readToken, beginValue, deliver, hfirst,
        hmembers]

theorem readTokens_itemTokens (stack : List Frame) (before vs : List Json) :
    readTokens (.afterItem before stack) (itemTokens vs) =
      some (.afterItem (vs.reverse ++ before) stack) := by
  match vs with
  | [] => rfl
  | v :: vs =>
      have hvalue := readTokens_toTokens (.array before :: stack) v
      have hitems := readTokens_itemTokens stack (v :: before) vs
      simp [itemTokens, readTokens_cons, readTokens_append, readToken, deliver, hvalue, hitems]

theorem readTokens_memberTokens
    (stack : List Frame) (before ms : List (Option String × Json)) :
    readTokens (.afterMember before stack) (memberTokens ms) =
      some (.afterMember (ms.reverse ++ before) stack) := by
  match ms with
  | [] => rfl
  | (key, v) :: ms =>
      have hvalue := readTokens_toTokens (.object before key :: stack) v
      have hmembers := readTokens_memberTokens stack ((key, v) :: before) ms
      simp [memberTokens, readTokens_cons, readTokens_append, readToken, deliver, hvalue, hmembers]

end

/-- A value that is written on one line is read back. -/
theorem ofText?_compact {v : Json} (h : v.IsPrintable) : ofText? v.compact = some v := by
  have hend : EndsNumber [] := by simp [EndsNumber]
  have htokens := h.isWrittenAsTokens [] hend
  rw [List.append_nil] at htokens
  rw [ofText?, compact, String.toList_ofList, htokens]
  simp [tokens, readTokens_toTokens, deliver]

end Json
end ProgramFacts
