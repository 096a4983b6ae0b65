import ProgramFacts.Text.Number

/-!
# JSON tokens

The lexical level of JSON.  `tokens` splits a text into tokens and refuses everything that is no
token of the grammar: raw control characters in strings, unknown escapes, numbers with leading
zeros, comments, a byte order mark.
-/

namespace ProgramFacts
namespace Json

/-- A token of a JSON text. -/
inductive Token where
  | beginArray
  | endArray
  | beginObject
  | endObject
  | colon
  | comma
  | null
  | bool (value : Bool)
  | number (lexeme : String)
  /-- A string; `none` if it escapes half of a surrogate pair. -/
  | string (text : Option String)
  deriving DecidableEq, Repr

/-- A piece of a string: a character, or a UTF-16 unit that was escaped by its number. -/
inductive Piece where
  | char (c : Char)
  | unit (n : Nat)
  deriving DecidableEq, Repr

/-- The character that a one-letter escape stands for. -/
def escaped? : Char → Option Char
  | '"' => some '"'
  | '\\' => some '\\'
  | '/' => some '/'
  | 'b' => some '\x08'
  | 'f' => some '\x0c'
  | 'n' => some '\n'
  | 'r' => some '\r'
  | 't' => some '\t'
  | _ => none

/-- Reads the pieces of a string up to its closing quote, and answers what follows the quote. -/
def readPieces : List Char → Option (List Piece × List Char)
  | [] => none
  | '"' :: rest => some ([], rest)
  | '\\' :: 'u' :: a :: b :: c :: d :: rest =>
    match Text.number? 16 [a, b, c, d], readPieces rest with
    | some n, some (pieces, after) => some (.unit n :: pieces, after)
    | _, _ => none
  | '\\' :: e :: rest =>
    match escaped? e, readPieces rest with
    | some c, some (pieces, after) => some (.char c :: pieces, after)
    | _, _ => none
  | c :: rest =>
    if c.toNat < 0x20 ∨ c = '\\' then
      none
    else
      match readPieces rest with
      | some (pieces, after) => some (.char c :: pieces, after)
      | none => none

/-- A unit that is the first half of a surrogate pair. -/
def isLeadUnit (n : Nat) : Bool :=
  0xD800 ≤ n && n ≤ 0xDBFF

/-- A unit that is the second half of a surrogate pair. -/
def isTrailUnit (n : Nat) : Bool :=
  0xDC00 ≤ n && n ≤ 0xDFFF

/-- Joins pieces to a text; there is none if a surrogate half stands alone. -/
def joinPieces : List Piece → Option (List Char)
  | [] => some []
  | .char c :: rest => (joinPieces rest).map (c :: ·)
  | .unit n :: .unit m :: rest =>
    if isLeadUnit n then
      if isTrailUnit m then
        let c := Char.ofNat (0x10000 + (n - 0xD800) * 0x400 + (m - 0xDC00))
        (joinPieces rest).map (c :: ·)
      else
        none
    else if isTrailUnit n then
      none
    else
      (joinPieces (.unit m :: rest)).map (Char.ofNat n :: ·)
  | .unit n :: rest =>
    if isLeadUnit n ∨ isTrailUnit n then
      none
    else
      (joinPieces rest).map (Char.ofNat n :: ·)

/-- A character that may occur in a number. -/
def isNumberChar (c : Char) : Bool :=
  c.isDigit || c == '-' || c == '+' || c == '.' || c == 'e' || c == 'E'

/-- Takes the digits off the front of a text; there has to be one. -/
def skipDigits? (cs : List Char) : Option (List Char) :=
  match cs with
  | c :: _ => if c.isDigit then some (cs.dropWhile Char.isDigit) else none
  | [] => none

/-- Takes the integer part off the front of a number: a zero, or digits that start with another. -/
def skipInteger? : List Char → Option (List Char)
  | '0' :: rest => some rest
  | cs => skipDigits? cs

/-- Takes the fraction off the front of a number, if it has one. -/
def skipFraction? : List Char → Option (List Char)
  | '.' :: rest => skipDigits? rest
  | cs => some cs

/-- Takes the exponent off the front of a number, if it has one. -/
def skipExponent? : List Char → Option (List Char)
  | c :: rest =>
    if c == 'e' || c == 'E' then
      match rest with
      | '+' :: digits => skipDigits? digits
      | '-' :: digits => skipDigits? digits
      | digits => skipDigits? digits
    else
      some (c :: rest)
  | [] => some []

/-- Whether a text is a number of the JSON grammar. -/
def isNumber (cs : List Char) : Bool :=
  let unsigned := match cs with
    | '-' :: rest => rest
    | _ => cs
  (((skipInteger? unsigned).bind skipFraction?).bind skipExponent?) == some []

/-- The rest after a string is no longer than the text it was read from. -/
theorem length_readPieces {cs after : List Char} {pieces : List Piece}
    (h : readPieces cs = some (pieces, after)) : after.length < cs.length := by
  fun_induction readPieces cs generalizing pieces after with
  | case1 => simp at h
  | case2 rest =>
    simp only [Option.some.injEq, Prod.mk.injEq] at h
    simp [h.2]
  | case3 a b c d rest n hn pieces' after' hr ih =>
    simp only [Option.some.injEq, Prod.mk.injEq] at h
    have := ih (by assumption)
    simp only [List.length_cons, ← h.2]
    omega
  | case4 => simp at h
  | case5 e rest _ c hc pieces' after' hr ih =>
    simp only [Option.some.injEq, Prod.mk.injEq] at h
    have := ih (by assumption)
    simp only [List.length_cons, ← h.2]
    omega
  | case6 => simp at h
  | case7 => simp at h
  | case8 c rest _ _ _ _ pieces' after' hr ih =>
    simp only [Option.some.injEq, Prod.mk.injEq] at h
    have := ih (by assumption)
    simp only [List.length_cons, ← h.2]
    omega
  | case9 => simp at h

/-- Splits a text into its tokens. -/
def tokens (cs : List Char) : Option (List Token) :=
  match cs with
  | [] => some []
  | ' ' :: rest => tokens rest
  | '\t' :: rest => tokens rest
  | '\n' :: rest => tokens rest
  | '\r' :: rest => tokens rest
  | '[' :: rest => (tokens rest).map (.beginArray :: ·)
  | ']' :: rest => (tokens rest).map (.endArray :: ·)
  | '{' :: rest => (tokens rest).map (.beginObject :: ·)
  | '}' :: rest => (tokens rest).map (.endObject :: ·)
  | ':' :: rest => (tokens rest).map (.colon :: ·)
  | ',' :: rest => (tokens rest).map (.comma :: ·)
  | 'n' :: 'u' :: 'l' :: 'l' :: rest => (tokens rest).map (.null :: ·)
  | 't' :: 'r' :: 'u' :: 'e' :: rest => (tokens rest).map (.bool true :: ·)
  | 'f' :: 'a' :: 'l' :: 's' :: 'e' :: rest => (tokens rest).map (.bool false :: ·)
  | '"' :: rest =>
    match h : readPieces rest with
    | some (pieces, after) =>
      have := length_readPieces h
      (tokens after).map (.string ((joinPieces pieces).map String.ofList) :: ·)
    | none => none
  | c :: rest =>
    if isNumberChar c then
      let lexeme := c :: rest.takeWhile isNumberChar
      have := (List.dropWhile_sublist (p := isNumberChar) (l := rest)).length_le
      if isNumber lexeme then
        (tokens (rest.dropWhile isNumberChar)).map (.number (String.ofList lexeme) :: ·)
      else
        none
    else
      none
termination_by cs.length
decreasing_by
  all_goals simp_wf
  all_goals omega

end Json
end ProgramFacts
