import ProgramFacts.Text.Basic

/-!
# Numbers in texts

Digits and numbers to a base of at most 16, in upper and lower case, numbers whose digits are
grouped by underscores, and which decimal numbers are within the range of a double.
-/

namespace ProgramFacts
namespace Text

/-! ## Digits to a base -/

def digit? (base : Nat) (c : Char) : Option Nat :=
  let value :=
    if '0' ≤ c ∧ c ≤ '9' then c.toNat - '0'.toNat
    else if 'a' ≤ c ∧ c ≤ 'f' then c.toNat - 'a'.toNat + 10
    else if 'A' ≤ c ∧ c ≤ 'F' then c.toNat - 'A'.toNat + 10
    else base
  if value < base then some value else none

/-- Whether a character is a digit to a base. -/
def isDigit (base : Nat) (c : Char) : Bool :=
  (digit? base c).isSome

def number? (base : Nat) (digits : List Char) : Option Nat :=
  digits.foldlM (fun n c => (digit? base c).map fun d => n * base + d) 0

/-- The hexadecimal digit of a value below 16, in lower case. -/
def hexDigit (n : Nat) : Char :=
  if n < 10 then Char.ofNat ('0'.toNat + n) else Char.ofNat ('a'.toNat + (n - 10))

/-- The character with a number, if there is one. -/
def charOf? (n : Nat) : Option Char :=
  if n.isValidChar then some (Char.ofNat n) else none

/-- The digits of a number in which single underscores may stand between digits. -/
def groupedDigits? (base : Nat) (cs : List Char) : Option (List Char) :=
  let groups := splitAt '_' cs
  if groups.all fun group => !group.isEmpty && group.all (isDigit base) then
    some groups.flatten
  else
    none

/-! ## The range of decimal numbers -/

/-- The value of the digits in a text, and their number; other characters are passed over. -/
def digitsOf (cs : List Char) : Nat × Nat :=
  let digits := cs.filter Char.isDigit
  (digits.foldl (fun n c => n * 10 + (c.toNat - '0'.toNat)) 0, digits.length)

/--
Whether a decimal number rounds to a finite double.  The least magnitude that does not
is half a unit in the last place above the largest double.
-/
def isFiniteDecimal (lexeme : String) : Bool :=
  let cs := lexeme.toList
  let isExponentMark (c : Char) : Bool := c == 'e' || c == 'E'
  let mantissa := cs.takeWhile fun c => !isExponentMark c
  let exponent := (cs.dropWhile fun c => !isExponentMark c).drop 1
  let (significand, digitCount) := digitsOf mantissa
  let (power, _) := digitsOf exponent
  let places := (digitsOf (mantissa.dropWhile (· != '.'))).2
  let limit := Nat.pow 2 1024 - Nat.pow 2 970
  if significand = 0 then
    true
  else if exponent.head? = some '-' then
    if digitCount < places + power + 309 then true
    else significand < limit * Nat.pow 10 (places + power)
  else if places + 400 < power then
    false
  else
    significand * Nat.pow 10 power < limit * Nat.pow 10 places

end Text
end ProgramFacts
