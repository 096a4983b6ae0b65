/-!
# Texts

How texts are ordered, split, trimmed and hashed, and how values are read off their front.
-/

namespace ProgramFacts
namespace Text

/-! ## The order of lists of texts

Rows and paths are sorted text by text: the first two texts that differ decide, and a list comes
before the longer lists that it begins.  Single texts are in the order of their code points.
-/

/-- Whether a list of texts equals another or comes before it. -/
def precedes : List String → List String → Bool
  | [], _ => true
  | _ :: _, [] => false
  | a :: as, b :: bs => if a = b then precedes as bs else decide (a < b)

/-! ## Splitting -/

/-- The parts of a text between the occurrences of a character. -/
def splitAt (separator : Char) : List Char → List (List Char)
  | [] => [[]]
  | c :: rest =>
    if c = separator then
      [] :: splitAt separator rest
    else
      match splitAt separator rest with
      | part :: parts => (c :: part) :: parts
      | [] => [[c]]

/-! ## Blank characters

The blank characters are those of the Unicode White_Space property.  Trimming takes them off both
ends of a text and leaves the inside alone.
-/

/-- A character of the Unicode White_Space property. -/
def isBlank (c : Char) : Bool :=
  let n := c.toNat
  (9 ≤ n && n ≤ 13) || n == 0x20 || n == 0x85 || n == 0xA0 || n == 0x1680 ||
    (0x2000 ≤ n && n ≤ 0x200A) || n == 0x2028 || n == 0x2029 || n == 0x202F ||
    n == 0x205F || n == 0x3000

/-- The characters without the blank ones at the front. -/
def trimStart (cs : List Char) : List Char :=
  cs.dropWhile isBlank

/-- The characters without the blank ones at the end. -/
def trimEnd (cs : List Char) : List Char :=
  (trimStart cs.reverse).reverse

/-- The characters without the blank ones at either end. -/
def trim (cs : List Char) : List Char :=
  trimEnd (trimStart cs)

/-- A text without the blank characters at either end. -/
def trimmed (s : String) : String :=
  String.ofList (trim s.toList)

/-! ## UTF-16 units

Lengths and hashes of texts are taken over UTF-16 code units: one unit for a character below
U+10000 and a surrogate pair for any other.
-/

/-- The UTF-16 code units of a character. -/
def unitsOf (c : Char) : List Nat :=
  let n := c.toNat
  if n < 0x10000 then
    [n]
  else
    [0xD800 + (n - 0x10000) / 0x400, 0xDC00 + (n - 0x10000) % 0x400]

/-- The UTF-16 code units of a text. -/
def units (s : String) : List Nat :=
  s.toList.flatMap unitsOf

/-- The number of UTF-16 code units of a text. -/
def unitLength (s : String) : Nat :=
  (units s).length

/-- One step of the polynomial hash: times 31, plus the next unit, modulo `2 ^ 32`. -/
def hashStep (h : Int32) (unit : Nat) : Int32 :=
  h * 31 + Int32.ofNat unit

/-- The polynomial hash with base 31 of a text's UTF-16 units, in signed 32-bit arithmetic. -/
def hash (s : String) : Int32 :=
  (units s).foldl hashStep 0

end Text

/-! ## Readers

A reader takes a value off the front of a text and answers what follows, or refuses.  The readers
here repeat another one.  A reader that is repeated takes at least one character each time, so
the length of the text bounds the repetitions.
-/

/-- Takes a value off the front of a text, or refuses. -/
abbrev Reader (α : Type) :=
  List Char → Option (α × List Char)

namespace Reader

variable {α : Type}

/-- Reads values one after another until the reader refuses, but at most a given number. -/
def manyUpTo (item : Reader α) : Nat → List Char → List α × List Char
  | 0, cs => ([], cs)
  | bound + 1, cs =>
    match item cs with
    | none => ([], cs)
    | some (value, rest) =>
      let (values, rest) := manyUpTo item bound rest
      (value :: values, rest)

/-- Reads values one after another until the reader refuses. -/
def many (item : Reader α) (cs : List Char) : List α × List Char :=
  manyUpTo item cs.length cs

/-- Reads one or more values with a character between them. -/
def separatedBy (separator : Char) (item : Reader α) : Reader (List α) :=
  fun cs => do
    let (first, rest) ← item cs
    let next : Reader α := fun
      | c :: rest => if c = separator then item rest else none
      | [] => none
    let (others, rest) := many next rest
    return (first :: others, rest)

/-- Takes a given text off the front. -/
def literal? : List Char → List Char → Option (List Char)
  | [], cs => some cs
  | e :: expected, c :: cs => if c = e then literal? expected cs else none
  | _ :: _, [] => none

/-- Reads as many characters of a kind as there are. -/
def span (kind : Char → Bool) (cs : List Char) : List Char × List Char :=
  (cs.takeWhile kind, cs.dropWhile kind)

end Reader

end ProgramFacts
