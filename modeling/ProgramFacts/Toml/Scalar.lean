import ProgramFacts.Text.Basic
import ProgramFacts.Text.Number
import ProgramFacts.Toml.Basic

/-!
# TOML scalars

Strings in their four forms, and the scalars that are words: truth values, integers, floats, dates
and times.  A word is read as a whole and then judged.
-/

namespace ProgramFacts
namespace Toml

/-! ## Strings -/

/-- A character that may stand in a comment: a tab, or one that is no control character. -/
def isPrintable (c : Char) : Bool :=
  c = '\t' || (0x20 ≤ c.toNat && c ≠ '\x7f')

def lineBreak : Reader (List Char)
  | '\n' :: rest => some (['\n'], rest)
  | '\r' :: '\n' :: rest => some (['\n'], rest)
  | _ => none

/-- Skips blanks within a line. -/
def skipBlanks (cs : List Char) : List Char :=
  cs.dropWhile fun c => c = ' ' || c = '\t'

/-- The character that a one-letter escape stands for. -/
def escaped? : Char → Option Char
  | '"' => some '"'
  | '\\' => some '\\'
  | 'b' => some '\x08'
  | 'f' => some '\x0c'
  | 'n' => some '\n'
  | 'r' => some '\r'
  | 't' => some '\t'
  | _ => none

/-- Reads a character by its number, in so many hexadecimal digits. -/
def numberedChar (width : Nat) : Reader (List Char) :=
  fun cs => do
    let digits := cs.take width
    if digits.length = width then
      return ([← Text.charOf? (← Text.number? 16 digits)], cs.drop width)
    else
      none

/-- Reads an escaped character. -/
def escape : Reader (List Char)
  | '\\' :: 'u' :: rest => numberedChar 4 rest
  | '\\' :: 'U' :: rest => numberedChar 8 rest
  | '\\' :: c :: rest => (escaped? c).map fun e => ([e], rest)
  | _ => none

/-- Reads a character that stands for itself between quotes of a given kind. -/
def plainChar (quote : Char) : Reader (List Char)
  | c :: rest =>
    if isPrintable c && c ≠ quote && (quote ≠ '"' || c ≠ '\\') then some ([c], rest) else none
  | [] => none

/-- Reads a backslash at the end of a line, and the blanks and line ends after it. -/
def continuation : Reader (List Char)
  | '\\' :: rest => do
    let (_, after) ← lineBreak (skipBlanks rest)
    return ([], after.dropWhile fun c => c = ' ' || c = '\t' || c = '\n' || c = '\r')
  | _ => none

/-- Reads one or two quotes within a text that three quotes end. -/
def innerQuotes (quote : Char) : Reader (List Char) :=
  fun cs =>
    let (quotes, rest) := Reader.span (· = quote) cs
    if 1 ≤ quotes.length && quotes.length ≤ 2 then some (quotes, rest) else none

/-- Reads the three quotes that end a text, and up to two more that belong to the text. -/
def closingQuotes (quote : Char) : Reader (List Char) :=
  fun cs =>
    let (quotes, rest) := Reader.span (· = quote) cs
    if 3 ≤ quotes.length && quotes.length ≤ 5 then some (quotes.drop 3, rest) else none

/-- Reads a piece of a text with the first reader that does not refuse. -/
def firstOf (pieces : List (Reader (List Char))) : Reader (List Char) :=
  fun cs => pieces.firstM fun piece => piece cs

/-- Reads a string in one line, after its opening quote. -/
def lineString (quote : Char) : Reader String :=
  fun cs => do
    let pieces := if quote = '"' then [plainChar quote, escape] else [plainChar quote]
    let (text, rest) := Reader.many (firstOf pieces) cs
    let rest ← Reader.literal? [quote] rest
    return (String.ofList text.flatten, rest)

/-- Reads a string of several lines, after its opening quotes. -/
def blockString (quote : Char) : Reader String :=
  fun cs => do
    let start := ((lineBreak cs).map Prod.snd).getD cs
    let common := [plainChar quote, lineBreak, innerQuotes quote]
    let pieces := if quote = '"' then common ++ [continuation, escape] else common
    let (text, rest) := Reader.many (firstOf pieces) start
    let (quotes, rest) ← closingQuotes quote rest
    return (String.ofList (text.flatten ++ quotes), rest)

/-! ## Words -/

/-- The sign and the rest of a number. -/
def unsigned : List Char → List Char
  | '+' :: rest => rest
  | '-' :: rest => rest
  | cs => cs

/-- The digits of a decimal number without superfluous zeros in front. -/
def wholeDigits? (cs : List Char) : Option (List Char) :=
  match Text.groupedDigits? 10 cs with
  | some ('0' :: _ :: _) => none
  | digits => digits

def integer? (word : List Char) : Option Int :=
  let magnitude := match word with
    | '0' :: 'x' :: digits => (Text.groupedDigits? 16 digits).bind (Text.number? 16)
    | '0' :: 'o' :: digits => (Text.groupedDigits? 8 digits).bind (Text.number? 8)
    | '0' :: 'b' :: digits => (Text.groupedDigits? 2 digits).bind (Text.number? 2)
    | _ => (wholeDigits? (unsigned word)).bind (Text.number? 10)
  match magnitude with
  | some n =>
    if word.head? = some '-' then
      if n ≤ integerBound then some (-(n : Int)) else none
    else
      if n < integerBound then some n else none
  | none => none

/-- Whether a word is a float with a fraction or an exponent. -/
def isFraction (word : List Char) : Bool :=
  let isMark (c : Char) : Bool := c = 'e' || c = 'E'
  let mantissa := (unsigned word).takeWhile fun c => !isMark c
  let exponent := (unsigned word).dropWhile fun c => !isMark c
  let fraction := mantissa.dropWhile (· ≠ '.')
  (wholeDigits? (mantissa.takeWhile (· ≠ '.'))).isSome &&
    (fraction.isEmpty || (Text.groupedDigits? 10 (fraction.drop 1)).isSome) &&
    (exponent.isEmpty || (Text.groupedDigits? 10 (unsigned (exponent.drop 1))).isSome) &&
    !(fraction.isEmpty && exponent.isEmpty)

/-- Whether a word is a float.  A positive one has to be within the range of a double. -/
def isFloat (word : List Char) : Bool :=
  unsigned word = ['i', 'n', 'f'] || unsigned word = ['n', 'a', 'n'] ||
    (isFraction word &&
      (word.head? = some '-' || Text.isFiniteDecimal (String.ofList word)))

/-- The number of two decimal digits. -/
def twoDigits? (tens units : Char) : Option Nat :=
  Text.number? 10 [tens, units]

def daysOf (year month : Nat) : Nat :=
  if month = 2 then
    if year % 4 = 0 ∧ (year % 100 ≠ 0 ∨ year % 400 = 0) then 29 else 28
  else if month = 4 ∨ month = 6 ∨ month = 9 ∨ month = 11 then
    30
  else
    31

/-- Whether a word is a date. -/
def isDate : List Char → Bool
  | [y₁, y₂, y₃, y₄, '-', m₁, m₂, '-', d₁, d₂] =>
    match Text.number? 10 [y₁, y₂, y₃, y₄], twoDigits? m₁ m₂, twoDigits? d₁ d₂ with
    | some year, some month, some day =>
      1 ≤ month && month ≤ 12 && 1 ≤ day && day ≤ daysOf year month
    | _, _, _ => false
  | _ => false

/-- What follows the time at the front of a word. -/
def afterTime? : List Char → Option (List Char)
  | h₁ :: h₂ :: ':' :: m₁ :: m₂ :: ':' :: s₁ :: s₂ :: rest => do
    let hour ← twoDigits? h₁ h₂
    let minute ← twoDigits? m₁ m₂
    let second ← twoDigits? s₁ s₂
    if hour ≤ 23 ∧ minute ≤ 59 ∧ second ≤ 60 then
      match rest with
      | '.' :: fraction =>
        if fraction.takeWhile Char.isDigit = [] then none
        else some (fraction.dropWhile Char.isDigit)
      | _ => some rest
    else
      none
  | _ => none

/-- Whether a word is an offset from universal time. -/
def isOffset : List Char → Bool
  | ['Z'] => true
  | ['z'] => true
  | [sign, h₁, h₂, ':', m₁, m₂] =>
    match twoDigits? h₁ h₂, twoDigits? m₁ m₂ with
    | some hour, some minute => (sign = '+' || sign = '-') && hour ≤ 23 && minute ≤ 59
    | _, _ => false
  | _ => false

/-- Whether a word is a date, a time or both. -/
def isMoment (word : List Char) : Bool :=
  if isDate (word.take 10) then
    match word.drop 10 with
    | [] => true
    | mark :: time =>
      (mark = 'T' || mark = 't' || mark = ' ') &&
        match afterTime? time with
        | some rest => rest.isEmpty || isOffset rest
        | none => false
  else
    afterTime? word == some []

/-- A character that may stand in a word. -/
def isWordChar (c : Char) : Bool :=
  c.isAlphanum || c = '_' || c = '-' || c = '+' || c = '.' || c = ':'

/-- Takes a word off the front of a text.  A blank may separate a date from a time. -/
def spanWord (cs : List Char) : List Char × List Char :=
  let (word, rest) := Reader.span isWordChar cs
  match rest with
  | ' ' :: c :: after =>
    if isDate word && c.isDigit then
      let (time, rest) := Reader.span isWordChar (c :: after)
      (word ++ ' ' :: time, rest)
    else
      (word, rest)
  | _ => (word, rest)

/-- The value that a word denotes. -/
def ofWord? (word : List Char) : Option Toml :=
  if word = ['t', 'r', 'u', 'e'] then some (.boolean true)
  else if word = ['f', 'a', 'l', 's', 'e'] then some (.boolean false)
  else if isMoment word then some (.moment (String.ofList word))
  else if isFloat word then some (.float (String.ofList word))
  else (integer? word).map .integer

end Toml
end ProgramFacts
