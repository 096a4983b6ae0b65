/-!
# Characters and their places

The layout of a YAML text depends on lines and columns, so every character is read together with
its place.  Line ends are unified first: a carriage return, a line feed, both together and the next
line character all become a line feed, while the line and paragraph separators stay what they are.
-/

namespace ProgramFacts
namespace Yaml

/-- A character and its place. -/
structure Placed where
  char : Char
  line : Nat
  column : Nat
  deriving DecidableEq, Repr

/-- A text, or what is left of it. -/
abbrev Source := List Placed

/-- A character that may occur in a YAML text. -/
def isAllowed (c : Char) : Bool :=
  let n := c.toNat
  n = 9 || n = 0xA || n = 0xD || (0x20 ≤ n && n ≤ 0x7E) || n = 0x85 ||
    (0xA0 ≤ n && n ≤ 0xFFFD) || 0x10000 ≤ n

/-- A character that ends a line. -/
def isBreak (c : Char) : Bool :=
  c = '\n' || c = '\u2028' || c = '\u2029'

/-- A space or a tab. -/
def isBlank (c : Char) : Bool :=
  c = ' ' || c = '\t'

/-- A character that separates words. -/
def isGap (c : Char) : Bool :=
  isBlank c || isBreak c

def isNameChar (c : Char) : Bool :=
  c.isAlphanum || c = '_' || c = '-'

/-- A character that structures flow collections. -/
def isFlowIndicator (c : Char) : Bool :=
  c = ',' || c = '[' || c = ']' || c = '\x7b' || c = '\x7d'

/-- Makes every line end one character. -/
def unifyBreaks : List Char → List Char
  | '\r' :: '\n' :: rest => '\n' :: unifyBreaks rest
  | c :: rest => (if c = '\r' ∨ c = '\u0085' then '\n' else c) :: unifyBreaks rest
  | [] => []

/-- Places characters from a line and a column onwards. -/
def placeFrom (line column : Nat) : List Char → Source
  | [] => []
  | c :: rest =>
    ⟨c, line, column⟩ ::
      if isBreak c then placeFrom (line + 1) 0 rest else placeFrom line (column + 1) rest

/-- The placed characters of a text; `none` if it has a character that is not allowed. -/
def Source.ofText? (s : String) : Option Source :=
  let cs := match s.toList with
    | '\ufeff' :: rest => rest
    | cs => cs
  if cs.all isAllowed then
    match placeFrom 0 0 (unifyBreaks cs) with
    | ⟨'\ufeff', _, _⟩ :: rest => some rest
    | placed => some placed
  else
    none

namespace Source

def chars (s : Source) : List Char :=
  s.map Placed.char

/-- A character so many places ahead. -/
def at? (n : Nat) (s : Source) : Option Char :=
  (s[n]?).map Placed.char

/-- Whether a character so many places ahead is of a kind; the end is of every kind. -/
def endsAt (kind : Char → Bool) (n : Nat) (s : Source) : Bool :=
  match s.at? n with
  | none => true
  | some c => kind c

/-- The column of the next character. -/
def column (s : Source) : Nat :=
  match s with
  | [] => 0
  | p :: _ => p.column

/-- As many characters of a kind as there are, and what follows. -/
def span (kind : Char → Bool) (s : Source) : List Char × Source :=
  (chars (s.takeWhile fun p => kind p.char), s.dropWhile fun p => kind p.char)

/-- Whether a marker of document bounds, three equal characters, begins a line here. -/
def hasMarker (mark : Char) (s : Source) : Bool :=
  s.column = 0 && s.at? 0 = some mark && s.at? 1 = some mark && s.at? 2 = some mark &&
    s.endsAt isGap 3

/-- Whether a document starts or ends here. -/
def atDocumentBound (s : Source) : Bool :=
  s.hasMarker '-' || s.hasMarker '.'

end Source
end Yaml
end ProgramFacts
