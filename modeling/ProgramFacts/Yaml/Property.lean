import ProgramFacts.Text.Number
import ProgramFacts.Yaml.Basic
import ProgramFacts.Yaml.Place

/-!
# Node properties and directives

Anchors and aliases name nodes, tags tell their types, and directives at the start of a document
tell its version and what the handles of tags stand for.
-/

namespace ProgramFacts
namespace Yaml

/-! ## Anchors and aliases -/

/-- Reads the name of an anchor or an alias, after its indicator. -/
def anchorName? (s : Source) : Option (String × Source) :=
  let (name, rest) := s.span isNameChar
  let ends := rest.endsAt
    (fun c => isGap c || c = '?' || c = ':' || c = ',' || c = ']' || c = '\x7d' || c = '%' ||
      c = '@' || c = '\u0060') 0
  if name.isEmpty || !ends then none else some (String.ofList name, rest)

/-! ## Tags -/

/-- A character of a tag; some of those that structure flow collections need a verbatim tag. -/
def isTagChar (verbatim : Bool) (c : Char) : Bool :=
  isNameChar c || ";/?:@&=+$.!~*'()".toList.contains c ||
    (verbatim && (c = ',' || c = '[' || c = ']'))

/-- The number of bytes of a character whose first byte is given. -/
def byteCount? (n : Nat) : Option Nat :=
  if n < 0x80 then some 1
  else if 0xC0 ≤ n ∧ n < 0xE0 then some 2
  else if 0xE0 ≤ n ∧ n < 0xF0 then some 3
  else if 0xF0 ≤ n ∧ n < 0xF8 then some 4
  else none

/-- Reads a byte that is written as a percent sign and two digits. -/
def percentByte? : Source → Option (Nat × Source)
  | ⟨'%', _, _⟩ :: a :: b :: rest => (Text.number? 16 [a.char, b.char]).map fun n => (n, rest)
  | _ => none

/-- Reads a number of further bytes of a character. -/
def furtherBytes? : Nat → Source → Option (List Nat × Source)
  | 0, s => some ([], s)
  | n + 1, s => do
    let (byte, rest) ← percentByte? s
    if 0x80 ≤ byte ∧ byte < 0xC0 then
      let (bytes, rest) ← furtherBytes? n rest
      return (byte :: bytes, rest)
    else
      none

/-- Reads a character that is written as percent signs and digits. -/
def percentChar? (s : Source) : Option (Char × Source) := do
  let (first, rest) ← percentByte? s
  let (further, rest) ← furtherBytes? ((← byteCount? first) - 1) rest
  let bytes := ByteArray.mk ((first :: further).map UInt8.ofNat).toArray
  let decoded := ((String.fromUTF8? bytes).map String.toList).getD []
  return (decoded.headD '\ufffd', rest)

/-- Reads at most a given number of characters of a tag. -/
def tagTextUpTo? (verbatim : Bool) : Nat → Source → Option (List Char × Source)
  | 0, s => some ([], s)
  | _, [] => some ([], [])
  | bound + 1, p :: rest =>
    if p.char = '%' then do
      let (c, rest) ← percentChar? (p :: rest)
      let (text, rest) ← tagTextUpTo? verbatim bound rest
      return (c :: text, rest)
    else if isTagChar verbatim p.char then do
      let (text, rest) ← tagTextUpTo? verbatim bound rest
      return (p.char :: text, rest)
    else
      some ([], p :: rest)

/-- Reads as many characters of a tag as there are. -/
def tagText? (verbatim : Bool) (s : Source) : Option (List Char × Source) :=
  tagTextUpTo? verbatim s.length s

/-- Reads a tag, after its exclamation mark, as a handle and a suffix. -/
def tagBody? (s : Source) : Option ((String × String) × Source) :=
  match s with
  | ⟨'<', _, _⟩ :: rest => do
    let (text, rest) ← tagText? true rest
    match rest with
    | ⟨'>', _, _⟩ :: rest =>
      if text.isEmpty then none else some (("", String.ofList text), rest)
    | _ => none
  | _ =>
    let (name, rest) := s.span isNameChar
    match rest with
    | ⟨'!', _, _⟩ :: rest => do
      let (text, rest) ← tagText? false rest
      if text.isEmpty then none
      else return (("!" ++ String.ofList name ++ "!", String.ofList text), rest)
    | _ => do
      let (text, rest) ← tagText? false rest
      let suffix := name ++ text
      if suffix.isEmpty then return (("", "!"), rest)
      else return (("!", String.ofList suffix), rest)

/-- Reads a tag, after its exclamation mark, and checks that it ends there. -/
def tag? (inFlow : Bool) (s : Source) : Option (Token × Source) := do
  let ((handle, suffix), rest) ← tagBody? s
  if rest.endsAt isGap 0 || (inFlow && rest.at? 0 = some ',') then
    return (.tag handle suffix, rest)
  else
    none

/-! ## Directives -/

def versionNumber? (s : Source) : Option (Nat × Source) :=
  let (digits, rest) := s.span Char.isDigit
  if digits.isEmpty || 9 < digits.length then none
  else (Text.number? 10 digits).map fun n => (n, rest)

/-- Reads the handle of a tag as a directive gives it. -/
def directiveHandle? : Source → Option (String × Source)
  | ⟨'!', _, _⟩ :: rest =>
    let (name, rest) := Source.span isNameChar rest
    match rest with
    | ⟨'!', _, _⟩ :: rest => some ("!" ++ String.ofList name ++ "!", rest)
    | _ => if name.isEmpty then some ("!", rest) else none
  | _ => none

/-- Reads what a directive says, after its percent sign. -/
def directiveBody? (s : Source) : Option (Token × Source) := do
  let (name, rest) := s.span isNameChar
  if !rest.endsAt isGap 0 then
    none
  else if name = "YAML".toList then
    let (major, rest) ← versionNumber? (rest.span isBlank).2
    match rest with
    | ⟨'.', _, _⟩ :: rest => do
      let (minor, rest) ← versionNumber? rest
      return (.version major minor, rest)
    | _ => none
  else if name = "TAG".toList then
    let (handle, rest) ← directiveHandle? (rest.span isBlank).2
    if rest.isEmpty || !rest.endsAt isBlank 0 then none
    else do
      let (text, rest) ← tagText? true (rest.span isBlank).2
      if text.isEmpty || !rest.endsAt isGap 0 then none
      else return (.tagHandle handle (String.ofList text), rest)
  else
    none

/-- Reads a directive, after its percent sign, with the rest of its line. -/
def directive? (s : Source) : Option (Token × Source) := do
  let (token, rest) ← directiveBody? s
  let rest := (rest.span isBlank).2
  let rest := if rest.at? 0 = some '#' then (rest.span (fun c => !isBreak c)).2 else rest
  if rest.endsAt isBreak 0 then return (token, rest.drop 1) else none

end Yaml
end ProgramFacts
