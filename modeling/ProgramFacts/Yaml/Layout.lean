import ProgramFacts.Yaml.Property
import ProgramFacts.Yaml.Scalar

/-!
# YAML layout

Tokens are taken off a text from left to right.  The columns of the open block collections decide
where collections begin and end.  Whether a scalar or a flow collection is a key shows only at the
colon after it, so its place among the tokens is kept until then, and the token that announces a
key is put in there.
-/

namespace ProgramFacts
namespace Yaml

/-- What may turn out to be a key. -/
structure KeyCandidate where
  /-- The number of tokens before it. -/
  position : Nat
  line : Nat
  column : Nat
  /-- Whether nothing but a key can stand there. -/
  required : Bool
  deriving DecidableEq, Repr

/-- What has been read of a text. -/
structure Layout where
  /-- The tokens, the last one first. -/
  tokens : List Token
  /-- The columns of the open block collections, the innermost first. -/
  indents : List Nat
  /-- The candidate within the innermost flow collection, or within none. -/
  candidate : Option KeyCandidate
  /-- The candidates around the open flow collections, the innermost first. -/
  outer : List (Option KeyCandidate)
  /-- Whether a key may begin here. -/
  keyAllowed : Bool

namespace Layout

/-- The layout before the first token. -/
def start : Layout :=
  ⟨[], [], none, [], true⟩

/-- Whether a flow collection is open. -/
def inFlow (l : Layout) : Bool :=
  !l.outer.isEmpty

/-- The least column of what belongs to the innermost block collection. -/
def margin (l : Layout) : Nat :=
  match l.indents with
  | [] => 0
  | column :: _ => column + 1

def push (l : Layout) (t : Token) : Layout :=
  { l with tokens := t :: l.tokens }

def insert (l : Layout) (position : Nat) (t : Token) : Layout :=
  { l with tokens := l.tokens.insertIdx (l.tokens.length - position) t }

/-- Closes block collections while their column is of a kind. -/
def closeWhile (closes : Nat → Bool) (l : Layout) : Layout :=
  let closed := l.indents.takeWhile closes
  { l with
    tokens := closed.map (fun _ => .blockEnd) ++ l.tokens
    indents := l.indents.dropWhile closes }

/-- Closes the block collections to the right of a column, unless a flow collection is open. -/
def closeBeyond (column : Nat) (l : Layout) : Layout :=
  if l.inFlow then l else l.closeWhile fun c => column < c

/-- Closes all block collections, unless a flow collection is open. -/
def closeAll (l : Layout) : Layout :=
  if l.inFlow then l else l.closeWhile fun _ => true

/-- Opens a block collection at a column, unless one is open there or a flow collection is. -/
def openBlock (column position : Nat) (t : Token) (l : Layout) : Layout :=
  if l.inFlow || column < l.margin then l
  else { l.insert position t with indents := column :: l.indents }

/-- Gives up a candidate that is too far behind; `none` if it had to be a key. -/
def expire? (line column : Nat) : Option KeyCandidate → Option (Option KeyCandidate)
  | none => some none
  | some k =>
    if k.line < line || k.column + 1024 < column then
      if k.required then none else some none
    else
      some (some k)

/-- Gives up the candidates that are too far behind a place. -/
def expireAll? (line column : Nat) (l : Layout) : Option Layout := do
  return { l with
    candidate := ← expire? line column l.candidate
    outer := ← l.outer.mapM (expire? line column) }

/-- Gives up the candidate; `none` if it had to be a key. -/
def dropCandidate? (l : Layout) : Option Layout :=
  match l.candidate with
  | some k => if k.required then none else some { l with candidate := none }
  | none => some l

/-- Makes the next token a candidate, if a key may begin here. -/
def saveCandidate? (p : Placed) (l : Layout) : Option Layout :=
  if l.keyAllowed then do
    let required := !l.inFlow && l.indents.head? = some p.column
    let dropped ← l.dropCandidate?
    return { dropped with candidate := some ⟨l.tokens.length, p.line, p.column, required⟩ }
  else
    some l

/-- Adds the token that announces a key written with a question mark, or that of its value. -/
def mark? (p : Placed) (t : Token) (l : Layout) : Option Layout :=
  if l.inFlow then
    some ({ l with keyAllowed := false }.push t)
  else if l.keyAllowed then
    some ((l.openBlock p.column l.tokens.length .blockMapping).push t)
  else
    none

/-- Reads a dash that begins an item. -/
def dash? (p : Placed) (l : Layout) : Option Layout := do
  let opened ←
    if l.inFlow then some l
    else if l.keyAllowed then
      some (l.openBlock p.column l.tokens.length .blockSequence)
    else none
  return { (← opened.dropCandidate?) with keyAllowed := true }.push .dash

/-- Reads a question mark that announces a key. -/
def explicitKey? (p : Placed) (l : Layout) : Option Layout := do
  (← l.mark? p .key).dropCandidate?

/-- Reads a colon, which makes the candidate a key. -/
def value? (p : Placed) (l : Layout) : Option Layout :=
  match l.candidate with
  | some k =>
    let announced := l.insert k.position .key
    let opened := announced.openBlock k.column k.position .blockMapping
    some ({ opened with candidate := none, keyAllowed := false }.push .value)
  | none => l.mark? p .value

/-- Opens a flow collection. -/
def openFlow? (p : Placed) (t : Token) (l : Layout) : Option Layout := do
  let l ← l.saveCandidate? p
  return { l with
    outer := l.candidate :: l.outer
    candidate := none
    keyAllowed := true }.push t

/-- Closes a flow collection. -/
def closeFlow? (t : Token) (l : Layout) : Option Layout := do
  let l ← l.dropCandidate?
  let left := match l.outer with
    | [] => l
    | k :: ks => { l with candidate := k, outer := ks }
  return { left with keyAllowed := false }.push t

/-- Reads a comma between entries. -/
def comma? (l : Layout) : Option Layout := do
  return { (← l.dropCandidate?) with keyAllowed := true }.push .comma

/-- Ends what is open, before a directive or a bound of a document. -/
def settle? (l : Layout) : Option Layout := do
  return { (← l.closeAll.dropCandidate?) with keyAllowed := false }

/-- Adds a token that may begin a key. -/
def pushCandidate? (p : Placed) (t : Token) (keyAllowed : Bool) (l : Layout) : Option Layout := do
  return { (← l.saveCandidate? p) with keyAllowed }.push t

/-- Skips what separates tokens, and tells whether a key may begin after it. -/
def skipGap (inFlow : Bool) (inComment keyAllowed : Bool) : Source → Bool × Source
  | [] => (keyAllowed, [])
  | p :: rest =>
    if isBreak p.char then skipGap inFlow false (keyAllowed || !inFlow) rest
    else if inComment then skipGap inFlow true keyAllowed rest
    else if p.char = '#' then skipGap inFlow true keyAllowed rest
    else if p.char = ' ' || (p.char = '\t' && (inFlow || !keyAllowed)) then
      skipGap inFlow false keyAllowed rest
    else (keyAllowed, p :: rest)

/-- Whether a plain scalar begins here. -/
def startsPlain (inFlow : Bool) (p : Placed) (rest : Source) : Bool :=
  if p.char = '-' then !(rest.at? 0).any isBlank
  else if p.char = '?' || p.char = ':' then !inFlow && !rest.endsAt isGap 0
  else !isGap p.char && !",[]#&*!|>'\"%@\u0060\x7b\x7d".toList.contains p.char

/-- Reads the token that begins with a given character. -/
def token? (l : Layout) (p : Placed) (rest : Source) : Option (Layout × Source) :=
  let s : Source := p :: rest
  let gapFollows := Source.endsAt isGap 0 rest
  let quoted : Option (Layout × Source) := do
    let (text, after) ← quotedScalar? p.char rest
    return (← l.pushCandidate? p (.scalar .quoted (String.ofList text)) false, after)
  let block (style : Style) : Option (Layout × Source) := do
    let dropped ← l.dropCandidate?
    let (text, after) ← blockScalar? (style = .folded) l.margin rest
    return ({ dropped with keyAllowed := true }.push (.scalar style (String.ofList text)), after)
  if p.char = '%' && p.column = 0 then do
    let settled ← l.settle?
    let (t, after) ← directive? rest
    return (settled.push t, after)
  else if s.hasMarker '-' then do
    return ((← l.settle?).push .documentStart, s.drop 3)
  else if s.hasMarker '.' then do
    return ((← l.settle?).push .documentEnd, s.drop 3)
  else if p.char = '[' then (l.openFlow? p .flowSequence).map (·, rest)
  else if p.char = '\x7b' then (l.openFlow? p .flowMapping).map (·, rest)
  else if p.char = ']' then (l.closeFlow? .flowSequenceEnd).map (·, rest)
  else if p.char = '\x7d' then (l.closeFlow? .flowMappingEnd).map (·, rest)
  else if p.char = ',' then l.comma?.map (·, rest)
  else if p.char = '-' && gapFollows then (l.dash? p).map (·, rest)
  else if p.char = '?' && (l.inFlow || gapFollows) then (l.explicitKey? p).map (·, rest)
  else if p.char = ':' && (l.inFlow || gapFollows) then (l.value? p).map (·, rest)
  else if p.char = '*' then do
    let (name, after) ← anchorName? rest
    return (← l.pushCandidate? p (.alias name) false, after)
  else if p.char = '&' then do
    let (name, after) ← anchorName? rest
    return (← l.pushCandidate? p (.anchor name) false, after)
  else if p.char = '!' then do
    let (t, after) ← tag? l.inFlow rest
    return (← l.pushCandidate? p t false, after)
  else if p.char = '|' && !l.inFlow then block .literal
  else if p.char = '>' && !l.inFlow then block .folded
  else if p.char = '\'' || p.char = '"' then quoted
  else if startsPlain l.inFlow p rest then do
    let found ← plainScalar? l.inFlow l.margin s
    let t := Token.scalar .plain (String.ofList found.text)
    return (← l.pushCandidate? p t found.endsLine, found.rest)
  else
    none

/-- Reads at most a given number of tokens up to the end of a text. -/
def readUpTo? : Nat → Layout → Source → Option Layout
  | 0, _, _ => none
  | bound + 1, l, s =>
    let (keyAllowed, s) := skipGap l.inFlow false l.keyAllowed s
    match s with
    | [] => l.closeAll.dropCandidate?
    | p :: rest => do
      let l ← { l with keyAllowed }.expireAll? p.line p.column
      let (l, rest) ← (l.closeBeyond p.column).token? p rest
      readUpTo? bound l rest

end Layout

def tokens? (s : Source) : Option (List Token) :=
  (Layout.readUpTo? (s.length + 1) .start s).map fun l => l.tokens.reverse

end Yaml
end ProgramFacts
