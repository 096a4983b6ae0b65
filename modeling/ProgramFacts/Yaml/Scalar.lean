import ProgramFacts.Text.Number
import ProgramFacts.Yaml.Basic
import ProgramFacts.Yaml.Place

/-!
# YAML scalars

The texts of plain, quoted and block scalars.  Within plain and quoted scalars a line end counts
as a space, and further line ends after it count as themselves.
-/

namespace ProgramFacts
namespace Yaml

/-- What line ends in a row stand for. -/
def foldBreaks : List Char → List Char
  | ['\n'] => [' ']
  | '\n' :: more => more
  | breaks => breaks

/-- What the gap between two words stands for. -/
def gapText (gap : List Char) : List Char :=
  if gap.any isBreak then foldBreaks (gap.filter isBreak) else gap

/-! ## Plain scalars -/

/-- Reads a word of a plain scalar; `none` if a colon stands right before a flow indicator. -/
def plainWord? (inFlow : Bool) : Source → Option (List Char × Source)
  | [] => some ([], [])
  | p :: rest =>
    if isGap p.char then
      some ([], p :: rest)
    else if inFlow && isFlowIndicator p.char then
      some ([], p :: rest)
    else if p.char = ':' then
      if Source.endsAt isGap 0 rest then some ([], p :: rest)
      else if inFlow && Source.endsAt (fun c => c = '?' || isFlowIndicator c) 0 rest then none
      else (plainWord? inFlow rest).map fun (word, after) => (p.char :: word, after)
    else
      (plainWord? inFlow rest).map fun (word, after) => (p.char :: word, after)

/-- Whether a tab stands left of a column in a line that begins within a gap. -/
def hasTabIndent (indent : Nat) (gap : Source) : Bool :=
  (gap.dropWhile fun p => !isBreak p.char).any fun p => p.char = '\t' && p.column < indent

/-- A plain scalar, whether lines ended after it, and what follows. -/
structure PlainScalar where
  text : List Char
  endsLine : Bool
  rest : Source

/--
Reads a plain scalar of at most a given number of words.  Outside of flow collections its lines
have to be indented to a column.
-/
def plainWords? (inFlow : Bool) (indent : Nat) : Nat → Source → Option PlainScalar
  | 0, _ => none
  | bound + 1, s => do
    let (word, rest) ← plainWord? inFlow s
    let gap : Source := rest.takeWhile fun p => isGap p.char
    let after : Source := rest.dropWhile fun p => isGap p.char
    let alone : PlainScalar := ⟨word, gap.any fun p => isBreak p.char, after⟩
    if hasTabIndent indent gap then
      none
    else if gap.isEmpty || after.isEmpty || (!inFlow && after.column < indent) ||
        after.atDocumentBound || after.at? 0 = some '#' then
      return alone
    else
      let (next, _) ← plainWord? inFlow after
      if next.isEmpty then
        return alone
      else
        let more ← plainWords? inFlow indent bound after
        return { more with text := word ++ gapText (Source.chars gap) ++ more.text }

def plainScalar? (inFlow : Bool) (indent : Nat) (s : Source) : Option PlainScalar :=
  plainWords? inFlow indent s.length s

/-! ## Quoted scalars -/

/-- The character that a one-letter escape stands for. -/
def escaped? : Char → Option Char
  | '0' => some '\x00'
  | 'a' => some '\x07'
  | 'b' => some '\x08'
  | 't' => some '\t'
  | '\t' => some '\t'
  | 'n' => some '\n'
  | 'v' => some '\x0b'
  | 'f' => some '\x0c'
  | 'r' => some '\r'
  | 'e' => some '\x1b'
  | ' ' => some ' '
  | '"' => some '"'
  | '/' => some '/'
  | '\\' => some '\\'
  | 'N' => some '\u0085'
  | '_' => some '\u00a0'
  | 'L' => some '\u2028'
  | 'P' => some '\u2029'
  | _ => none

/-- The number of hexadecimal digits after an escape that gives a character by its number. -/
def numberWidth? : Char → Option Nat
  | 'x' => some 2
  | 'u' => some 4
  | 'U' => some 8
  | _ => none

/-- Reads what follows the backslash of an escape within a line. -/
def escape? : Source → Option (Char × Source)
  | [] => none
  | p :: rest =>
    match numberWidth? p.char with
    | none => (escaped? p.char).map fun c => (c, rest)
    | some width => do
      let digits := Source.chars (rest.take width)
      if digits.length = width then
        return (← Text.charOf? (← Text.number? 16 digits), rest.drop width)
      else
        none

/-- Reads a quoted scalar, after its opening quote, in at most a given number of steps. -/
def quotedFrom? (quote : Char) : Nat → Source → Option (List Char × Source)
  | 0, _ => none
  | _, [] => none
  | bound + 1, p :: rest =>
    let continued (text : List Char) (after : Source) : Option (List Char × Source) :=
      (quotedFrom? quote bound after).map fun (more, after) => (text ++ more, after)
    if Source.atDocumentBound (p :: rest) then
      none
    else if p.char = quote then
      if quote = '\'' && Source.at? 0 rest = some '\'' then continued [quote] (rest.drop 1)
      else some ([], rest)
    else if isGap p.char then
      let (gap, after) := Source.span isGap (p :: rest)
      continued (gapText gap) after
    else if quote = '"' && p.char = '\\' then
      match rest with
      | [] => none
      | next :: more =>
        if isBreak next.char then
          let (gap, after) := Source.span isGap more
          continued (gap.filter isBreak) after
        else do
          let (c, after) ← escape? rest
          continued [c] after
    else
      continued [p.char] rest

/-- Reads a quoted scalar, after its opening quote. -/
def quotedScalar? (quote : Char) (s : Source) : Option (List Char × Source) :=
  quotedFrom? quote (s.length + 1) s

/-! ## Block scalars -/

/-- What becomes of the line ends at the end of a block. -/
inductive Chomping where
  | strip
  | clip
  | keep
  deriving DecidableEq, Repr

/-- The header of a block: its chomping, and its indentation if that is given. -/
structure BlockHeader where
  chomping : Chomping
  indentation : Option Nat

/-- The chomping that a sign stands for. -/
def chomping? : Option Char → Option Chomping
  | some '+' => some .keep
  | some '-' => some .strip
  | _ => none

/-- The indentation that a digit stands for. -/
def indentation? (c : Option Char) : Option Nat :=
  c.bind fun c => if c.isDigit then some (c.toNat - '0'.toNat) else none

/-- Reads the header of a block up to the end of its line. -/
def blockHeader? (s : Source) : Option (BlockHeader × Source) := do
  let (header, rest) :=
    match chomping? (s.at? 0), indentation? (s.at? 0) with
    | some chomping, _ =>
      match indentation? (s.at? 1) with
      | some n => (BlockHeader.mk chomping (some n), s.drop 2)
      | none => (BlockHeader.mk chomping none, s.drop 1)
    | none, some n =>
      match chomping? (s.at? 1) with
      | some chomping => (BlockHeader.mk chomping (some n), s.drop 2)
      | none => (BlockHeader.mk .clip (some n), s.drop 1)
    | none, none => (BlockHeader.mk .clip none, s)
  let rest := (Source.span isBlank rest).2
  let rest := if rest.at? 0 = some '#' then (Source.span (fun c => !isBreak c) rest).2 else rest
  if header.indentation = some 0 || !rest.endsAt isBreak 0 then none
  else return (header, rest.drop 1)

/-- Line ends before a line of a block, the greatest column that spaces reach, and what follows. -/
structure BlockMargin where
  breaks : List Char
  reach : Nat
  rest : Source

/--
Reads line ends, and spaces up to a column; without a column, all spaces.  A tab may not stand
where spaces are expected.
-/
def blockMargin? (indent : Option Nat) : Source → Option BlockMargin
  | [] => some ⟨[], 0, []⟩
  | p :: rest =>
    let inMargin := match indent with
      | none => true
      | some n => p.column < n
    if inMargin && p.char = ' ' then
      (blockMargin? indent rest).map fun m => { m with reach := max m.reach (p.column + 1) }
    else if inMargin && p.char = '\t' then
      none
    else if isBreak p.char then
      (blockMargin? indent rest).map fun m => { m with breaks := p.char :: m.breaks }
    else
      some ⟨[], 0, p :: rest⟩

/-- A line of a block, its own end, and the empty lines after it. -/
structure BlockLine where
  text : List Char
  lineEnd : List Char
  breaks : List Char

/-- Reads at most a given number of lines that begin at a column. -/
def blockLines? (indent : Nat) : Nat → Source → Option (List BlockLine × Source)
  | 0, s => some ([], s)
  | bound + 1, s =>
    if s.isEmpty || s.column ≠ indent then
      some ([], s)
    else do
      let (text, rest) := Source.span (fun c => !isBreak c) s
      let margin ← blockMargin? (some indent) (rest.drop 1)
      let (lines, after) ← blockLines? indent bound margin.rest
      return (⟨text, Source.chars (rest.take 1), margin.breaks⟩ :: lines, after)

/-- Whether a line begins with a blank. -/
def BlockLine.isIndented (l : BlockLine) : Bool :=
  match l.text with
  | c :: _ => isBlank c
  | [] => false

def BlockLine.joint (folded : Bool) (l next : BlockLine) : List Char :=
  if folded && l.lineEnd = ['\n'] && !l.isIndented && !next.isIndented then
    if l.breaks.isEmpty then [' '] else l.breaks
  else
    l.lineEnd ++ l.breaks

/-- The text after the last line. -/
def BlockLine.ending (chomping : Chomping) (l : BlockLine) : List Char :=
  match chomping with
  | .strip => []
  | .clip => l.lineEnd
  | .keep => l.lineEnd ++ l.breaks

def joinLines (folded : Bool) (chomping : Chomping) : List BlockLine → List Char
  | [] => []
  | [l] => l.text ++ l.ending chomping
  | l :: next :: rest => l.text ++ l.joint folded next ++ joinLines folded chomping (next :: rest)

/--
Reads a block scalar, after its indicator.  `indent` is the least column at which the block may
stand, and a given indentation counts from the column before it.
-/
def blockScalar? (folded : Bool) (indent : Nat) (s : Source) : Option (List Char × Source) := do
  let (header, rest) ← blockHeader? s
  let given := header.indentation.map fun n => (indent - 1) + n
  let margin ← blockMargin? given rest
  let column := given.getD (max margin.reach (max indent 1))
  let (lines, after) ← blockLines? column rest.length margin.rest
  let opening :=
    if lines.isEmpty && header.chomping ≠ .keep then [] else margin.breaks
  return (opening ++ joinLines folded header.chomping lines, after)

end Yaml
end ProgramFacts
