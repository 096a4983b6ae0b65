import ProgramFacts.Toml.Scalar

/-!
# TOML documents

A document is a list of lines: headers that open tables, and keys with values.  `Toml.ofText?`
reads a document as the table of its top-level members.
-/

namespace ProgramFacts
namespace Toml

/-- The bound on the depth of values and on the length of dotted keys. -/
def depthBound : Nat :=
  80

/-- Skips blanks, line ends and comments. -/
def skipGap (inComment : Bool) : List Char → List Char
  | [] => []
  | '\n' :: rest => skipGap false rest
  | '\r' :: '\n' :: rest => skipGap false rest
  | c :: rest =>
    if inComment then
      if isPrintable c then skipGap true rest else c :: rest
    else if c = ' ' ∨ c = '\t' then
      skipGap false rest
    else if c = '#' then
      skipGap true rest
    else
      c :: rest

/-! ## Keys -/

/-- A character that may stand in a key without quotes. -/
def isKeyChar (c : Char) : Bool :=
  c.isAlphanum || c = '_' || c = '-'

/-- Reads one part of a key, with the blanks around it. -/
def keyPart : Reader String :=
  fun cs => do
    let (part, rest) ← match skipBlanks cs with
      | '"' :: rest => lineString '"' rest
      | '\'' :: rest => lineString '\'' rest
      | cs =>
        let (name, rest) := Reader.span isKeyChar cs
        if name.isEmpty then none else some (String.ofList name, rest)
    return (part, skipBlanks rest)

/-- Reads a dotted key: the path to a table and a name in it. -/
def dottedKey : Reader (List String × String) :=
  fun cs => do
    let (parts, rest) ← Reader.separatedBy '.' keyPart cs
    if parts.length < depthBound then
      return ((parts.dropLast, ← parts.getLast?), rest)
    else
      none

/-! ## Values -/

/-- Reads the items of an array, after its opening bracket. -/
def arrayItems (value : Reader Toml) : Reader (List Toml) :=
  fun cs => do
    let item : Reader Toml := fun cs => do
      let (v, rest) ← value (skipGap false cs)
      return (v, skipGap false rest)
    let (items, rest) := match Reader.separatedBy ',' item cs with
      | some (items, ',' :: rest) => (items, skipGap false rest)
      | some (items, rest) => (items, rest)
      | none => ([], skipGap false cs)
    return (items, ← Reader.literal? [']'] rest)

/-- Reads a dotted key with its value. -/
def entry (value : Reader Toml) : Reader ((List String × String) × Toml) :=
  fun cs => do
    let (key, rest) ← dottedKey cs
    let rest ← Reader.literal? ['='] rest
    let (v, rest) ← value (skipBlanks rest)
    return ((key, v), skipBlanks rest)

/-- Reads the members of an inline table, after its opening brace. -/
def inlineMembers (value : Reader Toml) : Reader Toml :=
  fun cs => do
    let (entries, rest) := match Reader.separatedBy ',' (entry value) cs with
      | some found => found
      | none => ([], skipBlanks cs)
    let rest ← Reader.literal? ['\x7d'] rest
    return (← inlineTable? entries, rest)

/-- Reads a value in which arrays and inline tables are nested to at most a given depth. -/
def value : Nat → Reader Toml
  | depth, cs =>
    match cs with
    | '"' :: '"' :: '"' :: rest => do
      let (text, rest) ← blockString '"' rest
      return (.string text, rest)
    | '\'' :: '\'' :: '\'' :: rest => do
      let (text, rest) ← blockString '\'' rest
      return (.string text, rest)
    | '"' :: rest => do
      let (text, rest) ← lineString '"' rest
      return (.string text, rest)
    | '\'' :: rest => do
      let (text, rest) ← lineString '\'' rest
      return (.string text, rest)
    | '[' :: rest =>
      match depth with
      | 0 => none
      | depth + 1 => do
        let (items, rest) ← arrayItems (value depth) rest
        return (.array items, rest)
    | '\x7b' :: rest =>
      match depth with
      | 0 => none
      | depth + 1 => inlineMembers (value depth) rest
    | _ => do
      let (word, rest) := spanWord cs
      return (← ofWord? word, rest)

/-! ## Lines -/

/-- What a line says. -/
inductive Line where
  /-- Nothing but blanks or a comment. -/
  | blank
  /-- The header of a table. -/
  | header (path : List String) (key : String)
  /-- The header of one of several tables. -/
  | repeated (path : List String) (key : String)
  /-- A key with its value. -/
  | entry (path : List String) (key : String) (v : Toml)

/-- Reads the end of a line: blanks, a comment, and a line end or the end of the text. -/
def lineEnd (cs : List Char) : Option (List Char) :=
  let rest := match skipBlanks cs with
    | '#' :: rest => rest.dropWhile isPrintable
    | rest => rest
  if rest.isEmpty then some [] else (lineBreak rest).map Prod.snd

def line : Reader Line :=
  fun cs => do
    let (found, rest) ← match skipBlanks cs with
      | [] => none
      | '[' :: '[' :: rest => do
        let ((path, key), rest) ← dottedKey rest
        pure (Line.repeated path key, ← Reader.literal? [']', ']'] rest)
      | '[' :: rest => do
        let ((path, key), rest) ← dottedKey rest
        pure (Line.header path key, ← Reader.literal? [']'] rest)
      | c :: rest =>
        if c = '#' ∨ c = '\n' ∨ c = '\r' then
          some (Line.blank, c :: rest)
        else do
          let (((path, key), v), rest) ← entry (value (depthBound - 1)) (c :: rest)
          pure (Line.entry path key v, rest)
    return (found, ← lineEnd rest)

/-! ## Documents -/

/-- A document that is being read: its top-level table, and the path of the last header. -/
structure Draft where
  top : Toml
  current : List String

/-- A document of which nothing is read. -/
def Draft.start : Draft :=
  ⟨emptyTable .header, []⟩

/-- Adds what a line says. -/
def Draft.add (d : Draft) : Line → Option Draft
  | .blank => some d
  | .header path key => do
    return ⟨← alter false (openTable key) path d.top, path ++ [key]⟩
  | .repeated path key => do
    return ⟨← alter false (openElement key) path d.top, path ++ [key]⟩
  | .entry path key v => do
    return { d with top := ← alter false (assign path key v) d.current d.top }

def ofText? (s : String) : Option Toml := do
  let cs := match s.toList with
    | '\ufeff' :: rest => rest
    | cs => cs
  let (lines, rest) := Reader.many line cs
  if (skipBlanks rest).isEmpty then
    return (← lines.foldlM Draft.add .start).top
  else
    none

end Toml
end ProgramFacts
