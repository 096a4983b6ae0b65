/-!
# Cells of fact files

A row is written on one line, its cells joined by a separator character.  Backslashes, tabs, line
breaks and the separator itself are escaped inside cells, so that a line falls apart into the
written cells at exactly the separators that no backslash escapes.
-/

namespace ProgramFacts
namespace Cell

/-- How a character is written in a cell. -/
def escapeChar (separator : Char) (c : Char) : List Char :=
  if c = '\\' then ['\\', '\\']
  else if c = '\t' then ['\\', 't']
  else if c = '\n' then ['\\', 'n']
  else if c = '\r' then ['\\', 'r']
  else if c = separator then ['\\', c]
  else [c]

/-- How the characters of a cell are written. -/
def escapeChars (separator : Char) (cs : List Char) : List Char :=
  cs.flatMap (escapeChar separator)

/-- The written form of a cell. -/
def escape (separator : Char) (s : String) : String :=
  String.ofList (escapeChars separator s.toList)

def joinChars (separator : Char) : List (List Char) → List Char
  | [] => []
  | [cell] => cell
  | cell :: rest => cell ++ separator :: joinChars separator rest

/-- The written form of a row, without its line end. -/
def lineChars (separator : Char) (row : List String) : List Char :=
  joinChars separator (row.map fun cell => escapeChars separator cell.toList)

/-- The written form of rows, each ended by a line feed. -/
def linesChars (separator : Char) (rows : List (List String)) : List Char :=
  rows.flatMap fun row => lineChars separator row ++ ['\n']

/-- The content of a fact file with the given rows. -/
def lines (separator : Char) (rows : List (List String)) : String :=
  String.ofList (linesChars separator rows)

end Cell
end ProgramFacts
