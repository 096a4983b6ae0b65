import ProgramFacts.Json.Printer
import ProgramFacts.Relation
import ProgramFacts.Text.Basic

/-!
# Tables

A table is printed as aligned text under a title or as a JSON array of its records.  A column of the
text form is as wide as its longest cell, and two blanks stand between columns; cells beyond the
last header are dropped, and no line ends in a blank.
-/

namespace ProgramFacts
namespace Table

/-- The forms in which a table is printed. -/
inductive Format where
  | text
  | json
  deriving DecidableEq, Repr

/-- The format with a given name, in upper or lower case. -/
def Format.ofName? (name : String) : Option Format :=
  match name.toLower with
  | "text" => some .text
  | "txt" => some .text
  | "json" => some .json
  | _ => none

def Format.unknownMessage (name : String) : String :=
  "Unknown output format: " ++ name ++ " (expected text or json)"

/-- The widths of columns so far, widened to the cells of a row. -/
def widen : List Nat → List String → List Nat
  | w :: ws, cell :: cells => max w cell.length :: widen ws cells
  | ws, _ => ws

/-- The widths of a table's columns in characters. -/
def widths (headers : List String) (rows : List (List String)) : List Nat :=
  rows.foldl widen (headers.map String.length)

/-- A cell, filled up with blanks to a width. -/
def pad (width : Nat) (cell : String) : List Char :=
  cell.toList ++ List.replicate (width - cell.length) ' '

/-- Cells side by side, each filled up to the width of its column, two blanks between them. -/
def alignCells (widths : List Nat) (cells : List String) : List Char :=
  List.intercalate [' ', ' '] ((widths.zip cells).map fun (w, cell) => pad w cell)

def lineOf (widths : List Nat) (cells : List String) : List Char :=
  Text.trimEnd (alignCells widths cells)

/-- The end of styled text. -/
def resetStyle : List Char :=
  ['\x1b', '[', '0', 'm']

/-- A text in which the style starts again wherever it was ended. -/
def resumeStyle (style : List Char) : List Char → List Char
  | '\x1b' :: '[' :: '0' :: 'm' :: rest => resetStyle ++ style ++ resumeStyle style rest
  | c :: rest => c :: resumeStyle style rest
  | [] => []

/-- A text in a terminal style with the given code, if styles are wanted. -/
def paint (color : Bool) (code : String) (cs : List Char) : List Char :=
  if color then
    let style := '\x1b' :: '[' :: (code.toList ++ ['m'])
    style ++ resumeStyle style cs ++ resetStyle
  else
    cs

def renderText
    (color : Bool)
    (title : String)
    (headers : List String)
    (rows : List (List String)) :
    String :=
  let ws := widths headers rows
  let header := lineOf ws headers
  let printed :=
    paint color "1;34" title.toList :: paint color "1" header ::
      List.replicate header.length '-' :: rows.map (lineOf ws)
  String.ofList (printed.flatMap fun line => line ++ ['\n'])

def renderJson (records : List Json) : String :=
  (Json.array records).pretty ++ "\n"

def schemaHeaders : List String :=
  ["predicate", "file", "arity"]

def schemaRow (r : Relation) : List String :=
  [r.schemaName, r.fileName, r.arity.repr]

def schemaRecord (r : Relation) : Json :=
  .record [("predicate", .text r.schemaName), ("file", .text r.fileName),
    ("arity", .natural r.arity)]

def renderSchema
    (format : Format)
    (color : Bool)
    (title : String)
    (relations : List Relation) :
    String :=
  match format with
  | .text => renderText color title schemaHeaders (relations.map schemaRow)
  | .json => renderJson (relations.map schemaRecord)

end Table
end ProgramFacts
