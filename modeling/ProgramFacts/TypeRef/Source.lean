import ProgramFacts.Text.Alphanumeric
import ProgramFacts.Text.Basic
import ProgramFacts.TypeRef.Basic

/-!
# Source form of types

The source form of a type is a base followed by one `[]` per array level, with blanks allowed
around the base and around each pair of brackets.  A base is `?` and a name for an unresolved
type, the keyword of a primitive type, or the dotted name of a class.
-/

namespace ProgramFacts
namespace TypeRef

/-- Why a text is not the source form of a type. -/
inductive SourceError where
  /-- Nothing is left in front of the brackets. -/
  | empty
  /-- The base is none of the three kinds. -/
  | malformed (base : String)
  deriving DecidableEq, Repr

/-- The wording of a source form error. -/
def SourceError.message : SourceError → String
  | empty => "empty type name"
  | malformed base => "malformed type name `" ++ base ++ "`"

/--
Takes blanks and pairs of brackets off the end of a text that is given in reverse.  Answers what is
left, still in reverse, and the number of pairs.
-/
def peelReversed : List Char → List Char × Nat
  | [] => ([], 0)
  | ']' :: '[' :: rest =>
    let (base, levels) := peelReversed rest
    (base, levels + 1)
  | c :: rest => if Text.isBlank c then peelReversed rest else (c :: rest, 0)

/-- Splits a source form into its trimmed base and the number of array levels. -/
def peel (cs : List Char) : List Char × Nat :=
  let (base, levels) := peelReversed cs.reverse
  (Text.trimStart base.reverse, levels)

/-- A character that may occur in the dotted name of a class. -/
def isNameChar (c : Char) : Bool :=
  Text.isAlphanumeric c || c == '_' || c == '$' || c == '.' || c == '-'

/-- Whether a text is the dotted name of a class: name characters, with no dot at either end. -/
def isClassName (cs : List Char) : Bool :=
  !cs.isEmpty && cs.all isNameChar && cs.head? != some '.' && cs.getLast? != some '.'

/-- Reads a base, which is trimmed and has no brackets after it. -/
def ofBase (cs : List Char) : Except SourceError TypeRef :=
  match cs with
  | [] => .error .empty
  | ['?'] => .error (.malformed "?")
  -- whatever follows the question mark is a name, brackets in the middle included
  | '?' :: name => .ok (unresolved (String.ofList name))
  | _ =>
    match Primitive.ofName? (String.ofList cs) with
    | some p => .ok (primitive p)
    | none =>
      if isClassName cs then
        .ok (named (String.ofList cs))
      else
        .error (.malformed (String.ofList cs))

/-- Reads the source form of a type. -/
def ofSource (s : String) : Except SourceError TypeRef :=
  let (base, levels) := peel s.toList
  (ofBase base).map (nest levels)

end TypeRef
end ProgramFacts
