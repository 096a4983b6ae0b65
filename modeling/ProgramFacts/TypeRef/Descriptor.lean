import ProgramFacts.TypeRef.Basic

/-!
# Descriptor form of types

A descriptor is one `[` per array level, followed by the letter of a primitive type or by a class
name between `L` and `;` in which slashes stand for the dots.
-/

namespace ProgramFacts
namespace TypeRef

/-- A text with every `old` character replaced by `new`. -/
def substitute (old new : Char) (cs : List Char) : List Char :=
  cs.map fun c => if c == old then new else c

/--
The descriptor of a type.  An unresolved type has none and keeps its source spelling, so that the
descriptor of a method which mentions it stays readable.
-/
def descriptor : TypeRef → String
  | primitive p => p.letter.toString
  | named n => "L" ++ String.ofList (substitute '.' '/' n.toList) ++ ";"
  | array t => "[" ++ t.descriptor
  | unresolved n => "?" ++ n

/-- Reads a descriptor from the front of a text and answers what follows it. -/
def readDescriptor : List Char → Option (TypeRef × List Char)
  | [] => none
  | '[' :: rest =>
    match readDescriptor rest with
    | some (component, after) => some (array component, after)
    | none => none
  | 'L' :: rest =>
    let name := rest.takeWhile (· != ';')
    match rest.dropWhile (· != ';') with
    | ';' :: after =>
      if name.isEmpty then
        none
      else
        some (named (String.ofList (substitute '/' '.' name)), after)
    | _ => none
  | c :: rest =>
    match Primitive.ofLetter? c with
    | some p => some (primitive p, rest)
    | none => none

/-- Reads a text that is one descriptor and nothing else. -/
def ofDescriptor? (s : String) : Option TypeRef :=
  match readDescriptor s.toList with
  | some (t, []) => some t
  | _ => none

end TypeRef
end ProgramFacts
