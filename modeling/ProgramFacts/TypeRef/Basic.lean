/-!
# Type references

A program mentions types by reference: a primitive type, a class or interface by its dotted name,
an array of another type, or a name that could not be resolved.  `TypeRef.name` is the spelling
that identifies a type in every fact.
-/

namespace ProgramFacts

/-- The primitive types of the virtual machine, `void` included. -/
inductive Primitive where
  | boolean
  | byte
  | char
  | short
  | int
  | long
  | float
  | double
  | void
  deriving DecidableEq, Repr

namespace Primitive

def all : List Primitive :=
  [boolean, byte, char, short, int, long, float, double, void]

def name : Primitive → String
  | boolean => "boolean"
  | byte => "byte"
  | char => "char"
  | short => "short"
  | int => "int"
  | long => "long"
  | float => "float"
  | double => "double"
  | void => "void"

def letter : Primitive → Char
  | boolean => 'Z'
  | byte => 'B'
  | char => 'C'
  | short => 'S'
  | int => 'I'
  | long => 'J'
  | float => 'F'
  | double => 'D'
  | void => 'V'

def ofName? (s : String) : Option Primitive :=
  all.find? fun p => p.name == s

def ofLetter? (c : Char) : Option Primitive :=
  all.find? fun p => p.letter == c

end Primitive

/-- A reference to a type. -/
inductive TypeRef where
  | primitive (type : Primitive)
  /-- A class or interface, by its dotted name. -/
  | named (name : String)
  | array (component : TypeRef)
  /-- A type whose name could not be resolved. -/
  | unresolved (name : String)
  deriving DecidableEq, Repr

namespace TypeRef

/-- The source spelling of a type, which is also its identity in facts. -/
def name : TypeRef → String
  | primitive p => p.name
  | named n => n
  | array t => t.name ++ "[]"
  | unresolved n => "?" ++ n

/-- The type under all array levels. -/
def element : TypeRef → TypeRef
  | array t => t.element
  | t => t

/-- The number of array levels. -/
def depth : TypeRef → Nat
  | array t => t.depth + 1
  | _ => 0

/-- The type under `n` further array levels. -/
def nest : Nat → TypeRef → TypeRef
  | 0, t => t
  | n + 1, t => array (nest n t)

/-- Whether the type under all array levels is resolved. -/
def isResolved : TypeRef → Bool
  | array t => t.isResolved
  | unresolved _ => false
  | _ => true

end TypeRef
end ProgramFacts
