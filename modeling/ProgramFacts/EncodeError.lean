/-!
# Encoding errors

The causes for which an encoding stops.  An error may carry layers that name the units it occurred
in; `within` adds a layer unless the outermost one already names the unit.
-/

namespace ProgramFacts

/-- Why an encoding stopped. -/
inductive EncodeError where
  /-- A type that is neither primitive nor a class nor an array of such. -/
  | invalidTypeKind (typeName : String)
  /-- A class literal that is no descriptor of a class or array. -/
  | unsupportedClassConstantSyntax (literal : String) (instruction : String)
  | parameterOutOfRange (method : String) (index : Nat) (arity : Nat)
  | io (path : String) (text : String)
  /-- The workers that share the classes of a program could not be started. -/
  | workerPool (text : String)
  /-- An error that occurred inside a unit. -/
  | inUnit (unit : String) (source : EncodeError)
  deriving DecidableEq, Repr

namespace EncodeError

def message : EncodeError → String
  | invalidTypeKind typeName => "Don't know what to do with type `" ++ typeName ++ "`"
  | unsupportedClassConstantSyntax literal instruction =>
    "Unexpected class constant `" ++ literal ++ "` in " ++ instruction
  | parameterOutOfRange method index arity =>
    "Parameter index " ++ index.repr ++ " out of range for " ++ method ++ " (" ++ arity.repr ++
      " parameters)"
  | io path text => "I/O error on " ++ path ++ ": " ++ text
  | workerPool text => "Failed to build worker pool: " ++ text
  | inUnit unit source => "Failed to encode " ++ unit ++ ": " ++ source.message

/-- Adds the layer of a unit, unless the outermost layer already names it. -/
def within (unit : String) (e : EncodeError) : EncodeError :=
  match e with
  | inUnit outer source => if outer = unit then e else inUnit unit (inUnit outer source)
  | _ => inUnit unit e

/-- The error under all layers. -/
def rootCause : EncodeError → EncodeError
  | inUnit _ source => source.rootCause
  | e => e

/-- The units that the layers name, outermost first. -/
def units : EncodeError → List String
  | inUnit unit source => unit :: source.units
  | _ => []

end EncodeError
end ProgramFacts
