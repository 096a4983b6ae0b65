import ProgramFacts.TypeRef.Basic

/-!
# What encodings keep

The types that were given for variables, and the numbers of synthetic names.
-/

namespace ProgramFacts

/-! ## Recorded variable types

The first type that is given for a variable is recorded and never changes; whoever asks later gets
the recorded one.
-/

/-- The types recorded for variables, by variable identifier, latest variable first. -/
structure RecordedTypes where
  entries : List (String × TypeRef)
  deriving DecidableEq

namespace RecordedTypes

def empty : RecordedTypes :=
  ⟨[]⟩

/-- The type recorded for a variable. -/
def get? (types : RecordedTypes) (var : String) : Option TypeRef :=
  types.entries.lookup var

/-- The type that stands for a variable when `type` is given for it. -/
def resolve (types : RecordedTypes) (var : String) (type : TypeRef) : TypeRef :=
  (types.get? var).getD type

/-- Records a type for a variable, unless one is recorded already. -/
def record (types : RecordedTypes) (var : String) (type : TypeRef) : RecordedTypes :=
  match types.get? var with
  | some _ => types
  | none => ⟨(var, type) :: types.entries⟩

/-- The number of variables with a recorded type. -/
def size (types : RecordedTypes) : Nat :=
  types.entries.length

end RecordedTypes

/-! ## Numbering of synthetic names

Each base name has a counter of its own that starts at zero.  The counters have no bound: they agree
with counters of 32 bits as long as every base name is used fewer than `2 ^ 32` times.
-/

/-- The next number of each base name that has been used. -/
structure Numbering where
  counters : List (String × Nat)
  deriving DecidableEq

namespace Numbering

/-- No base name has been used. -/
def empty : Numbering :=
  ⟨[]⟩

/-- The next number of a base name. -/
def next (n : Numbering) (basename : String) : Nat :=
  (n.counters.lookup basename).getD 0

/-- Uses up the next number of a base name. -/
def advance (n : Numbering) (basename : String) : Numbering :=
  ⟨(basename, n.next basename + 1) :: n.counters.filter fun c => c.1 != basename⟩

/-- Uses up a number for each base name of a list. -/
def advanceAll (n : Numbering) (basenames : List String) : Numbering :=
  basenames.foldl advance n

end Numbering

end ProgramFacts
