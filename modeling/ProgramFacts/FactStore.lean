import ProgramFacts.Relation
import ProgramFacts.Text.Basic

/-!
# The fact store

The store remembers every accepted fact in order.  Queries see the set of rows of each relation,
in ascending order and without repetitions; only the journal shows order and multiplicity.
-/

namespace ProgramFacts

/-- A list without the elements that equal the next one. -/
def dropRepeats {α : Type} [DecidableEq α] : List α → List α
  | [] => []
  | [a] => [a]
  | a :: b :: rest => if a = b then dropRepeats (b :: rest) else a :: dropRepeats (b :: rest)

/-- The distinct rows of a list, ascending. -/
def sortRows (rows : List (List String)) : List (List String) :=
  dropRepeats (rows.mergeSort Text.precedes)

/-- A store of facts. -/
structure FactStore where
  /-- Whether the store shows its journal. -/
  journaled : Bool
  /-- The facts that were accepted, oldest first. -/
  accepted : Array Fact

namespace FactStore

def empty (journaled : Bool) : FactStore :=
  ⟨journaled, #[]⟩

/-- Accepts a fact. -/
def add (s : FactStore) (f : Fact) : FactStore :=
  { s with accepted := s.accepted.push f }

/-- Accepts the facts of a list in order. -/
def addAll (s : FactStore) (fs : List Fact) : FactStore :=
  fs.foldl add s

/-- Accepts a row, if it has the right number of cells. -/
def addRow? (s : FactStore) (r : Relation) (row : List String) : Option FactStore :=
  (Fact.ofRow? r row).map s.add

/-- The rows that were accepted for a relation, oldest first. -/
def rowsOf (s : FactStore) (r : Relation) : List (List String) :=
  (s.accepted.toList.filter fun f => f.relation = r).map Fact.row

/-- The distinct rows of a relation, ascending. -/
def facts (s : FactStore) (r : Relation) : List (List String) :=
  sortRows (s.rowsOf r)

def contains (s : FactStore) (r : Relation) (row : List String) : Bool :=
  (s.rowsOf r).contains row

/-- The distinct rows of a relation with a given first cell, ascending. -/
def lookup (s : FactStore) (r : Relation) (key : String) : List (List String) :=
  (s.facts r).filter fun row => row.head? == some key

/-- The number of distinct rows of a relation. -/
def count (s : FactStore) (r : Relation) : Nat :=
  (s.facts r).length

/-- The number of distinct rows of all relations. -/
def size (s : FactStore) : Nat :=
  (Relation.all.flatMap s.facts).length

/-- Whether no relation has a row. -/
def isEmpty (s : FactStore) : Bool :=
  s.size == 0

/-- The relations that have rows, in the order of the schema, with their rows. -/
def snapshot (s : FactStore) : List (Relation × List (List String)) :=
  (Relation.all.map fun r => (r, s.facts r)).filter fun entry => !entry.2.isEmpty

/-- Every accepted fact, oldest first; nothing if the store keeps no journal. -/
def journal (s : FactStore) : List Fact :=
  if s.journaled then s.accepted.toList else []

end FactStore
end ProgramFacts
