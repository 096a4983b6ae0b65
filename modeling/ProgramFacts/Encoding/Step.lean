import ProgramFacts.EncodeError
import ProgramFacts.Encoding.State
import ProgramFacts.Relation

/-!
# Steps of an encoding

To encode something is to take a list of steps.  The list depends on what is encoded and on the
settings, never on what was encoded before; only the recorded variable types link one step to
another.  A run takes the steps in order and stops at the first that fails, keeping what was
written until then.
-/

namespace ProgramFacts

/-- One step of an encoding. -/
inductive Step where
  /-- Write a row. -/
  | write (fact : Fact)
  /-- Write the rows of a type's array levels, or fail if the type is unresolved. -/
  | mention (type : TypeRef)
  /-- Record a variable's type and write its rows, or fail if the recorded type is unresolved. -/
  | declare (var : String) (type : TypeRef) (method : String)
  /-- Use up the next number of a base name. -/
  | draw (basename : String)
  /-- Fail. -/
  | refuse (error : EncodeError)

/-- A step, and the units that it belongs to, innermost first. -/
structure Task where
  step : Step
  units : List String

/-- The steps of an encoding in order. -/
abbrev Plan := List Task

namespace Plan

/-- A plan whose steps belong to no unit. -/
def ofSteps (steps : List Step) : Plan :=
  steps.map fun s => ⟨s, []⟩

/-- A plan as a part of a unit. -/
def within (unit : String) (p : Plan) : Plan :=
  p.map fun t => { t with units := t.units ++ [unit] }

/-- The base names whose numbers a step uses up. -/
def drawnBy : Task → List String
  | ⟨.draw basename, _⟩ => [basename]
  | _ => []

/-- The base names whose numbers a plan uses up, in order. -/
def drawn (p : Plan) : List String :=
  p.flatMap drawnBy

end Plan

/-- What happened in a run. -/
structure Run where
  /-- The rows that were written, in order. -/
  rows : List Fact
  /-- The base names whose numbers were used up, in order. -/
  drawn : List String
  /-- The recorded types at the end. -/
  types : RecordedTypes
  /-- The error that stopped the run. -/
  failure : Option EncodeError
  deriving DecidableEq

namespace Run

/-- A run that wrote some rows and did not fail. -/
def wrote (types : RecordedTypes) (rows : List Fact) : Run :=
  ⟨rows, [], types, none⟩

/-- A run that wrote nothing and failed. -/
def failed (types : RecordedTypes) (error : EncodeError) : Run :=
  ⟨[], [], types, some error⟩

/-- Goes on after a run, unless it failed. -/
def andThen (first : Run) (next : RecordedTypes → Run) : Run :=
  match first.failure with
  | some _ => first
  | none =>
    let second := next first.types
    ⟨first.rows ++ second.rows, first.drawn ++ second.drawn, second.types, second.failure⟩

end Run

/-- The rows of a type's array levels, innermost level first. -/
def TypeRef.arrayRows : TypeRef → List Fact
  | array component =>
    component.arrayRows ++
      [.of .arrayType [(array component).name],
        .of .componentType [(array component).name, component.name]]
  | _ => []

/-- The error for a type that is unresolved under its array levels. -/
def TypeRef.kindError (t : TypeRef) : EncodeError :=
  .invalidTypeKind t.element.name

/-- The rows of a variable whose type is recorded. -/
def variableRows (var : String) (type : TypeRef) (method : String) : List Fact :=
  type.arrayRows ++
    [.of .varType [var, type.name], .of .varDeclaringMethod [var, method]]

namespace Step

/-- Takes one step. -/
def run (types : RecordedTypes) : Step → Run
  | write fact => .wrote types [fact]
  | mention type =>
    if type.isResolved then .wrote types type.arrayRows else .failed types type.kindError
  | declare var type method =>
    let recorded := types.resolve var type
    if recorded.isResolved then
      .wrote (types.record var type) (variableRows var recorded method)
    else
      .failed (types.record var type) recorded.kindError
  | draw basename => ⟨[], [basename], types, none⟩
  | refuse error => .failed types error

end Step

/-- Takes one step; an error gets a layer for each unit the step belongs to. -/
def Task.run (types : RecordedTypes) (t : Task) : Run :=
  let r := t.step.run types
  { r with failure := r.failure.map fun e => t.units.foldl (fun e unit => e.within unit) e }

/-- Takes the steps of a plan in order, up to the first that fails. -/
def Plan.run (types : RecordedTypes) : Plan → Run
  | [] => .wrote types []
  | t :: rest => (t.run types).andThen fun types => Plan.run types rest

/-- A plan, and the answer that is given once it has run without failure. -/
structure Encoding (α : Type) where
  plan : Plan
  answer : α

/-- An encoding by steps that belong to no unit. -/
def Encoding.ofSteps {α : Type} (steps : List Step) (answer : α) : Encoding α :=
  ⟨.ofSteps steps, answer⟩

end ProgramFacts
