import ProgramFacts.FactStore
import ProgramFacts.Generation

/-!
# The encoder

An encoder holds a fact store and the recorded variable types.  It performs one encoding after
another; what a failing one wrote before it stopped stays in the store.
-/

namespace ProgramFacts

/-- A fact store that encodings write to. -/
structure Encoder where
  settings : EncoderSettings
  store : FactStore
  types : RecordedTypes

/-- What came of performing an encoding. -/
structure Performed (α : Type) where
  encoder : Encoder
  run : Run
  result : Except EncodeError α

namespace Encoder

def fresh (settings : EncoderSettings) (journaled : Bool) : Encoder :=
  ⟨settings, .empty journaled, .empty⟩

def perform {α : Type} (e : Encoder) (x : Encoding α) : Performed α :=
  let run := x.plan.run e.types
  { encoder := { e with store := e.store.addAll run.rows, types := run.types }
    run := run
    result :=
      match run.failure with
      | some error => .error error
      | none => .ok x.answer }

/-- Encodes a program. -/
def generate (e : Encoder) (p : Program) : Performed Statistics :=
  e.perform (Encoding.wholeProgram e.settings p)

end Encoder
end ProgramFacts
