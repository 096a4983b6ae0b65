/-!
# YAML nodes

The nodes of a YAML document, and the tokens that describe them one after another.  Tokens stand
between a text and its nodes: indentation has become explicit begins and ends, and the key of a
mapping follows a token that announces it.
-/

namespace ProgramFacts

/-- How a scalar is written. -/
inductive Yaml.Style where
  | plain
  | quoted
  /-- A block of lines that keep their ends. -/
  | literal
  /-- A block of lines that are joined. -/
  | folded
  deriving DecidableEq, Repr

/-- A node of a YAML document. -/
inductive Yaml where
  | scalar (style : Yaml.Style) (tag : Option String) (text : String)
  | sequence (items : List Yaml)
  | mapping (members : List (Yaml × Yaml))
  /-- An alias to a node that contains it. -/
  | cyclic
  deriving Inhabited

namespace Yaml

/-- A token of a YAML text. -/
inductive Token where
  | version (major minor : Nat)
  | tagHandle (handle expansion : String)
  | documentStart
  | documentEnd
  | blockSequence
  | blockMapping
  | blockEnd
  | flowSequence
  | flowSequenceEnd
  | flowMapping
  | flowMappingEnd
  /-- A comma in a flow collection. -/
  | comma
  /-- The dash of an item. -/
  | dash
  | key
  | value
  | alias (name : String)
  | anchor (name : String)
  | tag (handle suffix : String)
  | scalar (style : Style) (text : String)
  deriving DecidableEq, Repr

/-- The plain scalar without text, which stands where a node is missing. -/
def missing (tag : Option String) : Yaml :=
  .scalar .plain tag ""

end Yaml
end ProgramFacts
