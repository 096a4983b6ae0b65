import ProgramFacts.Json.Basic
import ProgramFacts.Json.Token

/-!
# Reading JSON

Tokens are put together by a machine that holds the containers still open on a stack.  Each step
takes one token, so reading ends with the tokens, however deeply they nest.
-/

namespace ProgramFacts
namespace Json

/-- A container that is still open, with what it holds so far in reverse. -/
inductive Frame where
  | array (items : List Json)
  /-- An object, and the key whose value is being read. -/
  | object (members : List (Option String × Json)) (key : Option String)

/-- What the machine has read and what may follow. -/
inductive Reading where
  /-- A value has to follow. -/
  | value (stack : List Frame)
  /-- An array was opened: a value or its end may follow. -/
  | firstItem (stack : List Frame)
  /-- An item was read: a comma or the array's end may follow. -/
  | afterItem (items : List Json) (stack : List Frame)
  /-- An object was opened: a key or its end may follow. -/
  | firstKey (stack : List Frame)
  /-- A comma was read: a key has to follow. -/
  | key (members : List (Option String × Json)) (stack : List Frame)
  /-- A key was read: a colon has to follow. -/
  | colon (members : List (Option String × Json)) (key : Option String) (stack : List Frame)
  /-- A member was read: a comma or the object's end may follow. -/
  | afterMember (members : List (Option String × Json)) (stack : List Frame)
  /-- The outermost value is complete: nothing may follow. -/
  | done (value : Json)

/-- Hands a complete value to the innermost open container. -/
def deliver (v : Json) : List Frame → Reading
  | [] => .done v
  | .array items :: stack => .afterItem (v :: items) stack
  | .object members key :: stack => .afterMember ((key, v) :: members) stack

def beginValue (stack : List Frame) : Token → Option Reading
  | .null => some (deliver .null stack)
  | .bool b => some (deliver (.bool b) stack)
  | .number lexeme => some (deliver (.number lexeme) stack)
  | .string t => some (deliver (.string t) stack)
  | .beginArray => some (.firstItem stack)
  | .beginObject => some (.firstKey stack)
  | _ => none

def readToken : Reading → Token → Option Reading
  | .value stack, t => beginValue stack t
  | .firstItem stack, .endArray => some (deliver (.array []) stack)
  -- the array goes on the stack once it has something to hold
  | .firstItem stack, t => beginValue (.array [] :: stack) t
  | .afterItem items stack, .endArray => some (deliver (.array items.reverse) stack)
  | .afterItem items stack, .comma => some (.value (.array items :: stack))
  | .firstKey stack, .endObject => some (deliver (.object []) stack)
  | .firstKey stack, .string t => some (.colon [] t stack)
  | .key members stack, .string t => some (.colon members t stack)
  | .colon members key stack, .colon => some (.value (.object members key :: stack))
  | .afterMember members stack, .endObject => some (deliver (.object members.reverse) stack)
  | .afterMember members stack, .comma => some (.key members stack)
  | _, _ => none

def readTokens (state : Reading) (ts : List Token) : Option Reading :=
  ts.foldlM readToken state

/-- Reads a JSON text: one value with nothing but blanks around it. -/
def ofText? (s : String) : Option Json :=
  match (tokens s.toList).bind (readTokens (.value [])) with
  | some (.done v) => some v
  | _ => none

end Json
end ProgramFacts
