import ProgramFacts.Json.Basic
import ProgramFacts.Text.Number

/-!
# Decoding JSON values

Records, lists and choices are read strictly: a record takes its fields from the members of an
object or from the items of an array in the order of the fields; members that are no field are
skipped, and a field that occurs twice is refused.
-/

namespace ProgramFacts
namespace Json

/-- The only value of a field among members; `none` if it occurs twice. -/
def onlyMember? (members : List (Option String × Json)) (field : String) : Option (Option Json) :=
  match members.filter (fun m => m.1 == some field) with
  | [] => some none
  | [m] => some (some m.2)
  | _ => none

/-- The values of a record's fields, where they occur, from the members of an object. -/
def memberFields? (fields : List String) (members : List (Option String × Json)) :
    Option (List (Option Json)) :=
  if members.all fun m => m.1.isSome then
    fields.mapM (onlyMember? members)
  else
    none

/-- The values of a record's fields, where they occur. -/
def fields? (fields : List String) : Json → Option (List (Option Json))
  | object members => memberFields? fields members
  | array items =>
    if items.length ≤ fields.length then
      some (items.map some ++ List.replicate (fields.length - items.length) none)
    else
      none
  | _ => none

/-- The value of a field that has to occur. -/
def required {α : Type} (read : Json → Option α) (field : Option Json) : Option α :=
  field.bind read

/-- The value of a field that has a default. -/
def withDefault {α : Type} (default : α) (read : Json → Option α) : Option Json → Option α
  | none => some default
  | some v => read v

/-- A value, or `null` for its absence. -/
def nullable {α : Type} (read : Json → Option α) : Json → Option (Option α)
  | null => some none
  | v => (read v).map some

def listOf {α : Type} (read : Json → Option α) (v : Json) : Option (List α) :=
  v.items?.bind fun items => items.mapM read

/--
The name of a choice without contents: a string, or an object whose only key is the name and whose
value is empty.
-/
def choice? (isEmpty : Json → Bool) : Json → Option String
  | string t => t
  | object [(key, v)] => if isEmpty v then key else none
  | _ => none

/-- Whether a value is `null`. -/
def isNull : Json → Bool
  | null => true
  | _ => false

/-- Whether a value is `null` or an object without members. -/
def isNullOrEmptyObject : Json → Bool
  | null => true
  | object [] => true
  | _ => false

/-! ## Buffered values

A value that is read as a whole before its meaning is known has to be readable all the way down:
every string and key is a text, every number is within the range of a double, and the nesting is
bounded.
-/

mutual

/-- Whether a value is readable all the way down, with at most `depth` nested containers. -/
def isBufferable (depth : Nat) : Json → Bool
  | null => true
  | bool _ => true
  | number lexeme => Text.isFiniteDecimal lexeme
  | string t => t.isSome
  | array items =>
    match depth with
    | 0 => false
    | d + 1 => areBufferable d items
  | object members =>
    match depth with
    | 0 => false
    | d + 1 => haveBufferableValues d members

/-- Whether every item is readable all the way down. -/
def areBufferable (depth : Nat) : List Json → Bool
  | [] => true
  | v :: vs => isBufferable depth v && areBufferable depth vs

/-- Whether every member is readable all the way down. -/
def haveBufferableValues (depth : Nat) : List (Option String × Json) → Bool
  | [] => true
  | (key, v) :: ms => key.isSome && isBufferable depth v && haveBufferableValues depth ms

end

end Json
end ProgramFacts
