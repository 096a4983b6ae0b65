/-!
# JSON values

A value keeps what a reader may want to be strict about: the spelling of a number, the order of an
object's members, members that repeat a key, and whether a string denotes a text at all.  A
string that escapes half of a surrogate pair denotes none.
-/

namespace ProgramFacts

/-- A JSON value. -/
inductive Json where
  | null
  | bool (value : Bool)
  /-- A number, as it was spelled. -/
  | number (lexeme : String)
  /-- A string; `none` if it escapes half of a surrogate pair. -/
  | string (text : Option String)
  | array (items : List Json)
  | object (members : List (Option String × Json))
  deriving Inhabited

namespace Json

def text (s : String) : Json :=
  string (some s)

/-- The number that denotes a natural number. -/
def natural (n : Nat) : Json :=
  number n.repr

def record (members : List (String × Json)) : Json :=
  object (members.map fun (key, value) => (some key, value))

def texts (items : List String) : Json :=
  array (items.map text)

/-- The value that stands for an optional one. -/
def option (value : Option Json) : Json :=
  value.getD null

def text? : Json → Option String
  | string t => t
  | _ => none

/-- The truth value of a boolean. -/
def bool? : Json → Option Bool
  | bool b => some b
  | _ => none

def items? : Json → Option (List Json)
  | array items => some items
  | _ => none

/-- The natural number below `bound` that a number spells with digits alone. -/
def naturalBelow? (bound : Nat) : Json → Option Nat
  | number lexeme =>
    if lexeme.toList.all Char.isDigit then
      let n := lexeme.toList.foldl (fun n c => n * 10 + (c.toNat - '0'.toNat)) 0
      if n < bound then some n else none
    else
      none
  | _ => none

/-- The value of the last member with a given key. -/
def member? (key : String) : Json → Option Json
  | object members => (members.reverse.find? fun m => m.1 == some key).map Prod.snd
  | _ => none

end Json
end ProgramFacts
