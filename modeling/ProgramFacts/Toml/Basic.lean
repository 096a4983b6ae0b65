/-!
# TOML values

The values of a TOML document, and how its tables grow.  A table remembers how it came to be,
because that decides what may still be added to it: a table can be opened by one header only, a
dotted key may add to tables that dotted keys made, and an inline table is complete as it stands.
-/

namespace ProgramFacts

/-- How a table came to be. -/
inductive Toml.TableKind where
  /-- It has a header of its own. -/
  | header
  /-- It is named in the header of a table below it. -/
  | implied
  /-- It is named in a dotted key. -/
  | dotted
  /-- It is written within a value. -/
  | inline
  deriving DecidableEq, Repr

/-- A value of a TOML document. -/
inductive Toml where
  | integer (value : Int)
  | float (lexeme : String)
  | boolean (value : Bool)
  | string (text : String)
  /-- A date, a time or both. -/
  | moment (lexeme : String)
  | array (items : List Toml)
  | table (kind : Toml.TableKind) (members : List (String × Toml))
  /-- The tables of a repeated header, the last one first. -/
  | elements (tables : List Toml)
  deriving Inhabited

namespace Toml

/-- The least number above the integers, which are those of 64 bits with a sign. -/
def integerBound : Nat :=
  0x8000000000000000

/-- A table without members. -/
def emptyTable (kind : TableKind) : Toml :=
  .table kind []

/-- The members in which a key has a given value. -/
def setMember (key : String) (v : Toml) : List (String × Toml) → List (String × Toml)
  | [] => [(key, v)]
  | (k, old) :: rest => if k = key then (k, v) :: rest else (k, old) :: setMember key v rest

/-- Whether a path may pass through a table; `byKey` tells a dotted key from a header. -/
def TableKind.isOpen (byKey : Bool) : TableKind → Bool
  | header => !byKey
  | implied => true
  | dotted => true
  | inline => false

/--
Changes the table to which a path leads.  Tables that do not exist yet are made on the way, and a
repeated header stands for its last table.
-/
def alter (byKey : Bool) (change : Toml → Option Toml) : List String → Toml → Option Toml
  | [], t => change t
  | key :: path, .table kind members =>
    match members.lookup key with
    | none => do
      let made := emptyTable (if byKey then .dotted else .implied)
      return .table kind (setMember key (← alter byKey change path made) members)
    | some (.elements (last :: earlier)) => do
      let changed := .elements ((← alter byKey change path last) :: earlier)
      return .table kind (setMember key changed members)
    | some (.table inner below) =>
      if inner.isOpen byKey then do
        let changed ← alter byKey change path (.table inner below)
        return .table kind (setMember key changed members)
      else
        none
    | some _ => none
  | _ :: _, _ => none

/-- Adds a member to a table that has no member of that key. -/
def addMember (key : String) (v : Toml) : Toml → Option Toml
  | .table kind members =>
    if (members.lookup key).isNone then some (.table kind (members ++ [(key, v)])) else none
  | _ => none

/-- Whether a table was made by dotted keys. -/
def isDotted : Toml → Bool
  | .table .dotted _ => true
  | _ => false

/-- Gives a value to a dotted key, seen from a table. -/
def assign (path : List String) (key : String) (v : Toml) (t : Toml) : Option Toml :=
  let add (parent : Toml) : Option Toml :=
    if path.isEmpty || parent.isDotted then addMember key v parent else none
  alter true add path t

def openTable (key : String) : Toml → Option Toml
  | .table kind members =>
    match members.lookup key with
    | none => some (.table kind (members ++ [(key, emptyTable .header)]))
    | some (.table .implied inner) =>
      some (.table kind (setMember key (.table .header inner) members))
    | some _ => none
  | _ => none

/-- Adds a table to those of a repeated header. -/
def openElement (key : String) : Toml → Option Toml
  | .table kind members =>
    match members.lookup key with
    | none => some (.table kind (members ++ [(key, .elements [emptyTable .header])]))
    | some (.elements tables) =>
      some (.table kind (setMember key (.elements (emptyTable .header :: tables)) members))
    | some _ => none
  | _ => none

/-- The inline table with the given dotted keys and values. -/
def inlineTable? (entries : List ((List String × String) × Toml)) : Option Toml :=
  entries.foldlM (fun t ((path, key), v) => assign path key v t) (emptyTable .inline)

end Toml
end ProgramFacts
