import ProgramFacts.Json.Basic
import ProgramFacts.Settings.Basic

/-!
# Settings documents

What a settings document says, whatever its format: sections with members, lists, and scalars that
may be read as numbers, truth values or characters.  A section may also be written as the list of
its values; members that are no setting are skipped, and settings that are not given have their
standard values.
-/

namespace ProgramFacts

/-- A part of a settings document. -/
inductive SettingTree where
  /-- Nothing, where a section may stand. -/
  | nothing
  /-- A scalar, with its possible readings. -/
  | scalar (number : Option Nat) (truth : Option Bool) (character : Option Char)
  /-- Members by key; a key that is no text is `none`. -/
  | table (members : List (Option String × SettingTree))
  | list (items : List SettingTree)
  deriving Inhabited

namespace SettingTree

def numberBound : Nat :=
  UInt64.size

def onlyChar? (s : String) : Option Char :=
  match s.toList with
  | [c] => some c
  | _ => none

def number? : SettingTree → Option Nat
  | scalar (some n) _ _ => if n < numberBound then some n else none
  | _ => none

/-- The truth value that a scalar denotes. -/
def truth? : SettingTree → Option Bool
  | scalar _ b _ => b
  | _ => none

def character? : SettingTree → Option Char
  | scalar _ _ c => c
  | _ => none

/-- The only value of a setting among members; `none` if it is given twice. -/
def onlyMember? (members : List (Option String × SettingTree)) (key : String) :
    Option (Option SettingTree) :=
  match members.filter (fun m => m.1 == some key) with
  | [] => some none
  | [m] => some (some m.2)
  | _ => none

/-- The values of a section's settings, where they are given. -/
def settings? (surplus : Bool) (keys : List String) :
    SettingTree → Option (List (Option SettingTree))
  | nothing => some (keys.map fun _ => none)
  | table members =>
    if members.all fun m => m.1.isSome then keys.mapM (onlyMember? members) else none
  | list items =>
    if surplus || items.length ≤ keys.length then
      some ((items.take keys.length).map some ++
        List.replicate (keys.length - items.length) none)
    else
      none
  | scalar .. => none

/-- The value of a setting, or its standard value if it is not given. -/
def orStandard {α : Type} (standard : α) (read : SettingTree → Option α) :
    Option SettingTree → Option α
  | none => some standard
  | some t => read t

end SettingTree

/-- Reads the section on identifiers. -/
def EncoderSettings.ofTree? (surplus : Bool) (t : SettingTree) : Option EncoderSettings :=
  match t.settings? surplus
      ["string_hash_threshold", "signature_hash_threshold", "quote_padded_strings"] with
  | some [strings, signatures, quote] => do
    return {
      stringHashThreshold :=
        ← SettingTree.orStandard standard.stringHashThreshold SettingTree.number? strings
      signatureHashThreshold :=
        ← SettingTree.orStandard standard.signatureHashThreshold SettingTree.number? signatures
      quotePaddedStrings :=
        ← SettingTree.orStandard standard.quotePaddedStrings SettingTree.truth? quote }
  | _ => none

/-- Reads the section on the schedule. -/
def GeneratorSettings.ofTree? (surplus : Bool) (t : SettingTree) : Option GeneratorSettings :=
  match t.settings? surplus ["workers"] with
  | some [workers] => do
    return {
      workers := ← SettingTree.orStandard standard.workers SettingTree.number? workers }
  | _ => none

/-- Reads the section on fact files. -/
def OutputSettings.ofTree? (surplus : Bool) (t : SettingTree) : Option OutputSettings :=
  match t.settings? surplus ["separator"] with
  | some [separator] => do
    return {
      separator := ← SettingTree.orStandard standard.separator SettingTree.character? separator }
  | _ => none

/--
Reads settings.  `surplus` tells whether a section that is written as a list may have more values
than settings.
-/
def Settings.ofTree? (surplus : Bool) (t : SettingTree) : Option Settings :=
  match t.settings? surplus ["encoder", "generator", "output"] with
  | some [encoder, generator, output] => do
    return {
      encoder := ← SettingTree.orStandard .standard (EncoderSettings.ofTree? surplus) encoder
      generator := ← SettingTree.orStandard .standard (GeneratorSettings.ofTree? surplus) generator
      output := ← SettingTree.orStandard .standard (OutputSettings.ofTree? surplus) output }
  | _ => none

mutual

/-- A JSON value as a settings document. -/
def SettingTree.ofJson : Json → SettingTree
  | .null => .scalar none none none
  | .bool b => .scalar none (some b) none
  | .number lexeme => .scalar ((Json.number lexeme).naturalBelow? numberBound) none none
  | .string t => .scalar none none (t.bind onlyChar?)
  | .array items => .list (ofJsonItems items)
  | .object members => .table (ofJsonMembers members)

/-- JSON items as parts of a settings document. -/
def SettingTree.ofJsonItems : List Json → List SettingTree
  | [] => []
  | v :: vs => ofJson v :: ofJsonItems vs

/-- JSON members as parts of a settings document. -/
def SettingTree.ofJsonMembers :
    List (Option String × Json) → List (Option String × SettingTree)
  | [] => []
  | (key, v) :: ms => (key, ofJson v) :: ofJsonMembers ms

end

def Settings.ofJson? (v : Json) : Option Settings :=
  Settings.ofTree? false (SettingTree.ofJson v)

end ProgramFacts
