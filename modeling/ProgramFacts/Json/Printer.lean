import ProgramFacts.Json.Basic
import ProgramFacts.Text.Number

/-!
# Writing JSON

Two layouts: `compact` puts everything on one line without blanks, and `pretty` puts each item and
member on a line of its own, two blanks deeper than its container.
-/

namespace ProgramFacts
namespace Json

/-- How a character is written in a string: control characters, quotes and backslashes escaped. -/
def escapeChar (c : Char) : List Char :=
  if c = '"' then ['\\', '"']
  else if c = '\\' then ['\\', '\\']
  else if c = '\x08' then ['\\', 'b']
  else if c = '\x0c' then ['\\', 'f']
  else if c = '\n' then ['\\', 'n']
  else if c = '\r' then ['\\', 'r']
  else if c = '\t' then ['\\', 't']
  else if c.toNat < 0x20 then
    ['\\', 'u', '0', '0', Text.hexDigit (c.toNat / 16), Text.hexDigit (c.toNat % 16)]
  else [c]

/-- A text between quotes. -/
def quote (s : String) : List Char :=
  '"' :: (s.toList.flatMap escapeChar ++ ['"'])

/-- A line break and the indentation of a nesting depth. -/
def newline (depth : Nat) : List Char :=
  '\n' :: List.replicate (2 * depth) ' '

mutual

/-- A value on one line. -/
def compactChars : Json → List Char
  | null => ['n', 'u', 'l', 'l']
  | bool true => ['t', 'r', 'u', 'e']
  | bool false => ['f', 'a', 'l', 's', 'e']
  | number lexeme => lexeme.toList
  | string t => quote (t.getD "")
  | array [] => ['[', ']']
  | array (v :: vs) => '[' :: (compactChars v ++ (compactItems vs ++ [']']))
  | object [] => ['{', '}']
  | object ((key, v) :: ms) =>
    '{' :: (quote (key.getD "") ++ ':' :: (compactChars v ++ (compactMembers ms ++ ['}'])))

/-- The items of an array after the first, each after a comma. -/
def compactItems : List Json → List Char
  | [] => []
  | v :: vs => ',' :: (compactChars v ++ compactItems vs)

/-- The members of an object after the first, each after a comma. -/
def compactMembers : List (Option String × Json) → List Char
  | [] => []
  | (key, v) :: ms =>
    ',' :: (quote (key.getD "") ++ ':' :: (compactChars v ++ compactMembers ms))

end

mutual

/-- A value over several lines, inside containers to the given depth. -/
def prettyChars (depth : Nat) : Json → List Char
  | null => ['n', 'u', 'l', 'l']
  | bool true => ['t', 'r', 'u', 'e']
  | bool false => ['f', 'a', 'l', 's', 'e']
  | number lexeme => lexeme.toList
  | string t => quote (t.getD "")
  | array [] => ['[', ']']
  | array (v :: vs) =>
    '[' :: (newline (depth + 1) ++ (prettyChars (depth + 1) v ++
      (prettyItems (depth + 1) vs ++ (newline depth ++ [']']))))
  | object [] => ['{', '}']
  | object ((key, v) :: ms) =>
    '{' :: (newline (depth + 1) ++ (quote (key.getD "") ++ ':' :: ' ' ::
      (prettyChars (depth + 1) v ++ (prettyMembers (depth + 1) ms ++ (newline depth ++ ['}'])))))

/-- The items of an array after the first, each after a comma and on a line of its own. -/
def prettyItems (depth : Nat) : List Json → List Char
  | [] => []
  | v :: vs => ',' :: (newline depth ++ (prettyChars depth v ++ prettyItems depth vs))

/-- The members of an object after the first, each after a comma and on a line of its own. -/
def prettyMembers (depth : Nat) : List (Option String × Json) → List Char
  | [] => []
  | (key, v) :: ms =>
    ',' :: (newline depth ++ (quote (key.getD "") ++ ':' :: ' ' ::
      (prettyChars depth v ++ prettyMembers depth ms)))

end

/-- The text of a value on one line. -/
def compact (v : Json) : String :=
  String.ofList (compactChars v)

/-- The text of a value over several lines. -/
def pretty (v : Json) : String :=
  String.ofList (prettyChars 0 v)

end Json
end ProgramFacts
