import ProgramFacts.Yaml.Layout

/-!
# From tokens to nodes

Nodes are put together from the tokens of a text.  A text holds at most one document, an alias
stands for the last node of its name, and a missing node is an empty plain scalar.
-/

namespace ProgramFacts
namespace Yaml

/-- The tokens that are left, and what is known of the document so far. -/
structure Feed where
  tokens : List Token
  /-- The nodes that aliases may name, the last one first. -/
  anchors : List (String × Yaml)
  /-- What the handles of tags stand for. -/
  handles : List (String × String)

/-- Reads nodes from a feed. -/
abbrev FeedM := StateT Feed Option

namespace Feed

/-- The handles that every document knows. -/
def standardHandles : List (String × String) :=
  [("!", "!"), ("!!", "tag:yaml.org,2002:")]

/-- The next token, which stays where it is. -/
def peek : FeedM (Option Token) := do
  return (← get).tokens.head?

/-- Drops the next token. -/
def skip : FeedM Unit :=
  modify fun f => { f with tokens := f.tokens.drop 1 }

/-- Takes a given token, which has to be next. -/
def expect (t : Token) : FeedM Unit := do
  if (← peek) = some t then skip else failure

/-- Takes a given token, if it is next, and tells whether it was. -/
def accept (t : Token) : FeedM Bool := do
  if (← peek) = some t then
    skip
    return true
  else
    return false

/-- Names a node, if it has an anchor. -/
def record (anchor : Option String) (v : Yaml) : FeedM Unit :=
  match anchor with
  | some name => modify fun f => { f with anchors := (name, v) :: f.anchors }
  | none => pure ()

/-- Reads an anchor, if one is next. -/
def anchor : FeedM (Option String) := do
  match ← peek with
  | some (.anchor name) =>
    skip
    return some name
  | _ => return none

/-- Reads a tag, if one is next; its handle has to be known. -/
def tag : FeedM (Option String) := do
  match ← peek with
  | some (.tag handle suffix) =>
    skip
    if handle = "" then
      return some suffix
    else
      match (← get).handles.lookup handle with
      | some expansion => return some (expansion ++ suffix)
      | none => failure
  | _ => return none

/-- Reads an anchor and a tag in either order, as far as they are there. -/
def properties : FeedM (Option String × Option String) := do
  match ← anchor with
  | some name => return (some name, ← tag)
  | none =>
    match ← tag with
    | some t => return (← anchor, some t)
    | none => return (none, none)

/-- Whether a token ends an entry of a block collection. -/
def endsBlockEntry : Option Token → Bool
  | some .key => true
  | some .value => true
  | some .blockEnd => true
  | _ => false

/-- Whether a token ends an entry of a flow collection that a given token closes. -/
def endsFlowEntry (close : Token) : Option Token → Bool
  | some .comma => true
  | some t => t = close
  | none => false

mutual

/--
Reads a node, by at most a given depth of calls.  `inBlock` tells whether a block collection may
stand here, and `indentless` whether the items of a sequence may.
-/
def node (inBlock indentless : Bool) : Nat → FeedM Yaml
  | 0 => failure
  | bound + 1 => do
    match ← peek with
    | some (.alias name) =>
      skip
      match (← get).anchors.lookup name with
      | some v => return v
      | none => failure
    | _ =>
      let (name, tag) ← properties
      record name .cyclic
      let v ← content inBlock indentless (name.isSome || tag.isSome) tag bound
      record name v
      return v

/-- Reads what a node holds, after its properties. -/
def content (inBlock indentless optional : Bool) (tag : Option String) : Nat → FeedM Yaml
  | 0 => failure
  | bound + 1 => do
    match ← peek with
    | some (.scalar style text) =>
      skip
      return .scalar style tag text
    | some .flowSequence =>
      skip
      return .sequence (← flowItems true bound)
    | some .flowMapping =>
      skip
      return .mapping (← flowMembers true bound)
    | next =>
      if indentless && next = some .dash then
        return .sequence (← indentlessItems bound)
      else if inBlock && next = some .blockSequence then
        skip
        return .sequence (← blockItems bound)
      else if inBlock && next = some .blockMapping then
        skip
        return .mapping (← blockMembers bound)
      else if optional then
        return missing tag
      else
        failure

/-- Reads the items of a block sequence up to its end. -/
def blockItems : Nat → FeedM (List Yaml)
  | 0 => failure
  | bound + 1 => do
    if ← accept .dash then
      let next ← peek
      let item ←
        if next = some .dash || next = some .blockEnd then pure (missing none)
        else node true false bound
      return item :: (← blockItems bound)
    else
      expect .blockEnd
      return []

/-- Reads the items of a sequence that has no indentation of its own. -/
def indentlessItems : Nat → FeedM (List Yaml)
  | 0 => failure
  | bound + 1 => do
    if ← accept .dash then
      let next ← peek
      let item ←
        if next = some .dash || endsBlockEntry next then pure (missing none)
        else node true false bound
      return item :: (← indentlessItems bound)
    else
      return []

/-- Reads the members of a block mapping up to its end. -/
def blockMembers : Nat → FeedM (List (Yaml × Yaml))
  | 0 => failure
  | bound + 1 => do
    if ← accept .key then
      let key ←
        if endsBlockEntry (← peek) then pure (missing none) else node true true bound
      let v ←
        if ← accept .value then
          if endsBlockEntry (← peek) then pure (missing none) else node true true bound
        else
          pure (missing none)
      return (key, v) :: (← blockMembers bound)
    else
      expect .blockEnd
      return []

/-- Reads the value after a key of a flow collection that a given token closes. -/
def flowValue (close : Token) : Nat → FeedM Yaml
  | 0 => failure
  | bound + 1 => do
    if ← accept .value then
      if endsFlowEntry close (← peek) then return missing none
      else node false false bound
    else
      return missing none

/--
Reads a key and its value in a flow collection that a given token closes.  In a sequence the token
that stands in the place of a missing key is used up.
-/
def flowMember (close : Token) : Nat → FeedM (Yaml × Yaml)
  | 0 => failure
  | bound + 1 => do
    let next ← peek
    if next = some .value || endsFlowEntry close next then
      if close = .flowSequenceEnd then skip
      return (missing none, ← flowValue close bound)
    else
      let key ← node false false bound
      return (key, ← flowValue close bound)

/-- Reads the items of a flow sequence up to its end. -/
def flowItems (first : Bool) : Nat → FeedM (List Yaml)
  | 0 => failure
  | bound + 1 => do
    if ← accept .flowSequenceEnd then
      return []
    else
      if !first then expect .comma
      if ← accept .key then
        let member ← flowMember .flowSequenceEnd bound
        return .mapping [member] :: (← flowItems false bound)
      else if ← accept .flowSequenceEnd then
        return []
      else
        let item ← node false false bound
        return item :: (← flowItems false bound)

/-- Reads the members of a flow mapping up to its end. -/
def flowMembers (first : Bool) : Nat → FeedM (List (Yaml × Yaml))
  | 0 => failure
  | bound + 1 => do
    if ← accept .flowMappingEnd then
      return []
    else
      if !first then expect .comma
      if ← accept .key then
        let member ← flowMember .flowMappingEnd bound
        return member :: (← flowMembers false bound)
      else if ← accept .flowMappingEnd then
        return []
      else
        let key ← node false false bound
        return (key, missing none) :: (← flowMembers false bound)

end

/-- Reads the directives of a document, at most a given number, and tells whether there are any. -/
def directives (versionSeen : Bool) (given : List (String × String)) :
    Nat → FeedM Bool
  | 0 => failure
  | bound + 1 => do
    match ← peek with
    | some (.version major minor) =>
      if versionSeen || major ≠ 1 || (minor ≠ 1 && minor ≠ 2) then failure
      skip
      discard <| directives true given bound
      return true
    | some (.tagHandle handle expansion) =>
      if (given.lookup handle).isSome then failure
      skip
      discard <| directives versionSeen ((handle, expansion) :: given) bound
      return true
    | _ =>
      modify fun f => { f with handles := given ++ standardHandles }
      return false

/-- Whether nothing but bounds of documents is left. -/
def isSpent (f : Feed) : Bool :=
  f.tokens.all (· = .documentEnd)

/-- Reads the document of a feed, if there is one, by at most a given depth of calls. -/
def document (bound : Nat) : FeedM (Option Yaml) := do
  if (← get).tokens.isEmpty then
    return none
  let hasDirectives ← directives false [] bound
  let isExplicit ← accept .documentStart
  if hasDirectives && !isExplicit then
    failure
  let v ←
    if isExplicit && (← get).isSpent then pure (missing none)
    else node true false bound
  if (← get).isSpent then return some v else failure

end Feed

/-- Reads a text of at most one document; the inner `none` is a text without any. -/
def ofText? (s : String) : Option (Option Yaml) := do
  let tokens ← tokens? (← Source.ofText? s)
  let bound := 4 * tokens.length + 4
  let (found, _) ← (Feed.document bound).run ⟨tokens, [], Feed.standardHandles⟩
  return found

end Yaml
end ProgramFacts
