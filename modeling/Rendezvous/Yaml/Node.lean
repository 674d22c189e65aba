import Rendezvous.Yaml.Token
import Rendezvous.Entries

/-!
# YAML as a tree

`Node.ofTokens?` puts tokens together: a node is a scalar, a sequence or a mapping, each with a tag that
says what it stands for.  A plain scalar without a tag has none yet: its text decides.  A reference
stands for the node with its anchor, which must have been read in full; no two anchors have one name.
A text holds at most one document.
-/

namespace Rendezvous.Yaml

/-- A tree. -/
inductive Node where
  | scalar (tag : Option String) (text : String)
  | sequence (tag : String) (items : List Node)
  | mapping (tag : String) (entries : List (Node × Node))
  deriving Inhabited

/-- What the tags of the standard begin with. -/
def standard : String := "tag:yaml.org,2002:"

/-- A tag of the standard. -/
def standardTag (name : String) : String := standard ++ name

/-- What nothing stands for: a plain scalar without text. -/
def Node.empty : Node := .scalar none ""

/-- The state of putting tokens together. -/
structure Composing where
  tokens : List Token
  /-- The anchors that have been met. -/
  anchors : List String := []
  /-- The nodes behind the anchors, as far as they have been read. -/
  nodes : Entries Node := []

/-- A step of putting tokens together. -/
abbrev Compose := StateT Composing Option

namespace Compose

/-- The next token. -/
def next : Compose (Option Token) := return (← get).tokens.head?

/-- Pass over the next token. -/
def drop : Compose Unit := modify fun s => { s with tokens := s.tokens.drop 1 }

/-- Whether the next token is one of some. -/
def isNext (ts : List Token) : Compose Bool := do
  match ← next with
  | some t => return ts.contains t
  | none => return false

/-- Pass over a token that has to be there. -/
def expect (t : Token) : Compose Unit := do
  if ← isNext [t] then drop else failure

/-- Note an anchor; none of that name may have been met. -/
def note (name : String) : Compose Unit := do
  let s ← get
  if s.anchors.contains name then failure
  set { s with anchors := name :: s.anchors }

/-- The tag that a handle and a suffix make. -/
def tagOf (handles : Entries String) (handle : Option String) (suffix : String) : Compose String :=
  match handle with
  | none => return suffix
  | some h =>
    match Entries.get? h handles with
    | some stands => return stands ++ suffix
    | none => failure

/-- The anchor and the tag in front of a node, in either order. -/
def properties (handles : Entries String) : Compose (Option String × Option String) := do
  match ← next with
  | some (.anchor a) =>
    drop
    match ← next with
    | some (.tag h s) => drop; return (some a, some (← tagOf handles h s))
    | _ => return (some a, none)
  | some (.tag h s) =>
    drop
    let t ← tagOf handles h s
    match ← next with
    | some (.anchor a) => drop; return (some a, some t)
    | _ => return (none, some t)
  | _ => return (none, none)

/-- The tag of a collection. -/
def collectionTag (default : String) (tag : Option String) : String :=
  match tag with
  | none => standardTag default
  | some t => if t == "!" then standardTag default else t

/-- The tag of a scalar; a plain one without a tag has none. -/
def scalarTag (plain : Bool) (tag : Option String) : Option String :=
  match tag with
  | none => if plain then none else some (standardTag "str")
  | some t => if t == "!" then none else some t

mutual

/-- A node.  Block collections are read where `block` allows, and a list whose entries stand no further
right than its key where `loose` does. -/
def node (handles : Entries String) (block loose : Bool) : (fuel : Nat) → Compose Node
  | 0 => failure
  | fuel + 1 => do
    match ← next with
    | some (.alias name) =>
      drop
      match Entries.get? name (← get).nodes with
      | some n => return n
      | none => failure
    | _ =>
      let (anchor, tag) ← properties handles
      if let some a := anchor then note a
      let n ← content handles block loose (anchor.isSome || tag.isSome) tag fuel
      if let some a := anchor then
        modify fun s => { s with nodes := Entries.put a n s.nodes }
      return n

/-- A node behind its anchor and tag; with either of them it may be empty. -/
def content (handles : Entries String) (block loose mayBeEmpty : Bool) (tag : Option String) :
    (fuel : Nat) → Compose Node
  | 0 => failure
  | fuel + 1 => do
    let t ← next
    if loose && t == some .entry then
      return .sequence (collectionTag "seq" tag) (← looseItems handles fuel)
    match t with
    | some (.scalar text plain) =>
      drop
      return .scalar (scalarTag plain tag) text
    | some .listStart =>
      drop
      return .sequence (collectionTag "seq" tag) (← flowItems handles true fuel)
    | some .mapStart =>
      drop
      return .mapping (collectionTag "map" tag) (← flowEntries handles true fuel)
    | _ =>
      if block && t == some .blockListStart then
        drop
        return .sequence (collectionTag "seq" tag) (← blockItems handles fuel)
      else if block && t == some .blockMapStart then
        drop
        return .mapping (collectionTag "map" tag) (← blockEntries handles fuel)
      else if mayBeEmpty then return .scalar (scalarTag true tag) ""
      else failure

/-- A node, or nothing if one of some tokens follows. -/
def nodeUnless (handles : Entries String) (ends : List Token) (block loose : Bool) :
    (fuel : Nat) → Compose Node
  | 0 => failure
  | fuel + 1 => do
    if (← next).isNone || (← isNext ends) then return .empty
    node handles block loose fuel

/-- The items of a block list. -/
def blockItems (handles : Entries String) : (fuel : Nat) → Compose (List Node)
  | 0 => failure
  | fuel + 1 => do
    if ← isNext [.entry] then
      drop
      let n ← nodeUnless handles [.entry, .blockEnd] true false fuel
      return n :: (← blockItems handles fuel)
    else
      expect .blockEnd
      return []

/-- The items of a list whose entries stand no further right than its key. -/
def looseItems (handles : Entries String) : (fuel : Nat) → Compose (List Node)
  | 0 => failure
  | fuel + 1 => do
    if ← isNext [.entry] then
      drop
      let n ← nodeUnless handles [.entry, .key, .value, .blockEnd] true false fuel
      return n :: (← looseItems handles fuel)
    else return []

/-- The value behind a key; nothing if there is no sign of one. -/
def valueUnless (handles : Entries String) (ends : List Token) (block loose : Bool) :
    (fuel : Nat) → Compose Node
  | 0 => failure
  | fuel + 1 => do
    if ← isNext [.value] then
      drop
      nodeUnless handles ends block loose fuel
    else return .empty

/-- The entries of a block mapping. -/
def blockEntries (handles : Entries String) : (fuel : Nat) → Compose (List (Node × Node))
  | 0 => failure
  | fuel + 1 => do
    let ends := [Token.key, .value, .blockEnd]
    if ← isNext [.key] then
      drop
      let k ← nodeUnless handles ends true true fuel
      let v ← valueUnless handles ends true true fuel
      return (k, v) :: (← blockEntries handles fuel)
    else if ← isNext [.blockEnd] then
      drop
      return []
    else failure

/-- The items of a list between brackets; behind the first each follows a comma. An item may be an
entry of its own. -/
def flowItems (handles : Entries String) (first : Bool) : (fuel : Nat) → Compose (List Node)
  | 0 => failure
  | fuel + 1 => do
    if ← isNext [.listEnd] then
      drop
      return []
    else
      if !first then expect .comma
      if ← isNext [.key] then
        drop
        let k ← nodeUnless handles [.value, .comma, .listEnd] false false fuel
        let v ← valueUnless handles [.comma, .listEnd] false false fuel
        return .mapping (standardTag "map") [(k, v)] :: (← flowItems handles false fuel)
      else if ← isNext [.listEnd] then
        drop
        return []
      else
        let n ← node handles false false fuel
        return n :: (← flowItems handles false fuel)

/-- The entries of a mapping between braces; behind the first each follows a comma. -/
def flowEntries (handles : Entries String) (first : Bool) :
    (fuel : Nat) → Compose (List (Node × Node))
  | 0 => failure
  | fuel + 1 => do
    if ← isNext [.mapEnd] then
      drop
      return []
    else
      if !first then expect .comma
      if ← isNext [.key] then
        drop
        let k ← nodeUnless handles [.value, .comma, .mapEnd] false false fuel
        let v ← valueUnless handles [.comma, .mapEnd] false false fuel
        return (k, v) :: (← flowEntries handles false fuel)
      else if ← isNext [.mapEnd] then
        drop
        return []
      else
        let k ← node handles false false fuel
        return (k, .empty) :: (← flowEntries handles false fuel)

end

/-- The directives in front of a document, and the handles that they define; each may be given once. -/
def directives : (fuel : Nat) → (version : Bool) → Entries String → Compose (Entries String)
  | 0, _, _ => failure
  | fuel + 1, version, handles => do
    match ← next with
    | some (.version major _) =>
      drop
      if version || major != 1 then failure
      directives fuel true handles
    | some (.handle name stands) =>
      drop
      if Entries.has name handles then failure
      directives fuel version (Entries.put name stands handles)
    | some .otherDirective =>
      drop
      directives fuel version handles
    | _ => return handles

/-- The handles that every document knows. -/
def knownHandles : Entries String := [("!", "!"), ("!!", standard)]

/-- Whether a token begins a document with a mark. -/
def isMark : Token → Bool
  | .version .. | .handle .. | .otherDirective | .documentStart => true
  | _ => false

/-- A document, if there is one, with nothing behind it. -/
def document (fuel : Nat) : Compose (Option Node) := do
  match ← next with
  | none => return none
  | some t =>
    let n ←
      if isMark t then do
        let handles ← directives fuel false []
        expect .documentStart
        let nothing := (← next).elim true fun t => isMark t || t == .documentEnd
        if nothing then pure Node.empty
        else node (Entries.update knownHandles handles) true false fuel
      else node knownHandles true false fuel
    let rest := (← get).tokens.dropWhile (· == .documentEnd)
    if rest.isEmpty then return some n else failure

end Compose

/-- The tree that tokens make, if they hold one; the outer option tells whether they are well formed. -/
def Node.ofTokens? (tokens : List Token) : Option (Option Node) :=
  ((Compose.document (4 * tokens.length + 8)).run { tokens }).map Prod.fst

end Rendezvous.Yaml
