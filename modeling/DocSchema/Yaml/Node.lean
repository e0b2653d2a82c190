import DocSchema.Yaml.Lexer

/-!
# The nodes of a YAML document

Scalars as they were written, collections, and aliases, with tags resolved. A text holds at most
one document.
-/
namespace DocSchema.Yaml

/-- A node. A tag is missing where the form of the node decides about its type. -/
inductive Node where
  | alias (target : Nat)
  | scalar (tag : Option String) (text : String) (plain : Bool)
  | sequence (tag : Option String) (items : List Node)
  | mapping (tag : Option String) (pairs : List (Node × Node))
deriving Repr, Inhabited

/-- An empty node. -/
def Node.empty : Node := .scalar none "" true

/-- What parsing goes on with: the tokens left, and the anchors met so far. -/
structure Parse where
  tokens : List Token
  /-- The prefixes of tag handles. -/
  handles : List (String × String) := []
  /-- The number of each anchor name. A name that is used again gets a new number: the count of
  names. -/
  anchors : List (String × Nat) := []
  /-- The node of each number, by the order in which nodes with anchors began; later entries
  first. -/
  marked : List (Nat × Nat) := []
  /-- The finished nodes with anchors, by the same order. -/
  nodes : List (Nat × Node) := []
  /-- The number of nodes with anchors that began. -/
  begun : Nat := 0
  /-- The number of scalars, aliases, and starts and ends of collections. -/
  events : Nat := 0

/-- A step of parsing, which may fail. -/
abbrev Parsing := StateT Parse Option

namespace Parsing

/-- Gives up. -/
def refuse {α : Type} : Parsing α := fun _ => none

/-- The next token, which is not consumed; the end of the text has none. -/
def peek? : Parsing (Option Token) := do return (← get).tokens.head?

/-- Consumes a token. -/
def skip : Parsing Unit := modify fun s => { s with tokens := s.tokens.tail }

/-- Consumes a token that has to come next. -/
def expect (t : Token) : Parsing Unit := do
  if (← peek?) = some t then skip else refuse

/-- Consumes a token if it comes next. -/
def accept (t : Token) : Parsing Bool := do
  if (← peek?) = some t then
    skip
    return true
  else return false

/-- The next token is one of several. -/
def comes (ts : List Token) : Parsing Bool := do
  match ← peek? with
  | some t => return ts.contains t
  | none => return false

/-- Counts parts of the document. -/
def count (n : Nat) : Parsing Unit := modify fun s => { s with events := s.events + n }

/-- Marks the beginning of a node with an anchor; its number among such nodes. -/
def mark (name : String) : Parsing Nat := do
  let s ← get
  let number := s.anchors.length
  let anchors := (name, number) :: s.anchors.filter (·.1 ≠ name)
  set { s with anchors, marked := (number, s.begun) :: s.marked, begun := s.begun + 1 }
  return s.begun

/-- Keeps a node that was marked. -/
def keep (place : Option Nat) (node : Node) : Parsing Node := do
  match place with
  | some n => modify fun s => { s with nodes := (n, node) :: s.nodes }
  | none => pure ()
  return node

/-- A tag with its handle replaced. -/
def resolveTag (handle suffix : String) : Parsing String := do
  if handle = "" then return suffix
  match (← get).handles.find? (·.1 = handle) with
  | some (_, start) => return start ++ suffix
  | none => refuse

/-- The anchor and the tag before a node, in either order, at most one of each. -/
def properties : Parsing (Option String × Option String) := do
  let anchor? : Parsing (Option String) := do
    match ← peek? with
    | some (.anchor name) => skip; return some name
    | _ => return none
  let tag? : Parsing (Option String) := do
    match ← peek? with
    | some (.tag handle suffix) => skip; return some (← resolveTag handle suffix)
    | _ => return none
  match ← anchor? with
  | some name => return (some name, ← tag?)
  | none =>
    let tag ← tag?
    if tag.isNone then return (none, none)
    return (← anchor?, tag)

mutual

/-- A node. Blocks may be refused, and a sequence without indentation allowed. -/
def node (block indentless : Bool) : Nat → Parsing Node
  | 0 => refuse
  | fuel + 1 => do
    if let some (.alias name) ← peek? then
      skip
      count 1
      match (← get).anchors.find? (·.1 = name) with
      | some (_, number) => return .alias number
      | none => refuse
    else
      let (anchor, tag) ← properties
      let place : Parsing (Option Nat) := do
        match anchor with
        | some name => return some (← mark name)
        | none => return none
      match ← peek? with
      | some .blockEntry =>
        if indentless then
          let p ← place
          let items ← indentlessItems fuel
          count 2
          keep p (.sequence tag items)
        else emptyNode anchor tag
      | some (.scalar text style) =>
        skip
        count 1
        let p ← place
        let plain := style = .plain
        keep p (if tag = some "!" then .scalar none text plain else .scalar tag text plain)
      | some .flowSequenceStart =>
        skip
        let p ← place
        let items ← flowItems true fuel
        count 2
        keep p (.sequence tag items)
      | some .flowMappingStart =>
        skip
        let p ← place
        let pairs ← flowPairs true fuel
        count 2
        keep p (.mapping tag pairs)
      | some .blockSequenceStart =>
        if block then
          skip
          let p ← place
          let items ← blockItems fuel
          count 2
          keep p (.sequence tag items)
        else emptyNode anchor tag
      | some .blockMappingStart =>
        if block then
          skip
          let p ← place
          let pairs ← blockPairs fuel
          count 2
          keep p (.mapping tag pairs)
        else emptyNode anchor tag
      | _ => emptyNode anchor tag

/-- A node without content, which an anchor or a tag has to announce. -/
def emptyNode (anchor tag : Option String) : Parsing Node := do
  if anchor.isNone && tag.isNone then refuse
  count 1
  let p ← match anchor with
    | some name => do pure (some (← mark name))
    | none => pure none
  keep p (.scalar tag "" true)

/-- A node in a block, or an empty one where one of several tokens follows. -/
def blockNode (indentless : Bool) (ends : List Token) : Nat → Parsing Node
  | 0 => refuse
  | fuel + 1 => do
    if ← comes ends then
      count 1
      return .empty
    node true indentless fuel

/-- The items of a block sequence up to its end. -/
def blockItems : Nat → Parsing (List Node)
  | 0 => refuse
  | fuel + 1 => do
    if ← accept .blockEnd then return []
    expect .blockEntry
    let item ← blockNode false [.blockEntry, .blockEnd] fuel
    return item :: (← blockItems fuel)

/-- The items of a sequence that stands at the indentation of its mapping. -/
def indentlessItems : Nat → Parsing (List Node)
  | 0 => refuse
  | fuel + 1 => do
    if ← accept .blockEntry then
      let item ← blockNode false [.blockEntry, .key, .value, .blockEnd] fuel
      return item :: (← indentlessItems fuel)
    else return []

/-- The pairs of a block mapping up to its end. A value without a key has no place there. -/
def blockPairs : Nat → Parsing (List (Node × Node))
  | 0 => refuse
  | fuel + 1 => do
    if ← accept .blockEnd then return []
    expect .key
    let ends := [Token.key, .value, .blockEnd]
    let key ← blockNode true ends fuel
    let value ←
      if ← accept .value then blockNode true ends fuel
      else do
        count 1
        pure .empty
    return (key, value) :: (← blockPairs fuel)

/-- A node in brackets, or an empty one where one of several tokens follows. -/
def flowNode (ends : List Token) : Nat → Parsing Node
  | 0 => refuse
  | fuel + 1 => do
    if ← comes ends then
      count 1
      return .empty
    node false false fuel

/-- The value of a pair in brackets, if it has one. -/
def flowValue (ends : List Token) : Nat → Parsing Node
  | 0 => refuse
  | fuel + 1 => do
    if ← accept .value then flowNode ends fuel
    else
      count 1
      return .empty

/-- The items of a sequence in brackets. A pair stands for a mapping of that pair. -/
def flowItems (first : Bool) : Nat → Parsing (List Node)
  | 0 => refuse
  | fuel + 1 => do
    if ← accept .flowSequenceEnd then return []
    if !first then
      expect .flowEntry
    if ← accept .flowSequenceEnd then return []
    if ← accept .key then
      let ends := [Token.flowEntry, .flowSequenceEnd]
      let key ←
        if ← comes (.value :: ends) then do
          skip
          count 1
          pure Node.empty
        else node false false fuel
      let value ← flowValue ends fuel
      count 2
      return .mapping none [(key, value)] :: (← flowItems false fuel)
    else
      let item ← node false false fuel
      return item :: (← flowItems false fuel)

/-- The pairs of a mapping in braces. A node alone is a key without a value. -/
def flowPairs (first : Bool) : Nat → Parsing (List (Node × Node))
  | 0 => refuse
  | fuel + 1 => do
    if ← accept .flowMappingEnd then return []
    if !first then
      expect .flowEntry
    if ← accept .flowMappingEnd then return []
    if ← accept .key then
      let key ← flowNode [.value, .flowEntry, .flowMappingEnd] fuel
      let value ← flowValue [.flowEntry, .flowMappingEnd] fuel
      return (key, value) :: (← flowPairs false fuel)
    else
      let key ← node false false fuel
      count 1
      return (key, .empty) :: (← flowPairs false fuel)

end

/-- The directives before a document: at most one version, and handles of tags, each once. Every
document knows the handles `!` and `!!`. -/
def directives (version : Bool) (handles : List (String × String)) : Nat → Parsing Unit
  | 0 => refuse
  | fuel + 1 => do
    match ← peek? with
    | some (.version major minor) =>
      skip
      if version || major ≠ 1 || !(minor = 1 || minor = 2) then refuse
      directives true handles fuel
    | some (.tagDirective handle start) =>
      skip
      if handles.any (·.1 = handle) then refuse
      directives version ((handle, start) :: handles) fuel
    | _ =>
      modify fun s => { s with handles := handles ++ [("!", "!"), ("!!", "tag:yaml.org,2002:")] }

/-- Consumes the marks of a document's end. -/
def documentEnds : Nat → Parsing Unit
  | 0 => refuse
  | fuel + 1 => do
    if ← accept .documentEnd then documentEnds fuel

/-- The document of a text; none for a text without one. -/
def document (fuel : Nat) : Parsing (Option Node) := do
  match ← peek? with
  | none => return none
  | some t =>
    let explicit := match t with
      | .version .. | .tagDirective .. | .documentStart => true
      | _ => false
    directives false [] fuel
    if explicit then expect .documentStart
    let next ← peek?
    let root ←
      if explicit && (next.isNone || next = some .documentEnd || next = some .documentStart) then do
        count 1
        pure Node.empty
      else node true false fuel
    documentEnds fuel
    if (← peek?).isSome then refuse
    return some root

end Parsing

/-- The document of a text, with what its aliases stand for. -/
structure Document where
  /-- The root; none in a text without a document. -/
  root : Option Node
  /-- The node of each alias number. -/
  targets : List (Nat × Node)
  /-- The number of scalars, aliases, and starts and ends of collections. -/
  events : Nat

/-- The document of a text; none if the text has a fault or a second document. -/
def document? (text : String) : Option Document := do
  let tokens ← tokens? text
  let (root, s) ← (Parsing.document (4 * tokens.length + 8)).run { tokens }
  let targets := s.marked.filterMap fun (number, place) =>
    (s.nodes.find? (·.1 = place)).map fun (_, node) => (number, node)
  some { root, targets, events := s.events }

end DocSchema.Yaml
