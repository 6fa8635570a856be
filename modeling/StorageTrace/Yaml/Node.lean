import StorageTrace.Yaml.Token

/-! # Nodes of a YAML document

The tokens of a document describe one node: a scalar, a sequence, a mapping or a reference to a node
that an anchor names. A text that is to be read holds one document at most.
-/

namespace StorageTrace.Yaml

/-- A node. Anchors and references are numbered. -/
inductive Node where
  | scalar (text : String) (style : Style) (tag : Option Octets) (anchor : Option Nat)
  | sequence (items : List Node) (anchor : Option Nat)
  | mapping (entries : List (Node × Node)) (anchor : Option Nat)
  | reference (anchor : Nat)
  deriving Inhabited

/-- A reader of nodes: the tokens left, the names of anchors with their numbers, latest first, and
what the handles of tags stand for. -/
structure NodeReader where
  tokens : List Token
  anchors : List (String × Nat) := []
  handles : List (String × Octets) := []

/-- An action of a reader that may refuse the tokens. -/
abbrev Read := StateT NodeReader Option

namespace NodeReader

def peek? : Read (Option Token) := do return (← get).tokens.head?

def skip : Read Unit := modify fun reader => { reader with tokens := reader.tokens.tail }

/-- Moves over a token if it is the given one, and tells whether it was. -/
def take? (token : Token) : Read Bool := do
  if (← peek?) = some token then
    skip
    return true
  else return false

/-- Whether the next token is one of some. -/
def isNext (tokens : List Token) : Read Bool := do
  return ((← peek?).map tokens.contains).getD false

/-- Numbers an anchor by how many names there are before it. -/
def nameAnchor (name : String) : Read Nat := do
  let reader ← get
  let number := (reader.anchors.map Prod.fst).eraseDups.length
  set { reader with anchors := (name, number) :: reader.anchors }
  return number

/-- All octets of a tag. -/
def expand (tag : TagText) : Read Octets := do
  if tag.handle = "" then return tag.suffix
  else
    match (← get).handles.lookup tag.handle with
    | some expansion => return expansion ++ tag.suffix
    | none => failure

/-- The name of an anchor and a tag, in either order, as far as they are there. -/
def properties : Read (Option String × Option Octets) := do
  match ← peek? with
  | some (.anchor name) =>
    skip
    match ← peek? with
    | some (.tag tag) =>
      skip
      return (some name, some (← expand tag))
    | _ => return (some name, none)
  | some (.tag tag) =>
    skip
    match ← peek? with
    | some (.anchor name) =>
      skip
      return (some name, some (← expand tag))
    | _ => return (none, some (← expand tag))
  | _ => return (none, none)

/-- A node that is not written. -/
def nothing : Node := .scalar "" .plain none none

/-- Whether a node is not written: an empty plain scalar without an anchor stands there. -/
def nodeOr (absent : List Token) (node : Read Node) : Read Node := do
  if ← isNext absent then return nothing else node

mutual

/-- Reads a node. Block collections are admitted only in blocks, and a sequence that is not indented
only as the value or key of a mapping. -/
def node (block unindented : Bool) : Nat → Read Node
  | 0 => failure
  | fuel + 1 => do
    if let some (.reference name) ← peek? then
      skip
      match (← get).anchors.lookup name with
      | some number => return .reference number
      | none => failure
    else
      let (name, tag) ← properties
      let anchor ← name.mapM nameAnchor
      match ← peek? with
      | some .blockEntry =>
        if unindented then return .sequence (← unindentedItems fuel) anchor
        else if name.isSome || tag.isSome then return .scalar "" .plain tag anchor
        else failure
      | some (.scalar text style) =>
        skip
        return .scalar text style tag anchor
      | some .flowSequence =>
        skip
        return .sequence (← flowItems true fuel) anchor
      | some .flowMapping =>
        skip
        return .mapping (← flowEntries true fuel) anchor
      | token =>
        if block && token = some .blockSequence then
          skip
          return .sequence (← blockItems fuel) anchor
        else if block && token = some .blockMapping then
          skip
          return .mapping (← blockEntries fuel) anchor
        else if name.isSome || tag.isSome then return .scalar "" .plain tag anchor
        else failure

/-- The items of a block sequence. -/
def blockItems : Nat → Read (List Node)
  | 0 => failure
  | fuel + 1 => do
    if ← take? .blockEntry then
      let item ← nodeOr [.blockEntry, .blockEnd] (node true false fuel)
      return item :: (← blockItems fuel)
    else if ← take? .blockEnd then return []
    else failure

/-- The items of a sequence at the column of the mapping around it. -/
def unindentedItems : Nat → Read (List Node)
  | 0 => failure
  | fuel + 1 => do
    if ← take? .blockEntry then
      let item ← nodeOr [.blockEntry, .key, .value, .blockEnd] (node true false fuel)
      return item :: (← unindentedItems fuel)
    else return []

/-- The entries of a block mapping. -/
def blockEntries : Nat → Read (List (Node × Node))
  | 0 => failure
  | fuel + 1 => do
    if ← take? .key then
      let key ← nodeOr [.key, .value, .blockEnd] (node true true fuel)
      let value ←
        if ← take? .value then nodeOr [.key, .value, .blockEnd] (node true true fuel)
        else pure nothing
      return (key, value) :: (← blockEntries fuel)
    else if ← take? .blockEnd then return []
    else failure

/-- The items of a flow sequence. -/
def flowItems (first : Bool) : Nat → Read (List Node)
  | 0 => failure
  | fuel + 1 => do
    if ← take? .flowSequenceEnd then return []
    else
      if !first then
        if !(← take? .flowEntry) then failure
      if ← take? .key then
        let entry ← flowPair fuel
        return .mapping [entry] none :: (← flowItems false fuel)
      else if ← take? .flowSequenceEnd then return []
      else
        let item ← node false false fuel
        return item :: (← flowItems false fuel)

/-- The single entry of a mapping that is written as an item of a flow sequence. Where the key is not
written, the token in its place is passed over. -/
def flowPair : Nat → Read (Node × Node)
  | 0 => failure
  | fuel + 1 => do
    let key ←
      if ← isNext [.value, .flowEntry, .flowSequenceEnd] then do
        skip
        pure nothing
      else node false false fuel
    let value ←
      if ← take? .value then nodeOr [.flowEntry, .flowSequenceEnd] (node false false fuel)
      else pure nothing
    return (key, value)

/-- The entries of a flow mapping. A key may stand alone. -/
def flowEntries (first : Bool) : Nat → Read (List (Node × Node))
  | 0 => failure
  | fuel + 1 => do
    if ← take? .flowMappingEnd then return []
    else
      if !first then
        if !(← take? .flowEntry) then failure
      if ← take? .key then
        let key ← nodeOr [.value, .flowEntry, .flowMappingEnd] (node false false fuel)
        let value ←
          if ← take? .value then nodeOr [.flowEntry, .flowMappingEnd] (node false false fuel)
          else pure nothing
        return (key, value) :: (← flowEntries false fuel)
      else if ← take? .flowMappingEnd then return []
      else
        let key ← node false false fuel
        return (key, nothing) :: (← flowEntries false fuel)

end

/-- What the handles stand for that need no directive. -/
def defaultHandles : List (String × Octets) :=
  [("!", [Tag.mark]), ("!!", Octets.ofAscii Tag.standard)]

/-- Takes in the directives before a document. The version may be given once, and must be 1.1 or 1.2;
a handle may be defined once. -/
def directives (versioned : Bool) (handles : List (String × Octets)) : Nat → Read Unit
  | 0 => failure
  | fuel + 1 => do
    match ← peek? with
    | some (.directive (.version major minor)) =>
      if versioned || major ≠ 1 || !(minor = 1 || minor = 2) then failure
      skip
      directives true handles fuel
    | some (.directive (.tag handle expansion)) =>
      if (handles.lookup handle).isSome then failure
      skip
      directives versioned ((handle, expansion) :: handles) fuel
    | _ => modify fun reader => { reader with handles := handles ++ defaultHandles }

/-- Whether the next token announces a document. -/
def isAnnounced : Read Bool := do
  match ← peek? with
  | some (.directive _) | some .documentStart => return true
  | _ => return false

/-- Whether nothing stands between the start of a document and what follows it. -/
def isEmptyContent : Read Bool := do
  match ← peek? with
  | some (.directive _) | some .documentStart | some .documentEnd | none => return true
  | _ => return false

/-- Reads the only document of a text, if there is one. -/
def document? (fuel : Nat) : Read (Option Node) := do
  if (← peek?).isNone then return none
  let root ←
    if ← isAnnounced then do
      directives false [] fuel
      if !(← take? .documentStart) then failure
      if ← isEmptyContent then pure nothing else node true false fuel
    else do
      directives false [] fuel
      node true false fuel
  finish fuel
  return some root
where
  /-- Moves over the marks that end a document; nothing may follow them. -/
  finish : Nat → Read Unit
    | 0 => failure
    | fuel + 1 => do
      if ← take? .documentEnd then finish fuel
      else if (← peek?).isSome then failure

end NodeReader

/-- A document: its root, which may be missing, and its anchored nodes in the order of the text. -/
structure Document where
  root : Option Node
  anchored : List (Nat × Node)
  deriving Inhabited

namespace Node

/-- The anchor of a node with the node itself. -/
def anchor? : Node → Option Nat
  | .scalar _ _ _ anchor | .sequence _ anchor | .mapping _ anchor => anchor
  | .reference _ => none

mutual

/-- The anchored nodes of a node in the order in which they start. -/
def anchored : Node → List (Nat × Node)
  | .scalar text style tag anchor =>
    anchor.toList.map fun number => (number, .scalar text style tag anchor)
  | .sequence items anchor =>
    (anchor.toList.map fun number => (number, .sequence items anchor)) ++ anchoredItems items
  | .mapping entries anchor =>
    (anchor.toList.map fun number => (number, .mapping entries anchor)) ++ anchoredEntries entries
  | .reference _ => []

def anchoredItems : List Node → List (Nat × Node)
  | [] => []
  | item :: rest => item.anchored ++ anchoredItems rest

def anchoredEntries : List (Node × Node) → List (Nat × Node)
  | [] => []
  | (key, value) :: rest => key.anchored ++ value.anchored ++ anchoredEntries rest

end

mutual

/-- How many parts a document has from a node down: one for a scalar or a reference, and one each for
the start and the end of a collection. -/
def parts : Node → Nat
  | .scalar .. | .reference _ => 1
  | .sequence items _ => 2 + partsOfItems items
  | .mapping entries _ => 2 + partsOfEntries entries

def partsOfItems : List Node → Nat
  | [] => 0
  | item :: rest => item.parts + partsOfItems rest

def partsOfEntries : List (Node × Node) → Nat
  | [] => 0
  | (key, value) :: rest => key.parts + value.parts + partsOfEntries rest

end

end Node

namespace Document

/-- The document of a text, unless the text is malformed or holds several. -/
def ofText? (text : String) : Option Document := do
  let tokens ← Token.ofText? (← prepare? text)
  let fuel := 2 * tokens.length + 2
  let (root, _) ← (NodeReader.document? fuel).run { tokens }
  return { root, anchored := (root.map Node.anchored).getD [] }

/-- The node that a node stands for. Of several nodes with one number the last counts. -/
def resolve (document : Document) : Node → Option Node
  | .reference number =>
    (document.anchored.reverse.find? fun entry => entry.1 = number).map Prod.snd
  | node => some node

end Document

end StorageTrace.Yaml
