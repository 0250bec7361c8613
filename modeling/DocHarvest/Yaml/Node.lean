import DocHarvest.Record.OrderedMap
import DocHarvest.Yaml.Scan

/-!
# YAML documents

A `Document` is a node with the nodes that its anchors mark. An anchor is known by a number: that of
the names that are known before it. A name that is given again takes the next number but is no new
name, so the next new name takes that number too; an alias stands for the last node with its number.
`document?` reads the only document of a text.
-/

namespace DocHarvest.Yaml

/-- A node of a document. -/
inductive Node where
  | scalar (form : ScalarForm) (tag : Option Bytes) (text : Text)
  | sequence (items : List Node)
  | mapping (pairs : List (Node × Node))
  /-- An alias of an anchor with this number. -/
  | reference (number : Nat)

namespace Node

/-- The scalar that stands where nothing is written. -/
def nothing : Node := scalar .plain none []

/-- What is read: the tokens that are left, and what is known of names. -/
structure Stream where
  tokens : List Token
  /-- The names of anchors, each with its number. -/
  names : List (Text × Nat) := []
  /-- The nodes with anchors, each with its number, in the order in which they begin. -/
  marked : List (Nat × Node) := []
  /-- What the handles of tags stand for. -/
  handles : List (Text × Bytes) := []

/-- Reading that may fail. -/
abbrev Reader := StateT Stream Option

def peek : Reader (Option Token) := do return (← get).tokens.head?

/-- Drops the next token. -/
def advance : Reader Unit := modify fun s => { s with tokens := s.tokens.drop 1 }

/-- Drops the next token if it is the given one, and says whether it was. -/
def accept (token : Token) : Reader Bool := do
  if (← peek) = some token then advance; return true
  else return false

def isNext (tokens : List Token) : Reader Bool := do
  return (← peek).any tokens.contains

/-! ## Names -/

/-- The handles that every document knows. -/
def knownHandles : List (Text × Bytes) :=
  [("!".toList, Text.toBytes "!".toList), ("!!".toList, Text.toBytes "tag:yaml.org,2002:".toList)]

/-- The tag that a handle and a name stand for. -/
def resolveTag (handle : Text) (name : Bytes) : Reader Bytes := do
  if handle.isEmpty then return name
  else
    match ((← get).handles ++ knownHandles).find? (·.1 = handle) with
    | some (_, lead) => return lead ++ name
    | none => failure

def resolveAlias (name : Text) : Reader Node := do
  match OrderedMap.lookup name (← get).names with
  | some number => return reference number
  | none => failure

/-- Gives a name to the node that begins here. Also gives its place among the nodes with anchors. -/
def openAnchor (name : Text) : Reader Nat := do
  let s ← get
  let number := s.names.length
  set { s with
    names := OrderedMap.place name number s.names
    marked := s.marked ++ [(number, nothing)] }
  return s.marked.length

/-- Says which node it is that has a place among the nodes with anchors. -/
def closeAnchor (place : Nat) (node : Node) : Reader Unit :=
  modify fun s => { s with marked := s.marked.modify place fun a => (a.1, node) }

/-- Reads an anchor, if there is one. -/
def readAnchor : Reader (Option Text) := do
  match ← peek with
  | some (.anchor name) => advance; return some name
  | _ => return none

/-- Reads a tag, if there is one. -/
def readTag : Reader (Option Bytes) := do
  match ← peek with
  | some (.tag handle name) => advance; return some (← resolveTag handle name)
  | _ => return none

/-- Reads an anchor and a tag in any order. -/
def readProperties : Reader (Option Text × Option Bytes) := do
  match ← readAnchor with
  | some name => return (some name, ← readTag)
  | none =>
    let tag ← readTag
    return (← if tag.isSome then readAnchor else pure none, tag)

/-! ## Nodes -/

/-- An empty node, where it is allowed. -/
def readEmpty (mayBeEmpty : Bool) (tag : Option Bytes) : Reader Node :=
  if mayBeEmpty then return scalar .plain tag [] else failure

mutual

/-- Reads a node. Collections by indentation are only read if `inBlock`, and a sequence that is not
indented only if `unindented`. -/
def readNode : Nat → Bool → Bool → Reader Node
  | 0, _, _ => failure
  | fuel + 1, inBlock, unindented => do
    match ← peek with
    | some (.alias name) => advance; resolveAlias name
    | _ =>
      let (anchor, tag) ← readProperties
      match anchor with
      | none => readContent fuel inBlock unindented tag.isSome tag
      | some name =>
        let place ← openAnchor name
        let node ← readContent fuel inBlock unindented true tag
        closeAnchor place node
        return node

/-- Reads a node behind its anchor and its tag. If it has any, it may be empty. -/
def readContent : Nat → Bool → Bool → Bool → Option Bytes → Reader Node
  | 0, _, _, _, _ => failure
  | fuel + 1, inBlock, unindented, mayBeEmpty, tag => do
    match ← peek with
    | some (.scalar form text) => advance; return scalar form tag text
    | some .openSequence => advance; return sequence (← readFlowItems fuel true)
    | some .openMapping => advance; return mapping (← readFlowPairs fuel true)
    | some .openBlockSequence =>
      if inBlock then advance; return sequence (← readBlockItems fuel)
      else readEmpty mayBeEmpty tag
    | some .openBlockMapping =>
      if inBlock then advance; return mapping (← readBlockPairs fuel)
      else readEmpty mayBeEmpty tag
    | some .item =>
      if unindented then return sequence (← readUnindentedItems fuel)
      else readEmpty mayBeEmpty tag
    | _ => readEmpty mayBeEmpty tag

/-- Reads a node, unless one of the given tokens is next. -/
def readUnless : Nat → List Token → Bool → Bool → Reader Node
  | 0, _, _, _ => failure
  | fuel + 1, tokens, inBlock, unindented => do
    if ← isNext tokens then return nothing else readNode fuel inBlock unindented

/-- Reads the items of an indented sequence. -/
def readBlockItems : Nat → Reader (List Node)
  | 0 => failure
  | fuel + 1 => do
    if ← accept .item then
      let item ← readUnless fuel [.item, .closeBlock] true false
      return item :: (← readBlockItems fuel)
    else if ← accept .closeBlock then return []
    else failure

/-- Reads the items of a sequence that is not indented. -/
def readUnindentedItems : Nat → Reader (List Node)
  | 0 => failure
  | fuel + 1 => do
    if ← accept .item then
      let item ← readUnless fuel [.item, .key, .value, .closeBlock] true false
      return item :: (← readUnindentedItems fuel)
    else return []

/-- Reads the pairs of an indented mapping. A key or a value may be missing. -/
def readBlockPairs : Nat → Reader (List (Node × Node))
  | 0 => failure
  | fuel + 1 => do
    if ← accept .closeBlock then return []
    else if ← accept .key then
      let key ← readUnless fuel [.key, .value, .closeBlock] true true
      let value ← readBlockValue fuel
      return (key, value) :: (← readBlockPairs fuel)
    else failure

/-- Reads the value of a pair, if it has one. -/
def readBlockValue : Nat → Reader Node
  | 0 => failure
  | fuel + 1 => do
    if ← accept .value then readUnless fuel [.key, .value, .closeBlock] true true
    else return nothing

/-- Reads the items of a sequence in brackets. A pair is an item, too. -/
def readFlowItems : Nat → Bool → Reader (List Node)
  | 0, _ => failure
  | fuel + 1, isFirst => do
    if ← accept .closeSequence then return []
    else
      let parted ← if isFirst then pure true else accept .comma
      if !parted then failure
      else if ← accept .closeSequence then return []
      else if ← accept .key then
        let pair ← readFlowPair fuel
        return mapping [pair] :: (← readFlowItems fuel false)
      else
        let item ← readNode fuel false false
        return item :: (← readFlowItems fuel false)

/-- Reads a pair in a sequence in brackets. An empty key takes the token behind it along. -/
def readFlowPair : Nat → Reader (Node × Node)
  | 0 => failure
  | fuel + 1 => do
    let isEmpty ← isNext [.value, .comma, .closeSequence]
    let key ← if isEmpty then do advance; pure nothing else readNode fuel false false
    if ← accept .value then return (key, ← readUnless fuel [.comma, .closeSequence] false false)
    else return (key, nothing)

/-- Reads the pairs of a mapping in braces. -/
def readFlowPairs : Nat → Bool → Reader (List (Node × Node))
  | 0, _ => failure
  | fuel + 1, isFirst => do
    if ← accept .closeMapping then return []
    else
      let parted ← if isFirst then pure true else accept .comma
      if !parted then failure
      else if ← accept .closeMapping then return []
      else if ← accept .key then
        let key ← readUnless fuel [.value, .comma, .closeMapping] false false
        let value ←
          if ← accept .value then readUnless fuel [.comma, .closeMapping] false false
          else pure nothing
        return (key, value) :: (← readFlowPairs fuel false)
      else
        let key ← readNode fuel false false
        return (key, nothing) :: (← readFlowPairs fuel false)

end

/-! ## Documents -/

/-- Reads the directives of a document, `fuel` at most, and says whether there are any. No version and
no handle may come twice. -/
def readDirectives : Nat → Bool → Reader Bool
  | 0, _ => failure
  | fuel + 1, versionKnown => do
    match ← peek with
    | some (.version major minor) =>
      if versionKnown || major ≠ 1 || (minor ≠ 1 && minor ≠ 2) then failure
      else
        advance
        let _ ← readDirectives fuel true
        return true
    | some (.tagHandle handle lead) =>
      let s ← get
      if s.handles.any (·.1 = handle) then failure
      else
        set { s with handles := s.handles ++ [(handle, lead)] }
        advance
        let _ ← readDirectives fuel versionKnown
        return true
    | _ => return false

/-- Whether the document has no content at the place. -/
def isDocumentEnd : Option Token → Bool
  | none | some .documentStart | some .documentEnd | some (.version _ _)
  | some (.tagHandle _ _) => true
  | _ => false

/-- Drops the tokens that end a document, `fuel` at most. -/
def skipDocumentEnds : Nat → Reader Unit
  | 0 => failure
  | fuel + 1 => do if ← accept .documentEnd then skipDocumentEnds fuel else return ()

/-- Reads the only document. Nothing may follow it; if there is nothing at all, there is no
document. -/
def readDocument (fuel : Nat) : Reader (Option Node) := do
  if (← peek).isNone then return none
  else
    let hasDirectives ← readDirectives fuel false
    let isStarted ← accept .documentStart
    if hasDirectives && !isStarted then failure
    else
      let node ←
        if isStarted && isDocumentEnd (← peek) then pure nothing else readNode fuel true false
      skipDocumentEnds fuel
      if (← peek).isNone then return some node else failure

end Node

/-- A document. -/
structure Document where
  root : Node
  /-- The nodes with anchors, each with its number, in the order in which they begin. -/
  marked : List (Nat × Node) := []

/-- The node itself, or what it stands for if it is an alias. -/
def Document.target (d : Document) : Node → Node
  | .reference number => ((d.marked.reverse.find? (·.1 = number)).map (·.2)).getD .nothing
  | node => node

/-- The document of a text; a text without any is a document that holds nothing. A reader goes at most
four steps further for each token. -/
def document? (t : Text) : Option Document := do
  let tokens ← tokens? t
  let fuel := 4 * tokens.length + 8
  let (root, s) ← (Node.readDocument fuel).run { tokens }
  return ⟨root.getD .nothing, s.marked⟩

end DocHarvest.Yaml
