import DataGrammar.Keyed
import DataGrammar.Yaml.Lexer
import DataGrammar.Yaml.Node
/-!
# Reading YAML

`Node.ofText?` reads a stream that holds one document. Its tokens are read once, from left to
right; whatever may be left out in the text is an empty node.
-/

namespace DataGrammar.Yaml

/-- What is left of a stream and the names in force. -/
structure Remainder where
  tokens : List Token
  /-- What the handles of tags stand for. -/
  handles : List (List Char × Tag)
  /-- The numbers of anchors by their names. -/
  anchors : List (String × Nat)

/-- A step of a reader of tokens. -/
abbrev Read (α : Type) := StateT Remainder Option α

/-- Where a node stands. -/
inductive Context where
  /-- In a flow collection. -/
  | flow
  /-- In a block. -/
  | block
  /-- In an entry of a block, where a list needs no indentation. -/
  | entry
  deriving DecidableEq, Repr

/-- The token starts a collection. -/
def Token.startsCollection (context : Context) : Token → Bool
  | .flowSequence | .flowMapping => true
  | .blockSequence | .blockMapping => context != .flow
  | .item => context == .entry
  | _ => false

namespace Read

/-- The next token. -/
def next? : Read (Option Token) := return (← get).tokens.head?

/-- Pass a token. -/
def skip : Read Unit := modify fun s => { s with tokens := s.tokens.drop 1 }

/-- Pass the given token if it is next; tells whether it was. -/
def skipIf (t : Token) : Read Bool := do
  if (← next?) == some t then
    skip
    return true
  else return false

/-- Pass the given token, which must be next. -/
def expect (t : Token) : Read Unit := do guard (← skipIf t)

/-- Read a node, which is left out if one of the given tokens is next. -/
def orEmpty (ends : List Token) (node : Read Node) : Read Node := do
  if (← next?).any ends.contains then return .empty else node

/-- Number an anchor. -/
def addAnchor (name : String) : Read Nat := do
  let n := (← get).anchors.length
  modify fun s => { s with anchors := Keyed.insert name n s.anchors }
  return n

/-- Read an anchor, if one is next. -/
def readAnchor? : Read (Option Nat) := do
  match ← next? with
  | some (.anchor name) => do
    skip
    return some (← addAnchor (.ofList name))
  | _ => return none

/-- Read a tag, if one is next. -/
def readTag? : Read (Option Tag) := do
  match ← next? with
  | some (.tag t) => do
    skip
    if t.handle.isEmpty then return some t.suffix
    else
      let beginning ← (← get).handles.lookup t.handle
      return some (beginning ++ t.suffix)
  | _ => return none

/-- Read the anchor and the tag of a node, which come in either order. -/
def readProperties : Read Properties := do
  match ← readAnchor? with
  | some n => return ⟨some n, ← readTag?⟩
  | none =>
    let tag ← readTag?
    return ⟨← if tag.isSome then readAnchor? else pure none, tag⟩

/-- Read the items of a block. -/
def readItems (node : Read Node) : (fuel : Nat) → Read (List Node)
  | 0 => failure
  | fuel + 1 => do
    if ← skipIf .blockEnd then return []
    else
      expect .item
      let n ← orEmpty [.item, .blockEnd] node
      return n :: (← readItems node fuel)

/-- Read items that are not indented, of which at least one comes. -/
def readPlainItems (node : Read Node) : (fuel : Nat) → Read (List Node)
  | 0 => failure
  | fuel + 1 => do
    if ← skipIf .item then
      let n ← orEmpty [.item, .key, .value, .blockEnd] node
      return n :: (← readPlainItems node fuel)
    else return []

/-- Read the value of an entry; it is left out with its colon, or before one of the given tokens. -/
def readEntryValue (ends : List Token) (node : Read Node) : Read Node := do
  if ← skipIf .value then orEmpty ends node else return .empty

/-- Read the entries of a block. -/
def readEntries (node : Read Node) : (fuel : Nat) → Read (List (Node × Node))
  | 0 => failure
  | fuel + 1 => do
    if ← skipIf .blockEnd then return []
    else
      expect .key
      let key ← orEmpty [.key, .value, .blockEnd] node
      let value ← readEntryValue [.key, .value, .blockEnd] node
      return (key, value) :: (← readEntries node fuel)

/-- Whether another part of a flow collection comes, after one has come already or not. A comma may
stand before the end. -/
def another (last : Token) (first : Bool) : Read Bool := do
  if ← skipIf last then return false
  else if first then return true
  else
    expect .comma
    return !(← skipIf last)

/-- Read a list item that is a single entry, whose mark is next. Where the key should be, a mark
that ends it is passed as if it were the key. -/
def readPair (node : Read Node) : Read Node := do
  skip
  let key ←
    if (← next?).any [Token.value, .comma, .flowSequenceEnd].contains then do
      skip
      pure .empty
    else node
  let value ← readEntryValue [.comma, .flowSequenceEnd] node
  return .map ⟨none, none⟩ [(key, value)]

/-- Read the items of a flow collection; `pair` reads an item that is a single entry. -/
def readFlowItems (node pair : Read Node) : (fuel : Nat) → (first : Bool) → Read (List Node)
  | 0, _ => failure
  | fuel + 1, first => do
    if ← another .flowSequenceEnd first then
      let n ← if (← next?) == some .key then pair else node
      return n :: (← readFlowItems node pair fuel false)
    else return []

/-- Read an entry of a flow collection. -/
def readFlowEntry (node : Read Node) : Read (Node × Node) := do
  if ← skipIf .key then
    let key ← orEmpty [.value, .comma, .flowMappingEnd] node
    return (key, ← readEntryValue [.comma, .flowMappingEnd] node)
  else return (← node, .empty)

/-- Read the entries of a flow collection. -/
def readFlowEntries (node : Read Node) :
    (fuel : Nat) → (first : Bool) → Read (List (Node × Node))
  | 0, _ => failure
  | fuel + 1, first => do
    if ← another .flowMappingEnd first then
      let entry ← readFlowEntry node
      return entry :: (← readFlowEntries node fuel false)
    else return []

/-- Read a collection, whose start is next; `node` reads its parts and `pair` an item that is a
single entry. -/
def readCollection (p : Properties) (node : Context → Read Node) (pair : Read Node) :
    Read Node := do
  let fuel := (← get).tokens.length + 1
  match ← next? with
  | some .item => return .list p (← readPlainItems (node .block) fuel)
  | some .blockSequence => do
    skip
    return .list p (← readItems (node .block) fuel)
  | some .blockMapping => do
    skip
    return .map p (← readEntries (node .entry) fuel)
  | some .flowSequence => do
    skip
    return .list p (← readFlowItems (node .flow) pair fuel true)
  | some .flowMapping => do
    skip
    return .map p (← readFlowEntries (node .flow) fuel true)
  | _ => failure

/-- The tag that stands for no tag where a scalar bears it. -/
def noTag : Tag := ['!'.toUInt8]

/-- Read a node in which collections nest at most `depth` deep. -/
def readNode (depth : Nat) (context : Context) : Read Node := do
  match ← next? with
  | some (.reference name) => do
    skip
    return .reference (← Keyed.find? (.ofList name) (← get).anchors)
  | _ => do
    let p ← readProperties
    match ← next? with
    | some (.scalar style text) => do
      skip
      return .scalar { p with tag := p.tag.filter (· ≠ noTag) } style (.ofList text)
    | t =>
      if t.any (Token.startsCollection context) then
        match depth with
        | 0 => failure
        | depth + 1 =>
          readCollection p (readNode depth)
            (match depth with
              | 0 => failure
              | depth + 1 => readPair (readNode depth .flow))
      else
        guard (p.anchor.isSome || p.tag.isSome)
        return .absent p

/-- Read the directives before a document. There may be a version, which must be 1.1 or 1.2, and
handles for tags, each of them once. Tells whether there are any. -/
def readDirectives : (fuel : Nat) → (version : Bool) → Read Bool
  | 0, _ => failure
  | fuel + 1, version => do
    match ← next? with
    | some (.directive (.version major minor)) => do
      guard (!version && major == 1 && (minor == 1 || minor == 2))
      skip
      let _ ← readDirectives fuel true
      return true
    | some (.directive (.handle name beginning)) => do
      guard ((← get).handles.lookup name).isNone
      modify fun s => { s with handles := (name, beginning) :: s.handles }
      skip
      let _ ← readDirectives fuel version
      return true
    | _ => return false

/-- The handles that need no directive. -/
def defaultHandles : List (List Char × Tag) :=
  [(['!'], noTag), (['!', '!'], "tag:yaml.org,2002:".toUTF8.toList)]

/-- How deep collections may nest. -/
def maxDepth : Nat := 128

/-- Read a document up to its content. Only a document that is marked may have none. -/
def readDocument : Read Node := do
  let fuel := (← get).tokens.length + 1
  let directed ← readDirectives fuel false
  modify fun s => { s with handles := s.handles ++ defaultHandles }
  let marked ← skipIf .documentStart
  guard (marked || !directed)
  let next ← next?
  if marked && (next.isNone || next == some .documentEnd) then return .empty
  else readNode maxDepth .block

end Read

/-- Read a stream that holds one document. -/
def Node.ofText? (text : String) : Option Node := do
  let tokens ← Token.ofText? text
  let (root, left) ← Read.readDocument.run ⟨tokens, [], []⟩
  guard (left.tokens.all (· == .documentEnd))
  return root

end DataGrammar.Yaml
