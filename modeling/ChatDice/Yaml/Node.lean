import ChatDice.Yaml.Tag
import ChatDice.Yaml.Token

/-!
The nodes that the tokens of a YAML text describe. Every node has its tag and is known by its
number, so that an alias leads to the very node that it names, even from inside of it.
-/

namespace ChatDice.Yaml

/-- What a node holds; what is inside of it is given by numbers. -/
inductive Node.Body
  | scalar (text : Text)
  | sequence (items : List Nat)
  | mapping (entries : List (Nat × Nat))
  deriving Repr

structure Node where
  tag : Tag
  body : Node.Body
  deriving Repr

/-- A plain scalar without any text. -/
def Node.absent : Node := ⟨.null, .scalar []⟩

def Node.isMapping (node : Node) : Bool :=
  match node.body with
  | .mapping _ => true
  | _ => false

/-- All nodes of a text. -/
structure Graph where
  nodes : Array Node

namespace Graph

def node (graph : Graph) (number : Nat) : Node := graph.nodes[number]?.getD .absent

/-- The entries of a mapping; nothing else has any. -/
def entries (graph : Graph) (number : Nat) : List (Nat × Nat) :=
  match (graph.node number).body with
  | .mapping entries => entries
  | _ => []

def setNode (graph : Graph) (number : Nat) (node : Node) : Graph :=
  ⟨graph.nodes.setIfInBounds number node⟩

def setBody (graph : Graph) (number : Nat) (body : Node.Body) : Graph :=
  graph.setNode number { graph.node number with body }

end Graph

/-- The deepest nesting of collections that is read. -/
def nestingLimit : Nat := 480

/-- What is left to read, and the nodes and names known so far. The collections that are still
being read are kept, and whether an alias leads to one of them. -/
structure Source where
  lexer : Lexer
  handles : List (Text × Text)
  anchors : List (Text × Nat)
  graph : Graph
  unfinished : List Nat
  knotted : Bool

/-- Reads from the tokens of one text. -/
abbrev Reading := StateT Source (Except Error)

namespace Reading

/-- The next token, which stays. -/
def peek : Reading Token := do
  let source ← get
  let (token, lexer) ← source.lexer.peek
  set { source with lexer }
  return token

def skip : Reading Unit := modify fun source => { source with lexer := source.lexer.drop }

/-- Takes the next token if it is the given one. -/
def takes (token : Token) : Reading Bool := do
  if (← peek) = token then
    skip
    return true
  return false

def expect (token : Token) : Reading Unit := do
  if !(← takes token) then throw .malformed

/-- Whether the next token is one of the given ones. -/
def isNext (tokens : List Token) : Reading Bool := do return tokens.contains (← peek)

/-- Adds a node and gives its number. -/
def addNode (node : Node) : Reading Nat := do
  let source ← get
  set { source with graph := ⟨source.graph.nodes.push node⟩ }
  return source.graph.nodes.size

def addAbsent : Reading Nat := addNode .absent

/-- The anchor and the tag of a node, as they are written. -/
structure Properties where
  anchor : Option Text
  tag : Option Text

/-- The full name of a tag: its handle is replaced by what stands for it. -/
def tagName (handle : Option Text) (suffix : Text) : Reading Text := do
  match handle with
  | none => return suffix
  | some handle =>
    match (← get).handles.find? fun entry => entry.1 = handle with
    | some (_, replacement) => return replacement ++ suffix
    | none => throw .malformed

private def takeAnchor : Reading (Option Text) := do
  match ← peek with
  | .anchor name =>
    skip
    return some name
  | _ => return none

private def takeTag : Reading (Option (Option Text × Text)) := do
  match ← peek with
  | .tag handle suffix =>
    skip
    return some (handle, suffix)
  | _ => return none

/-- An anchor and a tag in either order. -/
def properties : Reading Properties := do
  let first ← takeAnchor
  let written ← takeTag
  let anchor ← if first.isNone && written.isSome then takeAnchor else pure first
  match written with
  | some (handle, suffix) => return ⟨anchor, some (← tagName handle suffix)⟩
  | none => return ⟨anchor, none⟩

/-- Without a tag, or with the mark of exclamation alone, a node shows its tag itself. -/
def Properties.tagged (properties : Properties) (own : Tag) : Tag :=
  match properties.tag with
  | none => own
  | some name => if name = "!" then own else Tag.ofName name

/-- A scalar in quotation marks is text, unless a mark of exclamation says otherwise. -/
def Properties.scalar (properties : Properties) (t : Text) (plain : Bool) : Node :=
  let own := if plain || properties.tag.isSome then Tag.ofPlain t else .str
  ⟨properties.tagged own, .scalar t⟩

/-- An anchor names one node only. -/
def checkAnchor (anchor : Option Text) : Reading Unit := do
  match anchor with
  | none => return
  | some name => if (← get).anchors.any fun entry => entry.1 = name then throw .malformed

/-- Adds a node that its anchor names from now on. -/
def addNamed (anchor : Option Text) (node : Node) : Reading Nat := do
  checkAnchor anchor
  let number ← addNode node
  match anchor with
  | none => return number
  | some name =>
    modify fun source => { source with anchors := (name, number) :: source.anchors }
    return number

/-- The node that an alias names. -/
def named (name : Text) : Reading Nat := do
  let source ← get
  match source.anchors.find? fun entry => entry.1 = name with
  | some (_, number) =>
    set { source with knotted := source.knotted || source.unfinished.contains number }
    return number
  | none => throw .malformed

/-- Adds a collection, reads what is inside of it, and puts that into it. -/
def addCollection (anchor : Option Text) (tag : Tag) (empty : Node.Body) (inside : Reading Node.Body) :
    Reading Nat := do
  let number ← addNamed anchor ⟨tag, empty⟩
  modify fun source => { source with unfinished := number :: source.unfinished }
  let body ← inside
  modify fun source =>
    { source with graph := source.graph.setBody number body, unfinished := source.unfinished.drop 1 }
  return number

/-- Where a node may stand: among the entries of a block, as key or value of a block mapping, or
inside of a flow collection. Only the second place allows a sequence that is not indented. -/
inductive Place
  | block
  | mappingSide
  | flow
  deriving DecidableEq, Repr

mutual

/-- One node; `depth` is how many levels of nesting are still allowed. -/
def node : (fuel depth : Nat) → Place → Reading Nat
  | 0, _, _ => throw .malformed
  | fuel + 1, depth, place => do
    match ← peek with
    | .alias name =>
      skip
      named name
    | _ =>
      let properties ← properties
      let inner : Reading Nat :=
        match depth with
        | 0 => do
          checkAnchor properties.anchor
          throw .tooDeep
        | depth + 1 => collection fuel depth properties
      match ← peek with
      | .scalar t plain =>
        skip
        addNamed properties.anchor (properties.scalar t plain)
      | .flowSequenceStart | .flowMappingStart => inner
      | .blockSequenceStart | .blockMappingStart => if place = .flow then bare properties else inner
      | .blockEntry => if place = .mappingSide then inner else bare properties
      | _ => bare properties

/-- A node with properties alone is an empty scalar. -/
def bare (properties : Properties) : Reading Nat :=
  if properties.anchor.isNone && properties.tag.isNone then throw .malformed
  else addNamed properties.anchor ⟨properties.tagged .null, .scalar []⟩

/-- A collection, from the token that opens it on. -/
def collection : (fuel depth : Nat) → Properties → Reading Nat
  | 0, _, _ => throw .malformed
  | fuel + 1, depth, properties => do
    let sequence (items : Reading (List Nat)) : Reading Nat :=
      addCollection properties.anchor (properties.tagged .sequence) (.sequence []) (.sequence <$> items)
    let mapping (entries : Reading (List (Nat × Nat))) : Reading Nat :=
      addCollection properties.anchor (properties.tagged .mapping) (.mapping []) (.mapping <$> entries)
    match ← peek with
    | .flowSequenceStart => sequence do
      skip
      flowItems fuel depth true
    | .flowMappingStart => mapping do
      skip
      flowEntries fuel depth true
    | .blockSequenceStart => sequence do
      skip
      let items ← blockItems fuel depth [.blockEntry, .blockEnd]
      expect .blockEnd
      return items
    | .blockMappingStart => mapping do
      skip
      let entries ← blockEntries fuel depth
      expect .blockEnd
      return entries
    | _ => sequence (blockItems fuel depth [.blockEntry, .key, .value, .blockEnd])

/-- A node, or an absent one before the given tokens. -/
def nodeUnless : (fuel depth : Nat) → Place → List Token → Reading Nat
  | 0, _, _, _ => throw .malformed
  | fuel + 1, depth, place, ends => do
    if ← isNext ends then addAbsent else node fuel depth place

/-- The items of a block sequence; an item may be absent before the given tokens. -/
def blockItems : (fuel depth : Nat) → List Token → Reading (List Nat)
  | 0, _, _ => throw .malformed
  | fuel + 1, depth, ends => do
    if ← takes .blockEntry then
      let item ← nodeUnless fuel depth .block ends
      return item :: (← blockItems fuel depth ends)
    return []

/-- The entries of a block mapping; keys and values may be absent. -/
def blockEntries : (fuel depth : Nat) → Reading (List (Nat × Nat))
  | 0, _ => throw .malformed
  | fuel + 1, depth => do
    let ends : List Token := [.key, .value, .blockEnd]
    if !(← takes .key) then return []
    let key ← nodeUnless fuel depth .mappingSide ends
    let value ← if ← takes .value then nodeUnless fuel depth .mappingSide ends else addAbsent
    return (key, value) :: (← blockEntries fuel depth)

/-- The items of a flow sequence up to its end; one after a key mark is a mapping of its own. -/
def flowItems : (fuel depth : Nat) → (first : Bool) → Reading (List Nat)
  | 0, _, _ => throw .malformed
  | fuel + 1, depth, first => do
    if ← takes .flowSequenceEnd then return []
    if !first then expect .flowEntry
    if ← takes .flowSequenceEnd then return []
    let item ←
      if (← peek) = .key then
        addCollection none .mapping (.mapping []) do
          skip
          let key ← nodeUnless fuel depth .flow [.value, .flowEntry, .flowSequenceEnd]
          let value ←
            if ← takes .value then nodeUnless fuel depth .flow [.flowEntry, .flowSequenceEnd]
            else addAbsent
          return .mapping [(key, value)]
      else node fuel depth .flow
    return item :: (← flowItems fuel depth false)

/-- The entries of a flow mapping up to its end; without a key mark an entry has no value. -/
def flowEntries : (fuel depth : Nat) → (first : Bool) → Reading (List (Nat × Nat))
  | 0, _, _ => throw .malformed
  | fuel + 1, depth, first => do
    if ← takes .flowMappingEnd then return []
    if !first then expect .flowEntry
    if ← takes .flowMappingEnd then return []
    let entry ←
      if ← takes .key then
        let key ← nodeUnless fuel depth .flow [.value, .flowEntry, .flowMappingEnd]
        let value ←
          if ← takes .value then nodeUnless fuel depth .flow [.flowEntry, .flowMappingEnd]
          else addAbsent
        pure (key, value)
      else do
        let key ← node fuel depth .flow
        pure (key, ← addAbsent)
    return entry :: (← flowEntries fuel depth false)

end

/-- The handles that every document knows. -/
def ownHandles : List (Text × Text) := [("!", "!"), ("!!", coreTag)]

/-- Directives before a document; at most one of them gives the version, which is the first
major one. -/
def directives : (fuel : Nat) → (versionSeen : Bool) → List (Text × Text) → Reading (List (Text × Text))
  | 0, _, _ => throw .malformed
  | fuel + 1, versionSeen, handles => do
    match ← peek with
    | .versionDirective major _ =>
      skip
      if versionSeen || major != 1 then throw .malformed
      directives fuel true handles
    | .tagDirective handle replacement =>
      skip
      if handles.any fun entry => entry.1 = handle then throw .malformed
      directives fuel versionSeen (handles ++ [(handle, replacement)])
    | .otherDirective =>
      skip
      directives fuel versionSeen handles
    | _ => return handles

private def isDirective : Token → Bool
  | .versionDirective _ _ => true
  | .tagDirective _ _ => true
  | .otherDirective => true
  | _ => false

private def skipEnds : (fuel : Nat) → Reading Unit
  | 0 => return
  | fuel + 1 => do if ← takes .documentEnd then skipEnds fuel

/-- A document, which is empty before the mark of another one. -/
def documentBody (fuel : Nat) : Reading Nat := do
  let next ← peek
  if isDirective next || [.documentStart, .documentEnd, .streamEnd].contains next then addAbsent
  else node fuel nestingLimit .block

/-- The root of the only document; there is none in an empty text. What looks like a second
document is read up to its start. -/
def document (fuel : Nat) : Reading (Option Nat) := do
  let first ← peek
  if first = .streamEnd then return none
  let root ←
    if isDirective first || first = .documentStart then do
      let handles ← directives fuel false []
      modify fun source => { source with handles := handles ++ ownHandles }
      expect .documentStart
      documentBody fuel
    else node fuel nestingLimit .block
  skipEnds fuel
  if ← takes .streamEnd then return some root
  discard (directives fuel false [])
  expect .documentStart
  throw .malformed

end Reading

/-- The nodes of a text with the number of its root, and whether one of them holds itself. -/
structure Tree where
  graph : Graph
  root : Option Nat
  knotted : Bool

/-- The nodes of a text. Every code point gives at most a few tokens, and every token takes at
most a few steps. -/
def Tree.ofSupply (supply : Supply) : Except Error Tree := do
  let source : Source :=
    { lexer := .start supply, handles := Reading.ownHandles, anchors := [], graph := ⟨#[]⟩
      unfinished := [], knotted := false }
  let (root, source) ← (Reading.document (16 * supply.codePoints.length + 32)).run source
  return ⟨source.graph, root, source.knotted⟩

end ChatDice.Yaml
