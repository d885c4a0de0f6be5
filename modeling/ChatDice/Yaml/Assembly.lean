import ChatDice.Yaml.Merge
import ChatDice.Yaml.ScalarValue

/-!
Building the values of nodes. A collection is at first empty, and what is inside of it is built
after everything on its own level. So of two faults the one on the outer level is met first, of two
on one level the first, and a collection can be inside of itself.
-/

namespace ChatDice.Yaml

/-- What is inside of a collection: scalars as values, and all else by the numbers of nodes. -/
inductive Content
  | items (nodes : List Nat)
  | pairs (nodes : NodeEntries)
  | entries (entries : List (Datum × Nat))
  | members (values : List Datum)
  deriving Repr

/-- What a node has become: a value of its own, or a collection. -/
inductive Built
  | scalar (value : Datum)
  | collection (content : Content)
  deriving Repr

/-- The graph as far as it is merged, what its nodes have become, and the collections begun on
this level, the last one first. -/
structure Assembly where
  graph : Graph
  built : Array (Option Built)
  begun : List Nat

/-- Builds values from nodes. -/
abbrev Building := StateT Assembly (Except Error)

/-- The content of a collection before anything is inside of it; nothing else has any. -/
def Tag.emptyContent? : Tag → Option Content
  | .sequence => some (.items [])
  | .orderedMapping | .pairs => some (.pairs [])
  | .mapping => some (.entries [])
  | .set => some (.members [])
  | _ => none

/-- The text that a scalar tag finds on a node. On a mapping it is that of the default value, which
may be a mapping again; a chain of more of them than there are nodes never ends. -/
def Graph.scalarText (graph : Graph) : (fuel : Nat) → (number : Nat) → Except Error Text
  | 0, _ => .error .tooDeep
  | fuel + 1, number =>
    match (graph.node number).body with
    | .scalar t => .ok t
    | .sequence _ => .error .malformed
    | .mapping entries =>
      match entries.find? fun entry => (graph.node entry.1).tag = .value with
      | some (_, value) => graph.scalarText fuel value
      | none => .error .malformed

/-- The value of a node with a scalar tag. A timestamp has to stand on a scalar. -/
def Graph.scalar (graph : Graph) (number : Nat) : Except Error Datum := do
  let node := graph.node number
  if [Tag.merge, .value, .unknown].contains node.tag then throw .malformed
  let t ← graph.scalarText (graph.nodes.size + 1) number
  if node.tag = .timestamp && node.isMapping then throw (.timestampKind "list")
  scalarValue number node.tag t

namespace Building

private def store (number : Nat) (built : Built) : Building Unit :=
  modify fun assembly => { assembly with built := assembly.built.setIfInBounds number (some built) }

/-- What a node becomes, which happens once. A collection is begun and left empty. -/
def build (number : Nat) : Building Built := do
  let assembly ← get
  match assembly.built[number]? with
  | some (some built) => return built
  | _ =>
    match (assembly.graph.node number).tag.emptyContent? with
    | some content =>
      store number (.collection content)
      modify fun assembly => { assembly with begun := number :: assembly.begun }
      return .collection content
    | none =>
      let value ← assembly.graph.scalar number
      store number (.scalar value)
      return .scalar value

/-- The entries of a mapping after its merges. A collection cannot be a key. -/
def entries (number : Nat) : Building (List (Datum × Nat)) := do
  let graph := (← get).graph
  if !(graph.node number).isMapping then throw .malformed
  let graph ← graph.merging number
  modify fun assembly => { assembly with graph }
  (graph.entries number).foldlM (fun entries (key, value) => do
    match ← build key with
    | .collection _ => throw .malformed
    | .scalar key =>
      discard (build value)
      return Datum.put entries key value) []

/-- The only entry of a mapping. -/
def pair (number : Nat) : Building (Nat × Nat) := do
  match (← get).graph.entries number with
  | [(key, value)] =>
    discard (build key)
    discard (build value)
    return (key, value)
  | _ => throw .malformed

private def sequenceItems (number : Nat) : Building (List Nat) := do
  match ((← get).graph.node number).body with
  | .sequence items => return items
  | _ => throw .malformed

/-- What is inside of a collection; what the node holds has to fit its tag. -/
def content (number : Nat) : Building Content := do
  match ((← get).graph.node number).tag with
  | .mapping => return .entries (← entries number)
  | .set => return .members ((← entries number).map (·.1))
  | .orderedMapping | .pairs => return .pairs (← (← sequenceItems number).mapM pair)
  | _ =>
    let items ← sequenceItems number
    items.forM fun item => discard (build item)
    return .items items

/-- Fills collections, and after them those that were begun meanwhile, level by level. -/
def fill : (fuel : Nat) → List Nat → Building Unit
  | 0, _ => return
  | _ + 1, [] => return
  | fuel + 1, level => do
    level.forM fun number => do store number (.collection (← content number))
    let begun := (← get).begun.reverse
    modify fun assembly => { assembly with begun := [] }
    fill fuel begun

end Building

/-- What the nodes have become once the root is built with all that is inside of it. A level begins
at least one node. -/
def Graph.assembled (graph : Graph) (root : Nat) : Except Error (Array (Option Built)) := do
  let start : Assembly := ⟨graph, graph.nodes.map fun _ => none, []⟩
  let work : Building Unit := do
    discard (Building.build root)
    let begun := (← get).begun
    modify fun assembly => { assembly with begun := [] }
    Building.fill (graph.nodes.size + 1) begun
  return (← work.run start).2.built

end ChatDice.Yaml
