import ChatDice.Datum.Placing
import ChatDice.Yaml.Assembly

/-!
The data that a YAML document holds. Once all nodes are built, the values of the collections are
put together; a collection that holds itself is tied into a knot.
-/

namespace ChatDice.Yaml

/-- The nodes that stand inside of a node. -/
def Built.inside : Built → List Nat
  | .scalar _ => []
  | .collection (.items nodes) => nodes
  | .collection (.pairs nodes) => nodes.flatMap fun (key, value) => [key, value]
  | .collection (.entries entries) => entries.map (·.2)
  | .collection (.members _) => []

/-- What all nodes have become, by their numbers. -/
abbrev Nodes := Array (Option Built)

namespace Nodes

def built (nodes : Nodes) (number : Nat) : Built := (nodes[number]?.join).getD (.scalar .null)

/-- The nodes inside of some nodes and inside of those, in turn. Every round finds a new node or
is the last. -/
def within (nodes : Nodes) : (fuel : Nat) → (found ahead : List Nat) → List Nat
  | 0, found, _ => found
  | fuel + 1, found, ahead =>
    let next := (ahead.flatMap fun number => (nodes.built number).inside).eraseDups.filter
      (!found.contains ·)
    if next.isEmpty then found else within nodes fuel (found ++ next) next

/-- Whether a node stands inside of itself. -/
def isKnot (nodes : Nodes) (number : Nat) : Bool :=
  (nodes.within (nodes.size + 1) [] [number]).contains number

/-- The values put together so far, by the numbers of their nodes. -/
abbrev Joining := StateM (Array (Option Datum))

/-- The value of a node inside of the given ones. Where nothing is knotted, a value that is known
is used again. No way from a node inwards is longer than there are nodes. -/
def value (nodes : Nodes) (knotted : Bool) : (fuel : Nat) → (around : List Nat) → (number : Nat) → Joining Datum
  | 0, _, _ => return .null
  | fuel + 1, around, number => do
    if around.contains number then return .again number
    match (← get)[number]?.join with
    | some known => return known
    | none =>
      let inner := value nodes knotted fuel (number :: around)
      let body ← match nodes.built number with
        | .scalar d => pure d
        | .collection (.items items) => Datum.list <$> items.mapM inner
        | .collection (.pairs pairs) =>
          Datum.list <$> pairs.mapM fun (key, value) => do return .tuple [← inner key, ← inner value]
        | .collection (.entries entries) =>
          Datum.map <$> entries.mapM fun (key, value) => do return (key, ← inner value)
        | .collection (.members members) => pure (.set (Datum.inSetOrder members))
      if !knotted then modify fun known => known.setIfInBounds number (some body)
      return if knotted && nodes.isKnot number then .knot number body else body

end Nodes

/-- The data of the only document in a file; an empty one holds nothing. -/
def read (bytes : List UInt8) : Except Error Datum := do
  let tree ← Tree.ofSupply (.ofBytes bytes)
  match tree.root with
  | none => return .null
  | some root =>
    let nodes ← tree.graph.assembled root
    return (Nodes.value nodes tree.knotted (nodes.size + 1) [] root (nodes.map fun _ => none)).1

end ChatDice.Yaml
