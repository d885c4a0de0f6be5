import ChatDice.Yaml.Node

/-!
Merges. An entry of a mapping with the merge key brings in the entries of another mapping, or of
several, in front of the mapping's own ones. Merged mappings are merged themselves first, and a
mapping that is merged into itself gives what it has without that merge.
-/

namespace ChatDice.Yaml

/-- Entries of a mapping by the numbers of their nodes. -/
abbrev NodeEntries := List (Nat × Nat)

namespace Graph

/-- The value of the first merge of a mapping, and the mapping without that merge. -/
def takeMerge? (graph : Graph) (number : Nat) : Option (Nat × Graph) :=
  let entries := graph.entries number
  let isMerge (entry : Nat × Nat) : Bool := (graph.node entry.1).tag = .merge
  match entries.find? isMerge with
  | none => none
  | some (_, value) => some (value, graph.setBody number (.mapping (entries.eraseP isMerge)))

/-- The mark of a default value is an ordinary text where it is the key of an entry. -/
def withPlainKeys (graph : Graph) (number : Nat) : Graph :=
  (graph.entries number).foldl (fun graph entry =>
    let key := graph.node entry.1
    if key.tag = .value then graph.setNode entry.1 { key with tag := .str } else graph) graph

/-- A mapping with merged entries in front of its own ones. -/
def withMerged (graph : Graph) (number : Nat) (merged : NodeEntries) : Graph :=
  (graph.setBody number (.mapping (merged ++ graph.entries number))).withPlainKeys number

/-- The entries that the merges of a mapping bring in; the mapping is left without them. Of several
mappings merged at once, an earlier one overrides a later one. Every merge is taken once. -/
def takeMerges : (fuel : Nat) → Graph → (number : Nat) → Except Error (Graph × NodeEntries)
  | 0, graph, _ => .ok (graph, [])
  | fuel + 1, graph, number =>
    match graph.takeMerge? number with
    | none => .ok (graph, [])
    | some (value, graph) => do
      let merge (graph : Graph) (number : Nat) : Except Error (Graph × NodeEntries) := do
        let (graph, merged) ← takeMerges fuel graph number
        let graph := graph.withMerged number merged
        return (graph, graph.entries number)
      let (graph, first) ← match (graph.node value).body with
        | .mapping _ => merge graph value
        | .sequence items =>
          items.foldlM (fun (graph, later) item => do
            if !(graph.node item).isMapping then throw .malformed
            let (graph, entries) ← merge graph item
            return (graph, entries ++ later)) (graph, [])
        | .scalar _ => throw .malformed
      let (graph, rest) ← takeMerges fuel graph number
      return (graph, first ++ rest)

/-- How many entries all mappings have. -/
def entryCount (graph : Graph) : Nat :=
  graph.nodes.foldl (fun count node =>
    match node.body with
    | .mapping entries => count + entries.length
    | _ => count) 0

/-- The graph with the merges of one mapping done. -/
def merging (graph : Graph) (number : Nat) : Except Error Graph := do
  let (graph, merged) ← graph.takeMerges (graph.entryCount + 1) number
  return graph.withMerged number merged

end Graph

end ChatDice.Yaml
