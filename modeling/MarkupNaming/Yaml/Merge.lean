import MarkupNaming.Yaml.Fault
import MarkupNaming.Yaml.Node

/-!
# Merging

A mapping whose entries include merge keys takes over the entries of other mappings. They come in
front of its own, so that its own entries count where both have a key. A merge key is taken out of
its mapping before what it merges is looked at, so a mapping that merges itself comes to an end.
Mappings that merge each other one by one take room, as collections within each other do.
-/
namespace MarkupNaming.Yaml

/-- A change of a graph of nodes, or a fault. -/
abbrev Change := StateT NodeGraph (Except Fault)

namespace NodeGraph
variable (g : NodeGraph)

/-- The value of the first merge key among entries, and the other entries. -/
def takeMerge? : List (NodeId × NodeId) → Option (NodeId × List (NodeId × NodeId))
  | [] => none
  | (key, value) :: rest =>
    if g.tag key = .merge then some (value, rest)
    else (takeMerge? rest).map fun (found, others) => (found, (key, value) :: others)

/-- The graph in which keys that stand for a mapping as a whole are texts, among some entries. -/
def withTextKeys (entries : List (NodeId × NodeId)) : NodeGraph :=
  entries.foldl (fun g (key, _) => if g.tag key = .wholeValue then g.setTag key .text else g) g

end NodeGraph

namespace Change

/-- The entries that a mapping node takes over by its merge keys, which are taken out of it, where
`merged` yields the entries of a mapping that is merged. Of several mappings under one key the last
one comes first. No more keys are taken out than the mapping has. -/
def takenOver (merged : NodeId → Change (List (NodeId × NodeId))) (n : NodeId) :
    (keys : Nat) → Change (List (NodeId × NodeId))
  | 0 => return []
  | keys + 1 => do
    let g ← get
    match g.takeMerge? (g.entries n) with
    | none => return []
    | some (source, others) =>
      set (g.setEntries n others)
      let part (what : Expectation) (m : NodeId) : Change (List (NodeId × NodeId)) := do
        match (← get).content m with
        | .mapping _ => merged m
        | content =>
          let breach := .expected what content.form
          throw (.syntaxFault (.broken breach (g.start m) (some (.mapping, some (g.start n)))))
      let front ←
        match g.content source with
        | .sequence items => (·.reverse.flatten) <$> items.mapM (part .mergedMapping)
        | _ => part .mergedMappings source
      return front ++ (← takenOver merged n keys)

/-- The entries of a mapping node, with those that it merges in front of them. So many mappings may
be merged within each other. -/
def mergedEntries : (depth : Nat) → (n : NodeId) → Change (List (NodeId × NodeId))
  | 0, _ => throw .tooDeep
  | depth + 1, n => do
    let front ← takenOver (mergedEntries depth) n ((← get).entries n).length
    let g ← get
    let entries := front ++ g.entries n
    set ((if front.isEmpty then g else g.setEntries n entries).withTextKeys entries)
    return entries

end Change
end MarkupNaming.Yaml
