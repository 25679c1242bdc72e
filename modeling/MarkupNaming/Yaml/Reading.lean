import MarkupNaming.Yaml.Document
import MarkupNaming.Yaml.Merge
import MarkupNaming.Yaml.Scalar.Binary
import MarkupNaming.Yaml.Scalar.Meaning

/-!
# Reading YAML

The value that a text describes. A scalar is read where it is met. A collection is only noted
there, and read when those noted before it have been read; so of several faults the one nearest to
the root counts, and a collection may stand within itself. At last the collections are put
together, down to a depth that is more than settings nest.
-/
namespace MarkupNaming.Yaml
open Text

/-- How deep a reader may go. That depends on what its caller leaves to it. -/
structure Room where
  /-- How many collections may stand within each other. -/
  nesting : Nat
  /-- How many mappings may be merged within each other. -/
  merging : Nat
  /-- How often the entry that stands for a mapping may lead to a mapping in its place. -/
  following : Nat
  /-- There is room for the collections of settings, none of which merges anything. -/
  enough : 4 ≤ nesting ∧ 1 ≤ merging ∧ 1 ≤ following
deriving DecidableEq, Repr

/-- What a node denotes. The items of a collection are nodes again. -/
inductive Meaning
  | scalar (v : Value)
  | list (items : List NodeId)
  | pairs (items : List (NodeId × NodeId))
  | set (keys : List Value)
  | map (entries : List (Value × NodeId))
  /-- A collection that has been noted. -/
  | noted
deriving Inhabited

namespace Meaning

/-- The value of a node, given the values of its items. -/
def value (item : NodeId → Value) : Meaning → Value
  | scalar v => v
  | list items => .list (items.map item)
  | pairs items => .list (items.map fun (key, value) => .other "tuple" [item key, item value])
  | set keys => .other "set" keys
  | map entries => .map (entries.map fun (key, value) => (key, item value))
  | noted => .null

end Meaning

/-- What has been read of a graph of nodes. -/
structure Readings where
  graph : NodeGraph
  room : Room
  /-- What the nodes denote that have been met. -/
  meanings : Array (Option Meaning)
  /-- The collections that have been noted, the last one first. -/
  noted : List NodeId := []

/-- A step of reading, or a fault. -/
abbrev Read := StateT Readings (Except Fault)

namespace Read

/-- The fault of a rule broken by a node of a graph, as a part of what another one denotes. -/
def brokenBy (g : NodeGraph) (n : NodeId) (breach : Breach)
    (whole : Option (Activity × NodeId) := none) : Fault :=
  .syntaxFault (.broken breach (g.start n) (whole.map fun (a, m) => (a, some (g.start m))))

/-- End with a rule broken by a node, as a part of what another one denotes. -/
def fail {α : Type} (n : NodeId) (breach : Breach) (whole : Option (Activity × NodeId) := none) :
    Read α := do
  throw (brokenBy (← get).graph n breach whole)

/-- Record what a node denotes. -/
def record (n : NodeId) (m : Meaning) : Read Unit :=
  modify fun r => { r with meanings := r.meanings.setIfInBounds n (some m) }

/-- Take a change of the graph as a step of reading. -/
def change {α : Type} (c : Change α) : Read α := do
  let r ← get
  let (a, graph) ← c.run r.graph
  set { r with graph := graph }
  return a

/-- The text of a scalar, or of the entry of a mapping that stands for the whole. Such an entry may
be a mapping again, but only so often. -/
def scalarText (g : NodeGraph) (n : NodeId) : (following : Nat) → Except Fault Text
  | 0 => .error .tooDeep
  | following + 1 =>
    match g.content n with
    | .scalar t => .ok t
    | content =>
      match (g.entries n).find? fun (key, _) => g.tag key = .wholeValue with
      | some (_, whole) => scalarText g whole following
      | none => .error (brokenBy g n (.expected (.form "scalar") content.form))

/-- The value of a node whose kind is one of scalars. -/
def scalarOf (following : Nat) (g : NodeGraph) (n : NodeId) : Except Fault Value := do
  let t ← scalarText g n following
  match g.tag n, g.content n with
  | .timestamp, .mapping _ => throw (.scalar .timestampMapping)
  | .binary, _ => (binaryOf t).map .bytes |>.mapError (brokenBy g n)
  | tag, _ => (scalarValue tag t).mapError .scalar

/-- Meet a node: read it if it denotes a scalar, and note it otherwise. The value of a scalar is
the result. -/
def meet (n : NodeId) : Read (Option Value) := do
  let r ← get
  match r.meanings.getD n none with
  | some (.scalar v) => return some v
  | some _ => return none
  | none =>
    match r.graph.tag n with
    | .sequence | .mapping | .set | .orderedMapping | .pairs =>
      record n .noted
      modify fun r => { r with noted := n :: r.noted }
      return none
    | .merge | .wholeValue | .mark | .other _ => fail n (.unknownTag (r.graph.tag n).name)
    | _ =>
      let v ← scalarOf r.room.following r.graph n
      record n (.scalar v)
      return some v

/-- The entries of a mapping, in which a later value of a key takes the place of an earlier one. -/
def mapEntries (n : NodeId) : Read (List (Value × NodeId)) := do
  let content := (← get).graph.content n
  match content with
  | .mapping _ =>
    let entries ← change (Change.mergedEntries (← get).room.merging n)
    entries.foldlM (fun made (key, value) => do
      match ← meet key with
      | none => fail key .noKey (some (.mapping, n))
      | some k =>
        discard <| meet value
        return Value.setEntry made k value) []
  | _ => fail n (.expected (.form "mapping") content.form)

/-- The items of a list of entries, each of which is a mapping of one entry. -/
def pairsOf (activity : Activity) (n : NodeId) : Read (List (NodeId × NodeId)) := do
  match (← get).graph.content n with
  | .sequence items =>
    items.mapM fun item => do
      match (← get).graph.content item with
      | .mapping [(key, value)] =>
        discard <| meet key
        discard <| meet value
        return (key, value)
      | .mapping entries =>
        let found := ofNat entries.length ++ " items"
        fail item (.expected .singleEntry found) (some (activity, n))
      | content => fail item (.expected .singleMapping content.form) (some (activity, n))
  | content => fail n (.expected .items content.form) (some (activity, n))

/-- What a node denotes whose kind is one of collections. -/
def collectionOf (n : NodeId) : Read Meaning := do
  let g := (← get).graph
  match g.tag n with
  | .mapping => .map <$> mapEntries n
  | .set => do return .set ((← mapEntries n).map (·.1))
  | .orderedMapping => .pairs <$> pairsOf .orderedMapping n
  | .pairs => .pairs <$> pairsOf .pairs n
  | _ =>
    match g.content n with
    | .sequence items => do
      items.forM fun item => discard (meet item)
      return .list items
    | content => fail n (.expected (.form "sequence") content.form)

/-- Read the collections that have been noted, and then those that have been noted meanwhile. -/
def readAll : (rounds : Nat) → Read Unit
  | 0 => return
  | rounds + 1 => do
    match (← get).noted.reverse with
    | [] => return
    | batch =>
      modify fun r => { r with noted := [] }
      batch.forM fun n => do record n (← collectionOf n)
      readAll rounds

end Read

/-- The values of all nodes, with collections down to a depth. -/
def Readings.values (r : Readings) : (depth : Nat) → Array Value
  | 0 => r.meanings.map fun
    | some (.scalar v) => v
    | _ => .null
  | depth + 1 =>
    let inner := r.values depth
    r.meanings.map fun m => (m.map (·.value fun n => inner.getD n .null)).getD .null

/-- How many collections stand within each other in a value, which is more than settings nest. -/
def greatestDepth : Nat := 6

/-- The value of a document, null if it has no root. -/
def Document.value (room : Room) (d : Document) : Except Fault Value :=
  match d.root with
  | none => .ok .null
  | some root => do
    let start : Readings :=
      { graph := d.graph
        room
        meanings := Array.replicate d.graph.size none }
    let ((), r) ←
      (do discard (Read.meet root); Read.readAll (d.graph.size + 1) : Read Unit).run start
    return (r.values greatestDepth).getD root .null

/-- The value that a text describes. -/
def read (room : Room) (t : Text) : Except Fault Value := do
  (← Document.ofText room.nesting t).value room

end MarkupNaming.Yaml
