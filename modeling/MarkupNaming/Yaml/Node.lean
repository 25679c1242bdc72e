import MarkupNaming.Yaml.Mark
import MarkupNaming.Yaml.Tag

/-!
# Nodes

The nodes of a document. A node is known by its number in the graph of all nodes, so that an
anchored node can stand in several places, even within itself.
-/
namespace MarkupNaming.Yaml

/-- The number of a node. -/
abbrev NodeId := Nat

/-- What a node is made of. -/
inductive Content
  | scalar (text : Text)
  | sequence (items : List NodeId)
  | mapping (entries : List (NodeId × NodeId))
deriving DecidableEq, Repr

/-- The name of a form of nodes in messages. -/
def Content.form : Content → Text
  | scalar _ => "scalar"
  | sequence _ => "sequence"
  | mapping _ => "mapping"

/-- A node with its kind and the place where it starts. -/
structure Node where
  tag : Tag
  content : Content
  start : Mark
deriving DecidableEq, Repr

/-- Nodes by their numbers. -/
structure NodeGraph where
  nodes : Array Node := #[]

namespace NodeGraph
variable (g : NodeGraph)

/-- How many nodes there are. -/
def size : Nat := g.nodes.size

/-- The node of a number. -/
def node (n : NodeId) : Node := g.nodes.getD n ⟨.null, .scalar [], {}⟩

/-- The kind of a node. -/
def tag (n : NodeId) : Tag := (g.node n).tag

/-- What a node is made of. -/
def content (n : NodeId) : Content := (g.node n).content

/-- The place where a node starts. -/
def start (n : NodeId) : Mark := (g.node n).start

/-- The entries of a mapping node. -/
def entries (n : NodeId) : List (NodeId × NodeId) :=
  match g.content n with
  | .mapping entries => entries
  | _ => []

/-- The graph with another node, and the number of that node. -/
def add (node : Node) : NodeId × NodeGraph := (g.nodes.size, ⟨g.nodes.push node⟩)

/-- The graph with another node in the place of one. -/
def set (n : NodeId) (node : Node) : NodeGraph := ⟨g.nodes.setIfInBounds n node⟩

/-- The graph with another kind of a node. -/
def setTag (n : NodeId) (tag : Tag) : NodeGraph := g.set n { g.node n with tag := tag }

/-- The graph with other entries of a mapping node. -/
def setEntries (n : NodeId) (entries : List (NodeId × NodeId)) : NodeGraph :=
  g.set n { g.node n with content := .mapping entries }

@[simp] theorem size_add (node : Node) : (g.add node).2.size = g.size + 1 := by simp [add, size]

@[simp] theorem node_add (node : Node) : (g.add node).2.node (g.add node).1 = node := by
  simp [add, NodeGraph.node]

@[simp] theorem size_set (n : NodeId) (node : Node) : (g.set n node).size = g.size := by
  simp [set, size]

theorem node_set {n : NodeId} (h : n < g.size) (node : Node) : (g.set n node).node n = node := by
  unfold size at h
  simp [set, NodeGraph.node, h]

end NodeGraph
end MarkupNaming.Yaml
