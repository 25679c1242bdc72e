import MarkupNaming.Yaml.Node
import MarkupNaming.Yaml.Scalar.Meaning

/-!
# What a node denotes

The value that a node of a graph denotes, where the nodes of a collection come behind it and no
mapping merges another one. It does not depend on the nodes in front of it.
-/
namespace MarkupNaming.Yaml

/-- A step that comes to a result hands it on to the next one. -/
theorem run_bind_of_ok {σ ε α β : Type} {m : StateT σ (Except ε) α} {f : α → StateT σ (Except ε) β}
    {s s' : σ} {a : α} (h : m.run s = .ok (a, s')) : (m >>= f).run s = (f a).run s' := by
  rw [StateT.run_bind, h]
  rfl

/-- Whether a scalar of a kind denotes a value by its text alone. -/
def Tag.isSimple : Tag → Bool
  | .null | .truth | .integer | .real | .timestamp | .text => true
  | _ => false

namespace NodeGraph
variable {g g' g'' : NodeGraph} {n m : NodeId} {depth : Nat} {v : Value}

/-- A graph still has all nodes of another one. -/
structure Grows (g g' : NodeGraph) : Prop where
  size_le : g.size ≤ g'.size
  node_eq : ∀ m < g.size, g'.node m = g.node m

theorem Grows.refl (g : NodeGraph) : g.Grows g := ⟨Nat.le_refl _, fun _ _ => rfl⟩

theorem Grows.trans (h : g.Grows g') (h' : g'.Grows g'') : g.Grows g'' :=
  ⟨Nat.le_trans h.size_le h'.size_le, fun m hm =>
    (h'.node_eq m (Nat.lt_of_lt_of_le hm h.size_le)).trans (h.node_eq m hm)⟩

theorem grows_add (g : NodeGraph) (node : Node) : g.Grows (g.add node).2 := by
  refine ⟨by simp, fun m hm => ?_⟩
  unfold size at hm
  simp [add, NodeGraph.node, Array.getD, Array.getElem_push, hm, Nat.lt_succ_of_lt hm]

theorem node_set_of_ne (g : NodeGraph) (node : Node) (h : m ≠ n) :
    (g.set n node).node m = g.node m := by
  simp [set, NodeGraph.node, Ne.symm h]

/-- A node set in a graph that has grown from one without it. -/
theorem Grows.set (h : g.Grows g') (hn : g.size ≤ n) (node : Node) : g.Grows (g'.set n node) := by
  refine ⟨by simpa using h.size_le, fun m hm => ?_⟩
  rw [node_set_of_ne _ _ (Nat.ne_of_lt (Nat.lt_of_lt_of_le hm hn))]
  exact h.node_eq m hm

/-- A node that is a text. -/
structure IsText (g : NodeGraph) (n : NodeId) (t : Text) : Prop where
  lt_size : n < g.size
  tag : g.tag n = .text
  content : g.content n = .scalar t

/-- An entry of a mapping: the nodes of its key and its value, and what they denote. -/
structure Entry where
  key : NodeId
  name : Text
  node : NodeId
  value : Value

/-- The value that a node denotes, with collections that stand within each other `depth` times at
most. The keys of a mapping are texts, each of which stands there once. -/
inductive Denotes (g : NodeGraph) : Nat → NodeId → Value → Prop
  | scalar {depth : Nat} {n : NodeId} {t : Text} {v : Value} (hn : n < g.size)
    (htag : (g.tag n).isSimple = true) (hcontent : g.content n = .scalar t)
    (hvalue : scalarValue (g.tag n) t = .ok v) : Denotes g depth n v
  | list {depth : Nat} {n : NodeId} {items : List (NodeId × Value)} (hn : n < g.size)
    (htag : g.tag n = .sequence) (hcontent : g.content n = .sequence (items.map (·.1)))
    (hbehind : ∀ item ∈ items, n < item.1)
    (hitems : ∀ item ∈ items, Denotes g depth item.1 item.2) :
    Denotes g (depth + 1) n (.list (items.map (·.2)))
  | map {depth : Nat} {n : NodeId} {entries : List Entry} (hn : n < g.size)
    (htag : g.tag n = .mapping)
    (hcontent : g.content n = .mapping (entries.map fun e => (e.key, e.node)))
    (hbehind : ∀ e ∈ entries, n < e.key ∧ n < e.node) (hkeys : ∀ e ∈ entries, g.IsText e.key e.name)
    (hnodup : (entries.map (·.name)).Nodup)
    (hentries : ∀ e ∈ entries, Denotes g depth e.node e.value) :
    Denotes g (depth + 1) n (.map (entries.map fun e => (.text e.name, e.value)))

theorem IsText.of_agree {t : Text} (h : g.IsText n t) (hsize : g.size ≤ g'.size)
    (hnode : g'.node n = g.node n) : g'.IsText n t :=
  ⟨Nat.lt_of_lt_of_le h.lt_size hsize, (congrArg Node.tag hnode).trans h.tag,
    (congrArg Node.content hnode).trans h.content⟩

/-- What a node denotes does not depend on the nodes in front of it. -/
theorem Denotes.of_agree (h : g.Denotes depth n v) (hsize : g.size ≤ g'.size)
    (hnode : ∀ m, n ≤ m → m < g.size → g'.node m = g.node m) : g'.Denotes depth n v := by
  induction h with
  | scalar hn htag hcontent hvalue =>
    have hsame := hnode _ (Nat.le_refl _) hn
    have hkind := congrArg Node.tag hsame
    exact .scalar (Nat.lt_of_lt_of_le hn hsize) ((congrArg Tag.isSimple hkind).trans htag)
      ((congrArg Node.content hsame).trans hcontent)
      ((congrArg (scalarValue · _) hkind).trans hvalue)
  | list hn htag hcontent hbehind _ ih =>
    have hsame := hnode _ (Nat.le_refl _) hn
    exact .list (Nat.lt_of_lt_of_le hn hsize) ((congrArg Node.tag hsame).trans htag)
      ((congrArg Node.content hsame).trans hcontent) hbehind fun item hitem =>
        ih item hitem fun m hm =>
          hnode m (Nat.le_of_lt (Nat.lt_of_lt_of_le (hbehind item hitem) hm))
  | map hn htag hcontent hbehind hkeys hnodup _ ih =>
    have hsame := hnode _ (Nat.le_refl _) hn
    exact .map (Nat.lt_of_lt_of_le hn hsize) ((congrArg Node.tag hsame).trans htag)
      ((congrArg Node.content hsame).trans hcontent) hbehind
      (fun e he => (hkeys e he).of_agree hsize
        (hnode _ (Nat.le_of_lt (hbehind e he).1) (hkeys e he).lt_size)) hnodup
      fun e he => ih e he fun m hm =>
        hnode m (Nat.le_of_lt (Nat.lt_of_lt_of_le (hbehind e he).2 hm))

theorem Denotes.grows (h : g.Denotes depth n v) (hg : g.Grows g') : g'.Denotes depth n v :=
  h.of_agree hg.size_le fun m _ => hg.node_eq m

theorem IsText.grows {t : Text} (h : g.IsText n t) (hg : g.Grows g') : g'.IsText n t :=
  h.of_agree hg.size_le (hg.node_eq n h.lt_size)

theorem Denotes.lt_size (h : g.Denotes depth n v) : n < g.size := by
  cases h <;> assumption

end NodeGraph
end MarkupNaming.Yaml
