import MarkupNaming.Proofs.Yaml.Faults.Merging
import MarkupNaming.Proofs.Yaml.Faults.Nodes
import MarkupNaming.Yaml.Reading

/-!
# Faults of values

What keeps nodes from having values. Scalars are what they are in the document, whatever is merged.
So beside broken rules there are only scalars without a value of their kind, mappings in the place
of scalars, and entries that lead down further than a reader goes.
-/
namespace MarkupNaming.Yaml

/-! ## Reading -/

/-- What can be wrong with the values of the nodes of a graph, for a reader with some room. -/
inductive Lacks (room : Room) (g : NodeGraph) : Fault → Prop
  | syntaxFault (fault : SyntaxFault) : Lacks room g (.syntaxFault fault)
  /-- A scalar denotes no value of its kind. -/
  | value {n : NodeId} {u : Text} {fault : ScalarFault} (hstands : g.Stands n u)
    (hvalue : scalarValue (g.tag n) u = .error fault) : Lacks room g (.scalar fault)
  /-- A mapping is said to be a day or a time. -/
  | timestamp {n : NodeId} (hn : g.IsMapping n) (htag : g.tag n = .timestamp) :
    Lacks room g (.scalar .timestampMapping)
  /-- A mapping merges another one, which merges another one, and so on. -/
  | merging {n : NodeId} (h : NodeGraph.LeadsDown g.MergedInto room.merging n) :
    Lacks room g .tooDeep
  /-- An entry stands for a mapping, and is a mapping for which an entry stands, and so on. -/
  | following {n : NodeId} (h : NodeGraph.LeadsDown g.StandsFor room.following n) :
    Lacks room g .tooDeep

namespace Read
variable {room : Room} {g g' : NodeGraph} {n : NodeId} {α : Type} {m : Read α}

theorem isMapping_of_find? {p : NodeId × NodeId → Bool} {entry : NodeId × NodeId}
    (h : (g.entries n).find? p = some entry) : g.IsMapping n := by
  rw [NodeGraph.entries] at h
  split at h
  · next entries hcontent => exact ⟨entries, hcontent⟩
  · cases h

/-- The text of a scalar is found, unless a mapping is met in its place. -/
theorem outcome_scalarText (g : NodeGraph) (n : NodeId) (following : Nat) :
    Outcome (g.Stands n) (fun fault => IsSyntaxFault fault ∨
      fault = .tooDeep ∧ NodeGraph.LeadsDown g.StandsFor following n)
      (scalarText g n following) := by
  induction following generalizing n with
  | zero => exact .inr ⟨rfl, trivial⟩
  | succ following ih =>
    rw [scalarText]
    split
    · next u hcontent => exact .own hcontent
    · split
      · next key whole hfind =>
        have hn := isMapping_of_find? hfind
        have hkey := of_decide_eq_true (List.find?_some hfind :)
        have hwhole : g.StandsFor whole n :=
          ⟨_, NodeGraph.mem_entriesOf.2 ⟨List.mem_of_find?_eq_some hfind, hkey⟩, rfl⟩
        refine ((ih whole).imp fun u hu => ?_).imp_fault fun fault hfault => ?_
        · cases hu with
          | own h => exact .entry hn h
          | entry _ h => exact .entry hn h
        · exact hfault.imp_right fun ⟨hdeep, hdown⟩ => ⟨hdeep, whole, hwhole, hdown⟩
      · exact .inl ⟨_, rfl⟩

theorem outcome_scalarOf (h : g.Merges g') (n : NodeId) :
    Outcome (fun _ => True) (Lacks room g) (scalarOf room.following g' n) := by
  have htext := outcome_scalarText g' n room.following
  unfold scalarOf
  refine (htext.imp_fault fun fault hfault => ?_).bind fun u hu => ?_
  · obtain ⟨reason, rfl⟩ | ⟨rfl, hdown⟩ := hfault
    · exact .syntaxFault reason
    · exact .following (hdown.imp fun _ _ => h.standsFor)
  split
  · next entries htag hcontent =>
    exact .timestamp (h.isMapping_iff.1 ⟨entries, hcontent⟩)
      ((h.tag_eq (by rw [htag]; decide)).trans htag)
  · cases binaryOf u with
    | ok bytes => exact trivial
    | error breach => exact .syntaxFault _
  · cases hvalue : scalarValue (g'.tag n) u with
    | ok v => exact trivial
    | error fault =>
      have htag : g'.tag n ≠ .text := by
        intro htag
        rw [htag] at hvalue
        cases hvalue
      exact .value (h.stands hu) (by rw [h.tag_eq htag, hvalue])

/-- What a reader with some room has read of a graph: its own graph comes from that one by
merging. -/
structure Reads (room : Room) (g : NodeGraph) (r : Readings) : Prop where
  room : r.room = room
  graph : g.Merges r.graph

/-- A step of reading that leaves a graph which comes from another one by merging so. -/
abbrev Goes (room : Room) (g : NodeGraph) (m : Read α) : Prop :=
  Ends (Reads room g) m (fun _ => Reads room g) (Lacks room g)

theorem goes_pure {a : α} : Goes room g (pure a : Read α) := ends_pure fun _ hr => hr

theorem goes_get : Goes room g (get : Read Readings) := ends_get.imp fun _ _ hr => hr.2

theorem goes_fail {breach : Breach} {whole : Option (Activity × NodeId)} :
    Goes room g (fail n breach whole : Read α) :=
  goes_get.bind fun _ => ends_throw fun _ _ => .syntaxFault _

theorem goes_record {x : Meaning} : Goes room g (record n x) :=
  ends_modify fun _ hr => ⟨hr.room, hr.graph⟩

theorem goes_note {noted : Readings → List NodeId} :
    Goes room g (modify fun r => { r with noted := noted r }) :=
  ends_modify fun _ hr => ⟨hr.room, hr.graph⟩

/-- The entries of a mapping are merged. -/
theorem goes_change_mergedEntries (hn : g.IsMapping n) :
    Goes room g (change (Change.mergedEntries room.merging n)) := by
  refine ends_get_bind fun r hr => ?_
  have hmerged := Change.yields_mergedEntries room.merging g n hn r.graph hr.graph
  have hrun := hmerged.imp_fault fun fault hfault => show Lacks room g fault by
    obtain ⟨reason, rfl⟩ | ⟨rfl, hdown⟩ := hfault
    · exact .syntaxFault reason
    · exact .merging hdown
  refine (ends_lift hrun).bind fun found => .of_each fun s h => ?_
  have hset : Ends (· = s) (set { r with graph := found.2 } : Read PUnit)
      (fun _ => Reads room g) (Lacks room g) := ends_set fun _ _ => ⟨hr.room, h.1.1⟩
  exact hset.bind fun _ => goes_pure

theorem goes_meet (n : NodeId) : Goes room g (meet n) := by
  refine ends_get_bind fun r hr => ?_
  split
  · exact goes_pure
  · exact goes_pure
  · have hnoted : Goes room g (do
        record n .noted
        modify fun r => { r with noted := n :: r.noted }
        return none : Read (Option Value)) :=
      goes_record.bind fun _ => goes_note.bind fun _ => goes_pure
    -- a node with the tag of a collection is noted, one with a tag that is not known is a fault
    split
    any_goals exact hnoted
    any_goals exact goes_fail
    rw [hr.room]
    refine ((ends_lift (outcome_scalarOf hr.graph n)).imp fun _ _ h => h.2).bind fun v => ?_
    exact goes_record.bind fun _ => goes_pure

theorem goes_discard_meet (n : NodeId) : Goes room g (discard (meet n)) :=
  (goes_meet n).map fun _ _ hr => hr

theorem goes_mapEntries (n : NodeId) : Goes room g (mapEntries n) := by
  refine ends_get_bind fun r hr => ?_
  dsimp only
  split
  · next entries hcontent =>
    have hn := hr.graph.isMapping_iff.1 ⟨entries, hcontent⟩
    refine ends_get_bind fun r hr => ?_
    rw [hr.room]
    refine (goes_change_mergedEntries hn).bind fun entries => ?_
    refine ends_foldlM (fun made entry => (goes_meet _).bind fun key => ?_) _ _
    split
    · exact goes_fail
    · exact (goes_discard_meet _).bind fun _ => goes_pure
  · exact goes_fail

theorem goes_pairsOf (activity : Activity) (n : NodeId) : Goes room g (pairsOf activity n) := by
  refine goes_get.bind fun r => ?_
  split
  · have hitem (m : Read (NodeId × NodeId)) (hm : Goes room g m) :
        Ends (Reads room g) m (fun _ r => Reads room g r ∧ True) (Lacks room g) :=
      hm.imp fun _ _ hr => ⟨hr, trivial⟩
    refine (ends_mapM fun item _ => hitem _ (goes_get.bind fun r => ?_)).imp fun _ _ hr => hr.1
    split
    · exact (goes_discard_meet _).bind fun _ => (goes_discard_meet _).bind fun _ => goes_pure
    · exact goes_fail
    · exact goes_fail
  · exact goes_fail

theorem goes_collectionOf (n : NodeId) : Goes room g (collectionOf n) := by
  refine goes_get.bind fun r => ?_
  dsimp only
  split
  · exact (goes_mapEntries n).map fun _ _ hr => hr
  · exact (goes_mapEntries n).bind fun _ => goes_pure
  · exact (goes_pairsOf _ n).map fun _ _ hr => hr
  · exact (goes_pairsOf _ n).map fun _ _ hr => hr
  · split
    · exact (ends_forM goes_discard_meet _).bind fun _ => goes_pure
    · exact goes_fail

theorem goes_readAll (rounds : Nat) : Goes room g (readAll rounds) := by
  induction rounds with
  | zero => exact goes_pure
  | succ rounds ih =>
    rw [readAll]
    refine goes_get.bind fun r => ?_
    split
    · exact goes_pure
    · refine goes_note.bind fun _ => ?_
      refine (ends_forM (fun n => ?_) _).bind fun _ => ih
      exact (goes_collectionOf n).bind fun _ => goes_record

end Read

/-- What can be wrong with a document. -/
theorem Document.outcome_value (room : Room) (d : Document) :
    Outcome (fun _ => True) (Lacks room d.graph) (d.value room) := by
  unfold Document.value
  split
  · exact trivial
  · next root _ =>
    have hread : Read.Goes room d.graph (do
        discard (Read.meet root)
        Read.readAll (d.graph.size + 1) : Read Unit) :=
      (Read.goes_discard_meet root).bind fun _ => Read.goes_readAll _
    exact (hread _ ⟨rfl, .refl d.graph⟩).bind fun _ _ => trivial

/-! ## Texts -/

/-- What can be wrong with a text, for a reader with some room. -/
inductive Fails (room : Room) (t : Text) : Fault → Prop
  | syntaxFault (fault : SyntaxFault) : Fails room t (.syntaxFault fault)
  /-- The text writes a number that is too large. -/
  | overflow {fault : ScalarFault} (h : Overflows t fault) : Fails room t (.scalar fault)
  /-- The text has more tokens that open a collection than collections may be nested. -/
  | nesting (h : room.nesting < openings (Tokens.ofText t).tokens) : Fails room t .tooDeep
  /-- The text describes a document with a node that has no value. -/
  | value {d : Document} {fault : Fault} (hd : Document.ofText room.nesting t = .ok d)
    (h : Lacks room d.graph fault) : Fails room t fault

theorem fails_of_stops {room : Room} {t : Text} {fault : Fault} (h : Stops t fault) :
    Fails room t fault := by
  cases h with
  | syntaxFault reason => exact .syntaxFault reason
  | overflow h => exact .overflow h

theorem Document.outcome_ofText (room : Room) (t : Text) :
    Outcome (fun _ => True) (Fails room t) (Document.ofText room.nesting t) := by
  unfold Document.ofText
  split
  · exact .syntaxFault _
  · have hparse : Parse.Stays
        ⟨(Tokens.ofText t).fault, room.nesting, openings (Tokens.ofText t).tokens⟩ 0
        (Parse.document (2 * (Tokens.ofText t).tokens.length + 2)) := Parse.stays_document _
    have hrun := hparse
      { tokens := (Tokens.ofText t).tokens, fault := (Tokens.ofText t).fault, room := room.nesting }
      ⟨rfl, rfl, Nat.le_of_eq (Nat.zero_add _)⟩
    dsimp only
    split
    · exact trivial
    · next fault hfault =>
      cases hrun.of_eq_error hfault with
      | syntaxFault reason => exact .syntaxFault reason
      | ended hended => exact fails_of_stops (Tokens.stops_of_ofText t fault hended)
      | tooDeep h => exact .nesting h

/-- A text that is not read breaks a rule, writes a number that is too large, nests collections too
deep, or describes a node without a value. -/
theorem fails_of_read {room : Room} {t : Text} {fault : Fault} (h : read room t = .error fault) :
    Fails room t fault := by
  rw [read] at h
  cases hd : Document.ofText room.nesting t with
  | error fault' =>
    rw [hd] at h
    obtain rfl : fault' = fault := Except.error.inj h
    exact (Document.outcome_ofText room t).of_eq_error hd
  | ok d =>
    rw [hd] at h
    exact .value hd ((d.outcome_value room).of_eq_error h)

end MarkupNaming.Yaml
