import Mathlib.Data.List.Basic
import MarkupNaming.Proofs.Yaml.Denotation
import MarkupNaming.Proofs.Yaml.Faults.Outcome
import MarkupNaming.Yaml.Merge

/-!
# Faults of merging

Merging changes the entries of mappings and turns some keys into texts, but scalars stay what they
are in the document. A merge key is taken out of its mapping, and what is merged in its place has
none; so no mapping gets an entry that merges, and a reader goes down along those of the document.
-/
namespace MarkupNaming.Yaml

namespace NodeGraph
variable {g g' g'' : NodeGraph} {n m : NodeId} {entries : List (NodeId × NodeId)}

/-- A node that is a mapping. -/
def IsMapping (g : NodeGraph) (n : NodeId) : Prop := ∃ entries, g.content n = .mapping entries

/-- A text that stands for a node as a scalar: its own, or that of a node in a mapping. -/
inductive Stands (g : NodeGraph) (n : NodeId) (u : Text) : Prop
  | own (h : g.content n = .scalar u)
  | entry {m : NodeId} (hn : g.IsMapping n) (h : g.content m = .scalar u)

/-- The entries of a node whose keys are of a kind. -/
def entriesOf (g : NodeGraph) (tag : Tag) (n : NodeId) : List (NodeId × NodeId) :=
  (g.entries n).filter fun entry => g.tag entry.1 = tag

/-- A mapping is merged by an entry of another one, alone or in a list. -/
def MergedInto (g : NodeGraph) (m n : NodeId) : Prop :=
  ∃ entry ∈ g.entriesOf .merge n, m = entry.2 ∨
    ∃ items, g.content entry.2 = .sequence items ∧ m ∈ items

/-- A node stands for the mapping in which it is an entry. -/
def StandsFor (g : NodeGraph) (m n : NodeId) : Prop :=
  ∃ entry ∈ g.entriesOf .wholeValue n, m = entry.2

/-- A relation leads so many steps down from a node. -/
def LeadsDown (relation : NodeId → NodeId → Prop) : (steps : Nat) → (n : NodeId) → Prop
  | 0, _ => True
  | steps + 1, n => ∃ m, relation m n ∧ LeadsDown relation steps m

/-- Entries none of which merges a mapping. -/
def IsFlat (g : NodeGraph) (entries : List (NodeId × NodeId)) : Prop :=
  ∀ entry ∈ entries, g.tag entry.1 ≠ .merge

/-- A graph in which only the entries of mappings have changed, and keys that stood for a mapping
as a whole may be texts. No mapping has got an entry that merges or that stands for the whole. -/
structure Merges (g g' : NodeGraph) : Prop where
  tag : ∀ n, g'.tag n = g.tag n ∨ (g.tag n = .wholeValue ∧ g'.tag n = .text)
  content : ∀ n, g'.content n = g.content n ∨ (g.IsMapping n ∧ g'.IsMapping n)
  merging : ∀ n, (g'.entriesOf .merge n).Sublist (g.entriesOf .merge n)
  whole : ∀ n, (g'.entriesOf .wholeValue n).Sublist (g.entriesOf .wholeValue n)

theorem node_of_size_le (h : g.size ≤ n) : g.node n = ⟨.null, .scalar [], {}⟩ := by
  unfold size at h
  simp [node, Array.getD, Nat.not_lt.2 h]

theorem mem_entriesOf {entry : NodeId × NodeId} {tag : Tag} :
    entry ∈ g.entriesOf tag n ↔ entry ∈ g.entries n ∧ g.tag entry.1 = tag := by
  rw [entriesOf, List.mem_filter, decide_eq_true_eq]

theorem isFlat_entries_iff : g.IsFlat (g.entries n) ↔ g.entriesOf .merge n = [] := by
  simp only [IsFlat, entriesOf, List.filter_eq_nil_iff, decide_eq_true_eq, ne_eq]

theorem LeadsDown.imp {r r' : NodeId → NodeId → Prop} (h : ∀ m n, r m n → r' m n) {steps : Nat}
    (hn : LeadsDown r steps n) : LeadsDown r' steps n := by
  induction steps generalizing n with
  | zero => trivial
  | succ steps ih =>
    obtain ⟨m, hm, hrest⟩ := hn
    exact ⟨m, h m n hm, ih hrest⟩

theorem Merges.refl (g : NodeGraph) : g.Merges g :=
  ⟨fun _ => .inl rfl, fun _ => .inl rfl, fun _ => .refl _, fun _ => .refl _⟩

theorem Merges.isMapping_iff (h : g.Merges g') : g'.IsMapping n ↔ g.IsMapping n := by
  obtain hsame | ⟨hn, hn'⟩ := h.content n
  · rw [IsMapping, IsMapping, hsame]
  · exact iff_of_true hn' hn

theorem Merges.tag_eq (h : g.Merges g') (hn : g'.tag n ≠ .text) : g.tag n = g'.tag n := by
  obtain hsame | ⟨-, htext⟩ := h.tag n
  · exact hsame.symm
  · exact absurd htext hn

theorem Merges.tag_eq_merge_iff (h : g.Merges g') : g'.tag n = .merge ↔ g.tag n = .merge := by
  obtain hsame | ⟨hwhole, htext⟩ := h.tag n
  · rw [hsame]
  · exact iff_of_false (by rw [htext]; nofun) (by rw [hwhole]; nofun)

theorem Merges.isFlat_iff (h : g.Merges g') : g'.IsFlat entries ↔ g.IsFlat entries := by
  simp only [IsFlat, ne_eq, h.tag_eq_merge_iff]

theorem Merges.content_scalar (h : g.Merges g') {u : Text} (hn : g'.content n = .scalar u) :
    g.content n = .scalar u := by
  obtain hsame | ⟨-, entries, hmapping⟩ := h.content n
  · rw [← hsame, hn]
  · cases hmapping.symm.trans hn

theorem Merges.content_sequence (h : g.Merges g') {items : List NodeId}
    (hn : g'.content n = .sequence items) : g.content n = .sequence items := by
  obtain hsame | ⟨-, entries, hmapping⟩ := h.content n
  · rw [← hsame, hn]
  · cases hmapping.symm.trans hn

theorem Merges.stands (h : g.Merges g') {u : Text} (hn : g'.Stands n u) : g.Stands n u := by
  cases hn with
  | own hn => exact .own (h.content_scalar hn)
  | entry hn hm => exact .entry (h.isMapping_iff.1 hn) (h.content_scalar hm)

theorem Merges.mergedInto (h : g.Merges g') (hm : g'.MergedInto m n) : g.MergedInto m n := by
  obtain ⟨entry, hentry, hsource⟩ := hm
  refine ⟨entry, (h.merging n).subset hentry, hsource.imp_right ?_⟩
  rintro ⟨items, hcontent, hmem⟩
  exact ⟨items, h.content_sequence hcontent, hmem⟩

theorem Merges.standsFor (h : g.Merges g') (hm : g'.StandsFor m n) : g.StandsFor m n := by
  obtain ⟨entry, hentry, hm⟩ := hm
  exact ⟨entry, (h.whole n).subset hentry, hm⟩

theorem Merges.trans (h : g.Merges g') (h' : g'.Merges g'') : g.Merges g'' where
  tag n := by
    obtain hsame | ⟨hwhole, htext⟩ := h'.tag n
    · rw [hsame]
      exact h.tag n
    · have htag : g.tag n = g'.tag n := h.tag_eq (by rw [hwhole]; decide)
      exact .inr ⟨htag.trans hwhole, htext⟩
  content n := by
    obtain hsame | ⟨hn, hn'⟩ := h'.content n
    · rw [hsame]
      obtain hsame' | ⟨hn, hn'⟩ := h.content n
      · exact .inl hsame'
      · refine .inr ⟨hn, ?_⟩
        rwa [IsMapping, hsame]
    · exact .inr ⟨h.isMapping_iff.1 hn, hn'⟩
  merging n := (h'.merging n).trans (h.merging n)
  whole n := (h'.whole n).trans (h.whole n)

/-! ### Other entries -/

theorem lt_size_of_isMapping (hn : g.IsMapping n) : n < g.size := by
  by_contra hout
  obtain ⟨_, hcontent⟩ := hn
  rw [content, node_of_size_le (Nat.le_of_not_lt hout)] at hcontent
  cases hcontent

theorem tag_setEntries (hn : g.IsMapping n) (m : NodeId) :
    (g.setEntries n entries).tag m = g.tag m := by
  have hset : (g.setEntries n entries).node n = { g.node n with content := .mapping entries } :=
    g.node_set (lt_size_of_isMapping hn) _
  by_cases hm : m = n
  · subst hm
    rw [tag, hset, tag]
  · rw [tag, setEntries, node_set_of_ne _ _ hm, tag]

theorem content_setEntries (hn : g.IsMapping n) (m : NodeId) :
    (g.setEntries n entries).content m = if m = n then .mapping entries else g.content m := by
  have hset : (g.setEntries n entries).node n = { g.node n with content := .mapping entries } :=
    g.node_set (lt_size_of_isMapping hn) _
  split
  · next hm => rw [hm, content, hset]
  · next hm => rw [content, setEntries, node_set_of_ne _ _ hm, content]

theorem entriesOf_setEntries (hn : g.IsMapping n) (tag : Tag) (m : NodeId) :
    (g.setEntries n entries).entriesOf tag m =
      if m = n then entries.filter fun entry => g.tag entry.1 = tag else g.entriesOf tag m := by
  simp only [entriesOf, tag_setEntries hn, NodeGraph.entries, content_setEntries hn]
  by_cases hm : m = n
  · simp only [if_pos hm]
  · simp only [if_neg hm]

theorem isMapping_setEntries (hn : g.IsMapping n) : (g.setEntries n entries).IsMapping n :=
  ⟨entries, by rw [content_setEntries hn, if_pos rfl]⟩

/-- Some entries of a mapping are left out. -/
theorem merges_setEntries_of_sublist (hn : g.IsMapping n) (h : entries.Sublist (g.entries n)) :
    g.Merges (g.setEntries n entries) := by
  have hentriesOf (tag : Tag) (m : NodeId) :
      ((g.setEntries n entries).entriesOf tag m).Sublist (g.entriesOf tag m) := by
    rw [entriesOf_setEntries hn]
    split
    · next hm => exact hm ▸ h.filter _
    · exact .refl _
  refine ⟨fun m => .inl (tag_setEntries hn m), fun m => ?_, hentriesOf _, hentriesOf _⟩
  by_cases hm : m = n
  · subst hm
    exact .inr ⟨hn, isMapping_setEntries hn⟩
  · exact .inl (by rw [content_setEntries hn, if_neg hm])

theorem tag_setTag (hn : n < g.size) (tag : Tag) (m : NodeId) :
    (g.setTag n tag).tag m = if m = n then tag else g.tag m := by
  have hset : (g.setTag n tag).node n = { g.node n with tag := tag } := g.node_set hn _
  split
  · next hm => rw [hm, NodeGraph.tag, hset]
  · next hm => rw [NodeGraph.tag, setTag, node_set_of_ne _ _ hm, NodeGraph.tag]

theorem content_setTag (hn : n < g.size) (tag : Tag) (m : NodeId) :
    (g.setTag n tag).content m = g.content m := by
  have hset : (g.setTag n tag).node n = { g.node n with tag := tag } := g.node_set hn _
  by_cases hm : m = n
  · rw [hm, content, hset, content]
  · rw [content, setTag, node_set_of_ne _ _ hm, content]

theorem merges_setTag (hn : g.tag n = .wholeValue) : g.Merges (g.setTag n .text) := by
  have hsize : n < g.size := by
    by_contra hout
    rw [tag, node_of_size_le (Nat.le_of_not_lt hout)] at hn
    cases hn
  have htag (m : NodeId) (tag : Tag) (htext : tag ≠ .text) (hm : (g.setTag n .text).tag m = tag) :
      g.tag m = tag := by
    rw [tag_setTag hsize] at hm
    split at hm
    · exact absurd hm.symm htext
    · exact hm
  have hentriesOf (tag : Tag) (htext : tag ≠ .text) (m : NodeId) :
      ((g.setTag n .text).entriesOf tag m).Sublist (g.entriesOf tag m) := by
    rw [entriesOf, entriesOf, NodeGraph.entries, content_setTag hsize, ← NodeGraph.entries]
    refine List.monotone_filter_right _ fun entry hentry => ?_
    exact decide_eq_true (htag _ _ htext (of_decide_eq_true hentry))
  refine ⟨fun m => ?_, fun m => .inl (content_setTag hsize _ m), hentriesOf _ nofun,
    hentriesOf _ nofun⟩
  rw [tag_setTag hsize]
  split
  · next hm => exact .inr ⟨hm ▸ hn, rfl⟩
  · exact .inl rfl

/-- One key after the other is taken as a text. -/
theorem withTextKeys_cons (g : NodeGraph) (entry : NodeId × NodeId)
    (entries : List (NodeId × NodeId)) :
    ∃ g', g.Merges g' ∧ g'.tag entry.1 ≠ .wholeValue ∧ (∀ n, g'.content n = g.content n) ∧
      g.withTextKeys (entry :: entries) = g'.withTextKeys entries := by
  have hcons : g.withTextKeys (entry :: entries) =
      (if g.tag entry.1 = .wholeValue then g.setTag entry.1 .text else g).withTextKeys entries :=
    rfl
  rw [hcons]
  by_cases hkey : g.tag entry.1 = .wholeValue
  · have hmerges := merges_setTag hkey
    have hsize : entry.1 < g.size := by
      by_contra hout
      rw [tag, node_of_size_le (Nat.le_of_not_lt hout)] at hkey
      cases hkey
    refine ⟨g.setTag entry.1 .text, hmerges, ?_, content_setTag hsize _, by rw [if_pos hkey]⟩
    rw [tag_setTag hsize, if_pos rfl]
    nofun
  · exact ⟨g, .refl g, hkey, fun _ => rfl, by rw [if_neg hkey]⟩

theorem merges_withTextKeys (g : NodeGraph) (entries : List (NodeId × NodeId)) :
    g.Merges (g.withTextKeys entries) := by
  induction entries generalizing g with
  | nil => exact .refl g
  | cons entry entries ih =>
    obtain ⟨g', hmerges, -, -, hrest⟩ := withTextKeys_cons g entry entries
    exact hrest ▸ hmerges.trans (ih g')

/-- None of the keys stands for a mapping any more. -/
theorem tag_withTextKeys_ne (g : NodeGraph) {entry : NodeId × NodeId} (hentry : entry ∈ entries) :
    (g.withTextKeys entries).tag entry.1 ≠ .wholeValue := by
  induction entries generalizing g with
  | nil => cases hentry
  | cons first entries ih =>
    obtain ⟨g', -, hfirst, -, hrest⟩ := withTextKeys_cons g first entries
    rw [hrest]
    rcases List.mem_cons.1 hentry with rfl | hmem
    · intro hwhole
      rw [← (merges_withTextKeys g' entries).tag_eq (by rw [hwhole]; nofun)] at hwhole
      exact hfirst hwhole
    · exact ih g' hmem

theorem content_withTextKeys (g : NodeGraph) (entries : List (NodeId × NodeId)) (n : NodeId) :
    (g.withTextKeys entries).content n = g.content n := by
  induction entries generalizing g with
  | nil => rfl
  | cons entry entries ih =>
    obtain ⟨g', -, -, hcontent, hrest⟩ := withTextKeys_cons g entry entries
    rw [hrest, ih, hcontent]

/-- A mapping gets entries none of which merges another one, and its keys are texts then. -/
theorem merges_setEntries_withTextKeys (hn : g.IsMapping n) (h : g.IsFlat entries) :
    g.Merges ((g.setEntries n entries).withTextKeys entries) := by
  have hkeys := merges_withTextKeys (g.setEntries n entries) entries
  refine ⟨fun m => ?_, fun m => ?_, fun m => (hkeys.merging m).trans ?_, fun m => ?_⟩
  · have hsame : (g.setEntries n entries).tag m = g.tag m := tag_setEntries hn m
    exact hsame ▸ hkeys.tag m
  · rw [content_withTextKeys, content_setEntries hn]
    split
    · next hm =>
      subst hm
      refine .inr ⟨hn, entries, ?_⟩
      rw [content_withTextKeys, content_setEntries hn, if_pos rfl]
    · exact .inl rfl
  · rw [entriesOf_setEntries hn]
    split
    · have hnone : (entries.filter fun entry => g.tag entry.1 = .merge) = [] := by
        simpa [List.filter_eq_nil_iff, IsFlat] using h
      rw [hnone]
      exact List.nil_sublist _
    · exact .refl _
  · by_cases hm : m = n
    · subst hm
      have hnone : ((g.setEntries m entries).withTextKeys entries).entriesOf .wholeValue m =
          [] := by
        rw [entriesOf, List.filter_eq_nil_iff, NodeGraph.entries, content_withTextKeys,
          content_setEntries hn, if_pos rfl]
        exact fun entry hentry hwhole =>
          tag_withTextKeys_ne _ hentry (of_decide_eq_true hwhole)
      rw [hnone]
      exact List.nil_sublist _
    · have hsame : (g.setEntries n entries).entriesOf .wholeValue m =
        g.entriesOf .wholeValue m := by
        rw [entriesOf_setEntries hn, if_neg hm]
      exact hsame ▸ hkeys.whole m

/-! ### Merge keys -/

theorem isFlat_of_takeMerge? (h : g.takeMerge? entries = none) : g.IsFlat entries := by
  induction entries with
  | nil => nofun
  | cons entry entries ih =>
    rw [takeMerge?] at h
    split at h
    · cases h
    · next hkey =>
      exact List.forall_mem_cons.2 ⟨hkey, ih (Option.map_eq_none_iff.1 h)⟩

/-- The entry of the first merge key is taken out. -/
theorem takeMerge?_eq_some {source : NodeId} {others : List (NodeId × NodeId)}
    (h : g.takeMerge? entries = some (source, others)) :
    ∃ front key back, entries = front ++ (key, source) :: back ∧ g.tag key = .merge ∧
      others = front ++ back := by
  induction entries generalizing others with
  | nil => cases h
  | cons entry entries ih =>
    obtain ⟨key, value⟩ := entry
    rw [takeMerge?] at h
    split at h
    · next hkey =>
      cases h
      exact ⟨[], key, entries, rfl, hkey, rfl⟩
    · obtain ⟨⟨found, rest⟩, hfound, heq⟩ := Option.map_eq_some_iff.1 h
      cases heq
      obtain ⟨front, first, back, rfl, hfirst, rfl⟩ := ih hfound
      exact ⟨(key, value) :: front, first, back, rfl, hfirst, rfl⟩

/-- A mapping out of which a merge key is taken merges what is under that key, and has one merge key
less behind. -/
theorem merges_of_takeMerge? {source : NodeId} {others : List (NodeId × NodeId)}
    (hn : g.IsMapping n) (h : g.takeMerge? (g.entries n) = some (source, others)) :
    g.Merges (g.setEntries n others) ∧ (∃ key, (key, source) ∈ g.entriesOf .merge n) ∧
      ((g.setEntries n others).entriesOf .merge n).length < (g.entriesOf .merge n).length := by
  obtain ⟨front, key, back, hentries, hkey, rfl⟩ := takeMerge?_eq_some h
  refine ⟨merges_setEntries_of_sublist hn ?_, ⟨key, mem_entriesOf.2 ⟨?_, hkey⟩⟩, ?_⟩
  · rw [hentries]
    exact (List.Sublist.refl front).append (List.sublist_cons_self _ _)
  · rw [hentries]
    exact List.mem_append_right _ List.mem_cons_self
  · rw [entriesOf_setEntries hn, if_pos rfl, entriesOf, hentries]
    simp only [List.filter_append, List.length_append, List.filter_cons, hkey, decide_true,
      if_true, List.length_cons]
    omega

end NodeGraph

/-! ## Merging -/

/-- A fault that is a broken rule. -/
def IsSyntaxFault (fault : Fault) : Prop := ∃ reason, fault = .syntaxFault reason

namespace Change
open NodeGraph
variable {g : NodeGraph} {n : NodeId} {deep : Prop}

/-- A broken rule, or a reader that would have to go too deep. -/
def Halts (deep : Prop) (fault : Fault) : Prop := IsSyntaxFault fault ∨ fault = .tooDeep ∧ deep

/-- What is merged leaves a graph that comes from another one by merging so, and merges nothing
itself. -/
abbrev Yields (g : NodeGraph) (m : Change (List (NodeId × NodeId))) (deep : Prop) : Prop :=
  Ends g.Merges m (fun entries g' => g.Merges g' ∧ g.IsFlat entries) (Halts deep)

/-- What is merged from a part is read if the part is a mapping. -/
theorem yields_mappingPart {merged : NodeId → Change (List (NodeId × NodeId))} {m : NodeId}
    (hmerged : g.IsMapping m → Yields g (merged m) deep) (place : NodeGraph) (what : Expectation) :
    Yields g (do
      match (← get).content m with
      | .mapping _ => merged m
      | content =>
        let breach := .expected what content.form
        throw (.syntaxFault (.broken breach (place.start m) (some (.mapping,
          some (place.start n))))))
      deep := by
  refine ends_get.bind fun current => .of_each ?_
  rintro _ ⟨rfl, hcurrent⟩
  split
  · next entries hm =>
    refine (hmerged (hcurrent.isMapping_iff.1 ⟨entries, hm⟩)).pre ?_
    rintro _ rfl
    exact hcurrent
  · exact ends_throw fun _ _ => .inl ⟨_, rfl⟩

/-- As many merge keys are taken out of a mapping as it has. -/
theorem ends_takenOver {merged : NodeId → Change (List (NodeId × NodeId))} (hn : g.IsMapping n)
    (hmerged : ∀ g', g.Merges g' → ∀ m, g.MergedInto m n → g'.IsMapping m →
      Yields g' (merged m) deep) (keys : Nat) :
    Ends (fun g' => g.Merges g' ∧ (g'.entriesOf .merge n).length ≤ keys) (takenOver merged n keys)
      (fun front g' => g.Merges g' ∧ g.IsFlat front ∧ g'.entriesOf .merge n = []) (Halts deep) := by
  induction keys with
  | zero =>
    exact ends_pure fun _ h => ⟨h.1, nofun, List.length_eq_zero_iff.1 (Nat.le_zero.1 h.2)⟩
  | succ keys ih =>
    rw [takenOver]
    refine ends_get.bind fun current => .of_each ?_
    rintro _ ⟨rfl, hcurrent, hlength⟩
    split
    · next hnone =>
      refine ends_pure ?_
      rintro _ rfl
      exact ⟨hcurrent, nofun, isFlat_entries_iff.1 (isFlat_of_takeMerge? hnone)⟩
    · next source others hsome =>
      obtain ⟨hopen, ⟨key, hmem⟩, hless⟩ := merges_of_takeMerge? (hcurrent.isMapping_iff.2 hn) hsome
      have hleft : ((current.setEntries n others).entriesOf .merge n).length ≤ keys := by omega
      have hpart (what : Expectation) (m : NodeId) (hm : current.MergedInto m n) :=
        yields_mappingPart (n := n)
          (hmerged _ (hcurrent.trans hopen) m (hcurrent.mergedInto hm)) current what
      -- What is merged leaves no more merge keys here, so the others are taken out with less fuel.
      have hrest (taken : List (NodeId × NodeId)) (htaken : g.IsFlat taken) :
          Ends (current.setEntries n others).Merges
            (do return taken ++ (← takenOver merged n keys))
            (fun front g' => g.Merges g' ∧ g.IsFlat front ∧ g'.entriesOf .merge n = [])
            (Halts deep) := by
        refine (ih.pre fun g' hg' => ?_).bind fun more => ends_pure fun g' hg' => ?_
        · exact ⟨(hcurrent.trans hopen).trans hg', Nat.le_trans (hg'.merging n).length_le hleft⟩
        · exact ⟨hg'.1, List.forall_mem_append.2 ⟨htaken, hg'.2.1⟩, hg'.2.2⟩
      have htaken {part : Change (List (NodeId × NodeId))}
          (h : Yields (current.setEntries n others) part deep) :
          Ends (current.setEntries n others).Merges
            (do return (← part) ++ (← takenOver merged n keys))
            (fun front g' => g.Merges g' ∧ g.IsFlat front ∧ g'.entriesOf .merge n = [])
            (Halts deep) := by
        refine h.bind fun taken => .of_each fun g' hg' => ?_
        refine (hrest taken ((hcurrent.trans hopen).isFlat_iff.1 hg'.2)).pre ?_
        rintro _ rfl
        exact hg'.1
      have hset : Ends (· = current) (set (current.setEntries n others) : Change PUnit)
          (fun _ => (current.setEntries n others).Merges) (Halts deep) :=
        ends_set fun _ _ => .refl _
      refine hset.bind fun _ => ?_
      dsimp only
      split
      · next items hitems =>
        refine htaken (Ends.map
          (ends_mapM (R := (current.setEntries n others).IsFlat) fun m hm => ?_)
          fun lists g' hg' => ⟨hg'.1, ?_⟩)
        · exact hpart .mergedMapping m ⟨_, hmem, .inr ⟨items, hitems, hm⟩⟩
        · intro entry hentry
          obtain ⟨list, hlist, hentry⟩ := List.mem_flatten.1 hentry
          exact hg'.2 list (List.mem_reverse.1 hlist) entry hentry
      · exact htaken (hpart .mergedMappings source ⟨_, hmem, .inl rfl⟩)

/-- Merging breaks a rule, or it leads down further than a reader goes. -/
theorem yields_mergedEntries (depth : Nat) (g : NodeGraph) (n : NodeId) (hn : g.IsMapping n) :
    Yields g (mergedEntries depth n) (LeadsDown g.MergedInto depth n) := by
  induction depth generalizing g n with
  | zero => exact ends_throw fun _ _ => .inr ⟨rfl, trivial⟩
  | succ depth ih =>
    have hmerged : ∀ g', g.Merges g' → ∀ m, g.MergedInto m n → g'.IsMapping m →
        Yields g' (mergedEntries depth m) (LeadsDown g.MergedInto (depth + 1) n) := by
      intro g' hg' m hm hmapping s hs
      refine (ih g' m hmapping s hs).imp_fault fun fault hfault => hfault.imp_right ?_
      exact fun ⟨hdeep, hdown⟩ => ⟨hdeep, m, hm, hdown.imp fun _ _ => hg'.mergedInto⟩
    rw [mergedEntries]
    refine ends_get.bind fun current => .of_each ?_
    rintro _ ⟨rfl, hcurrent⟩
    refine ((ends_takenOver hn hmerged _).pre ?_).bind fun front => ends_get.bind fun left =>
      .of_each ?_
    · rintro _ rfl
      exact ⟨hcurrent, List.length_filter_le _ _⟩
    rintro _ ⟨rfl, hleft, hfront, hown⟩
    have hflat : left.IsFlat (front ++ left.entries n) :=
      List.forall_mem_append.2 ⟨hleft.isFlat_iff.2 hfront, isFlat_entries_iff.2 hown⟩
    have hjoined : left.Merges ((if front.isEmpty then left
        else left.setEntries n (front ++ left.entries n)).withTextKeys
          (front ++ left.entries n)) := by
      split
      · exact merges_withTextKeys _ _
      · exact merges_setEntries_withTextKeys (hleft.isMapping_iff.2 hn) hflat
    exact (ends_set fun _ _ => hleft.trans hjoined).bind fun _ =>
      ends_pure fun _ hg => ⟨hg, hleft.isFlat_iff.1 hflat⟩

end Change

end MarkupNaming.Yaml
