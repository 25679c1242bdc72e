import MarkupNaming.Proofs.Yaml.Denotation
import MarkupNaming.Yaml.Reading

/-!
# Values from nodes

The value of a document is the one that its root denotes. What has been read of a graph is
described by the nodes that have been met: each of them either has its meaning, and then its parts
have been met as well, or it is a collection that is still to be read.
-/
namespace MarkupNaming.Yaml

namespace NodeGraph
variable {g : NodeGraph} {n : NodeId} {t : Text} {depth : Nat} {v : Value}

/-- The nodes whose values are parts of the value of a node. -/
def parts (g : NodeGraph) (n : NodeId) : List NodeId :=
  match g.content n with
  | .scalar _ => []
  | .sequence items => items
  | .mapping entries => entries.map (·.2)

/-- The text of a key. -/
def keyText (g : NodeGraph) (n : NodeId) : Text :=
  match g.content n with
  | .scalar t => t
  | _ => []

/-- What a node means whose keys are texts and whose scalars denote values. -/
def meaning (g : NodeGraph) (n : NodeId) : Meaning :=
  match g.content n with
  | .scalar t =>
    match scalarValue (g.tag n) t with
    | .ok v => .scalar v
    | .error _ => .noted
  | .sequence items => .list items
  | .mapping entries => .map (entries.map fun (key, value) => (.text (g.keyText key), value))

/-- A node of a list or a mapping. -/
def IsCollection (g : NodeGraph) (n : NodeId) : Prop := g.tag n = .sequence ∨ g.tag n = .mapping

theorem meaning_scalar (hcontent : g.content n = .scalar t)
    (hvalue : scalarValue (g.tag n) t = .ok v) : g.meaning n = .scalar v := by
  rw [meaning, hcontent]
  simp only [hvalue]

theorem IsText.meaning (h : g.IsText n t) : g.meaning n = .scalar (.text t) :=
  meaning_scalar h.content (by rw [h.tag]; rfl)

theorem IsText.denotes (h : g.IsText n t) : g.Denotes depth n (.text t) :=
  .scalar h.lt_size (by rw [h.tag]; rfl) h.content (by rw [h.tag]; rfl)

theorem meaning_mapping {entries : List Entry}
    (hcontent : g.content n = .mapping (entries.map fun e => (e.key, e.node)))
    (hkeys : ∀ e ∈ entries, g.IsText e.key e.name) :
    g.meaning n = .map (entries.map fun e => (.text e.name, e.node)) := by
  rw [meaning, hcontent]
  simp only [List.map_map, Meaning.map.injEq]
  refine List.map_congr_left fun e he => ?_
  simp [keyText, (hkeys e he).content]

/-! ## Mappings that merge nothing -/

theorem takeMerge?_eq_none {entries : List (NodeId × NodeId)}
    (h : ∀ e ∈ entries, g.tag e.1 ≠ .merge) : g.takeMerge? entries = none := by
  induction entries with
  | nil => rfl
  | cons e entries ih =>
    obtain ⟨he, hrest⟩ := List.forall_mem_cons.1 h
    rw [takeMerge?, if_neg he, ih hrest]
    rfl

theorem withTextKeys_eq_self {entries : List (NodeId × NodeId)}
    (h : ∀ e ∈ entries, g.tag e.1 ≠ .wholeValue) : g.withTextKeys entries = g := by
  induction entries with
  | nil => rfl
  | cons e entries ih =>
    obtain ⟨key, value⟩ := e
    obtain ⟨hkey, hrest⟩ := List.forall_mem_cons.1 h
    have hsame : (if g.tag key = .wholeValue then g.setTag key .text else g) = g := if_neg hkey
    rw [withTextKeys, List.foldl_cons]
    simp only [hsame]
    exact ih hrest

theorem run_takenOver (h : g.takeMerge? (g.entries n) = none)
    (merged : NodeId → Change (List (NodeId × NodeId))) (keys : Nat) :
    (Change.takenOver merged n keys).run g = .ok ([], g) := by
  cases keys with
  | zero => rfl
  | succ keys =>
    rw [Change.takenOver]
    simp only [StateT.run_bind, StateT.run_get, pure_bind, h]
    rfl

/-- A mapping whose keys are texts has its own entries only, and nothing changes. -/
theorem run_mergedEntries (h : ∀ e ∈ g.entries n, g.tag e.1 = .text) {merging : Nat}
    (hmerging : 1 ≤ merging) : (Change.mergedEntries merging n).run g = .ok (g.entries n, g) := by
  obtain ⟨merging, rfl⟩ : ∃ m, merging = m + 1 := ⟨merging - 1, by omega⟩
  have hmerge : g.takeMerge? (g.entries n) = none :=
    takeMerge?_eq_none fun e he => by simp [h e he]
  have hwhole : g.withTextKeys (g.entries n) = g :=
    withTextKeys_eq_self fun e he => by simp [h e he]
  rw [Change.mergedEntries]
  simp only [StateT.run_bind, StateT.run_get, pure_bind, run_takenOver hmerge]
  exact congrArg (fun g' => Except.ok (g.entries n, g')) hwhole

end NodeGraph

namespace Read
variable {α β : Type} {m : Read α} {f : α → Read β} {P : Readings → Prop} {Q : α → Readings → Prop}
  {R : β → Readings → Prop}

/-- A step of reading comes to a result, and takes what holds before to what holds behind it. -/
def Leads (P : Readings → Prop) (m : Read α) (Q : α → Readings → Prop) : Prop :=
  ∀ r, P r → ∃ a s, m.run r = .ok (a, s) ∧ Q a s

theorem Leads.bind (hm : Leads P m Q) (hf : ∀ a, Leads (Q a) (f a) R) : Leads P (m >>= f) R := by
  intro r hr
  obtain ⟨a, s, hrun, hs⟩ := hm r hr
  obtain ⟨b, s', hrun', hs'⟩ := hf a s hs
  exact ⟨b, s', (run_bind_of_ok hrun).trans hrun', hs'⟩

/-- A step whose result is known, in front of another one. -/
theorem Leads.bind_eq {a : α} {P' : Readings → Prop} (hm : Leads P m fun b r => b = a ∧ P' r)
    (hf : Leads P' (f a) R) : Leads P (m >>= f) R := by
  intro r hr
  obtain ⟨_, s, hrun, rfl, hs⟩ := hm r hr
  obtain ⟨b, s', hrun', hs'⟩ := hf s hs
  exact ⟨b, s', (run_bind_of_ok hrun).trans hrun', hs'⟩

theorem leads_pure {a : α} (h : ∀ r, P r → Q a r) : Leads P (pure a) Q := fun r hr =>
  ⟨a, r, rfl, h r hr⟩

/-! ## Meeting nodes -/

section Meeting
variable {g : NodeGraph} {n least : NodeId} {r : Readings} {t : Text} {v : Value} {depth : Nat}
  {pending met : List NodeId}

theorem run_record (n : NodeId) (x : Meaning) (r : Readings) :
    (record n x).run r = .ok ((), { r with meanings := r.meanings.setIfInBounds n (some x) }) := rfl

theorem scalarOf_eq (htag : (g.tag n).isSimple = true) (hcontent : g.content n = .scalar t)
    (hvalue : scalarValue (g.tag n) t = .ok v) {following : Nat} (hfollowing : 1 ≤ following) :
    scalarOf following g n = .ok v := by
  obtain ⟨following, rfl⟩ : ∃ m, following = m + 1 := ⟨following - 1, by omega⟩
  have htext : scalarText g n (following + 1) = .ok t := by
    rw [scalarText, hcontent]
  rw [scalarOf, htext]
  simp only [Bind.bind, Except.bind, hcontent]
  split
  · next heq => cases heq
  · next htag' =>
    rw [htag'] at htag
    cases htag
  · rw [hvalue]
    rfl

theorem exists_run_meet_of_met {x : Meaning} (h : r.meanings.getD n none = some x) :
    ∃ o, (meet n).run r = .ok (o, r) ∧ ∀ v, x = .scalar v → o = some v := by
  cases x with
  | scalar v =>
    refine ⟨some v, ?_, fun w hw => by rw [Meaning.scalar.inj hw]⟩
    simp only [meet, StateT.run_bind, StateT.run_get, pure_bind, h]
    rfl
  | _ =>
    refine ⟨none, ?_, nofun⟩
    simp only [meet, StateT.run_bind, StateT.run_get, pure_bind, h]
    rfl

theorem run_meet_collection (h : r.meanings.getD n none = none) (hn : r.graph.IsCollection n) :
    (meet n).run r = .ok (none,
      { r with meanings := r.meanings.setIfInBounds n (some .noted), noted := n :: r.noted }) := by
  simp only [meet, StateT.run_bind, StateT.run_get, pure_bind, h]
  rcases hn with htag | htag
  · rw [htag]
    rfl
  · rw [htag]
    rfl

theorem run_meet_scalar (h : r.meanings.getD n none = none)
    (htag : (r.graph.tag n).isSimple = true)
    (hvalue : scalarOf r.room.following r.graph n = .ok v) :
    (meet n).run r = .ok (some v,
      { r with meanings := r.meanings.setIfInBounds n (some (.scalar v)) }) := by
  simp only [meet, StateT.run_bind, StateT.run_get, pure_bind, h]
  cases hkind : r.graph.tag n with
  | null | truth | integer | real | timestamp | text =>
    simp only [hvalue]
    rfl
  | _ =>
    rw [hkind] at htag
    cases htag

/-- What is known while a graph is read, all of whose nodes in question denote values: a node that
has been met either has its meaning, and then its parts have been met as well, or it is a
collection that is `pending` or has been noted. -/
structure Knows (g : NodeGraph) (least : NodeId) (pending met : List NodeId) (r : Readings) :
    Prop where
  graph : r.graph = g
  size : r.meanings.size = g.size
  meanings : ∀ n x, r.meanings.getD n none = some x →
    (x = g.meaning n ∧ ∀ part ∈ g.parts n, r.meanings.getD part none ≠ none) ∨
      (x = .noted ∧ g.IsCollection n ∧ (n ∈ r.noted ∨ n ∈ pending))
  noted : ∀ n ∈ r.noted, least ≤ n ∧ g.IsCollection n ∧ ∃ depth v, g.Denotes depth n v
  met : ∀ n ∈ met, r.meanings.getD n none ≠ none

theorem getD_set {meanings : Array (Option Meaning)} (hn : n < meanings.size) (x : Meaning)
    (k : NodeId) : (meanings.setIfInBounds n (some x)).getD k none =
      if k = n then some x else meanings.getD k none := by
  by_cases hk : k = n
  · subst hk
    simp [hn]
  · simp [Ne.symm hk, hk]

theorem getD_set_ne_none {meanings : Array (Option Meaning)} (hn : n < meanings.size) (x : Meaning)
    {k : NodeId} (h : k = n ∨ meanings.getD k none ≠ none) :
    (meanings.setIfInBounds n (some x)).getD k none ≠ none := by
  rw [getD_set hn]
  split
  · simp
  · next hk => exact h.resolve_left hk

/-- A node gets its meaning, whose parts have been met. -/
theorem Knows.record (hr : Knows g least (n :: pending) met r) (hn : n < g.size)
    (hparts : ∀ part ∈ g.parts n, part ∈ met) : Knows g least pending (n :: met)
      { r with meanings := r.meanings.setIfInBounds n (some (g.meaning n)) } := by
  have hset := hr.size ▸ hn
  refine ⟨hr.graph, by simpa using hr.size, fun k x hk => ?_, hr.noted,
    List.forall_mem_cons.2 ⟨getD_set_ne_none hset _ (.inl rfl), fun k hk =>
      getD_set_ne_none hset _ (.inr (hr.met k hk))⟩⟩
  simp only [getD_set hset] at hk
  split at hk
  · next heq =>
    subst heq
    exact .inl ⟨(Option.some.inj hk).symm, fun part hpart =>
      getD_set_ne_none hset _ (.inr (hr.met part (hparts part hpart)))⟩
  · next hne =>
    rcases hr.meanings k x hk with ⟨hx, hmet⟩ | ⟨hx, hcollection, hpending⟩
    · exact .inl ⟨hx, fun part hpart => getD_set_ne_none hset _ (.inr (hmet part hpart))⟩
    · refine .inr ⟨hx, hcollection, hpending.imp_right fun h => ?_⟩
      exact (List.mem_cons.1 h).resolve_left hne

/-- A collection is noted. -/
theorem Knows.note (hr : Knows g least pending met r) (hn : g.Denotes depth n v) (hle : least ≤ n)
    (hcollection : g.IsCollection n) : Knows g least pending (n :: met)
      { r with meanings := r.meanings.setIfInBounds n (some .noted), noted := n :: r.noted } := by
  have hset := hr.size ▸ hn.lt_size
  refine ⟨hr.graph, by simpa using hr.size, fun k x hk => ?_,
    List.forall_mem_cons.2 ⟨⟨hle, hcollection, _, _, hn⟩, hr.noted⟩,
    List.forall_mem_cons.2 ⟨getD_set_ne_none hset _ (.inl rfl), fun k hk =>
      getD_set_ne_none hset _ (.inr (hr.met k hk))⟩⟩
  simp only [getD_set hset] at hk
  split at hk
  · next heq =>
    subst heq
    exact .inr ⟨(Option.some.inj hk).symm, hcollection, .inl List.mem_cons_self⟩
  · next hne =>
    rcases hr.meanings k x hk with ⟨hx, hmet⟩ | ⟨hx, hcollection, hpending⟩
    · exact .inl ⟨hx, fun part hpart => getD_set_ne_none hset _ (.inr (hmet part hpart))⟩
    · exact .inr ⟨hx, hcollection, hpending.imp_left (List.mem_cons_of_mem _)⟩

theorem Knows.meet (hr : Knows g least pending met r) (h : r.meanings.getD n none ≠ none) :
    Knows g least pending (n :: met) r :=
  { hr with met := List.forall_mem_cons.2 ⟨h, hr.met⟩ }

theorem Knows.pend (hr : Knows g least pending met r) : Knows g least (n :: pending) met r :=
  { hr with meanings := fun k x hk => (hr.meanings k x hk).imp_right fun h =>
      ⟨h.1, h.2.1, h.2.2.imp_right (List.mem_cons_of_mem _)⟩ }

theorem not_isCollection_of_isSimple (h : (g.tag n).isSimple = true) : ¬g.IsCollection n := by
  rintro (htag | htag)
  · rw [htag] at h
    cases h
  · rw [htag] at h
    cases h

/-- A node is met. If it is a text, the result is that text. -/
theorem leads_meet (hn : g.Denotes depth n v) (hle : least ≤ n) :
    Leads (Knows g least pending met) (meet n) fun o r =>
      Knows g least pending (n :: met) r ∧ ∀ t, g.IsText n t → o = some (.text t) := by
  intro r hr
  obtain rfl := hr.graph
  cases hmet : r.meanings.getD n none with
  | some x =>
    obtain ⟨o, hrun, ho⟩ := exists_run_meet_of_met hmet
    refine ⟨o, r, hrun, hr.meet (by simp [hmet]), fun t ht => ho _ ?_⟩
    rcases hr.meanings n x hmet with ⟨rfl, -⟩ | ⟨-, hcollection, -⟩
    · exact ht.meaning
    · exact absurd hcollection (not_isCollection_of_isSimple (by rw [ht.tag]; rfl))
  | none =>
    cases hn with
    | scalar hlt htag hcontent hvalue =>
      have hmeaning := NodeGraph.meaning_scalar hcontent hvalue
      have hscalar := scalarOf_eq htag hcontent hvalue r.room.enough.2.2
      refine ⟨_, _, run_meet_scalar hmet htag hscalar, ?_,
        fun t ht => ?_⟩
      · rw [← hmeaning]
        exact hr.pend.record hlt (by simp [NodeGraph.parts, hcontent])
      · have := hmeaning.symm.trans ht.meaning
        rw [Meaning.scalar.inj this]
    | list hlt htag hcontent hbehind hitems =>
      have hcollection : r.graph.IsCollection n := .inl htag
      refine ⟨_, _, run_meet_collection hmet hcollection,
        hr.note (.list hlt htag hcontent hbehind hitems) hle hcollection, fun t ht => ?_⟩
      exact absurd hcollection (not_isCollection_of_isSimple (by rw [ht.tag]; rfl))
    | map hlt htag hcontent hbehind hkeys hnodup hentries =>
      have hcollection : r.graph.IsCollection n := .inr htag
      refine ⟨_, _, run_meet_collection hmet hcollection,
        hr.note (.map hlt htag hcontent hbehind hkeys hnodup hentries) hle hcollection,
        fun t ht => ?_⟩
      exact absurd hcollection (not_isCollection_of_isSimple (by rw [ht.tag]; rfl))

/-! ## Collections -/

theorem run_change {γ : Type} {c : Change γ} {a : γ} (h : c.run r.graph = .ok (a, r.graph)) :
    (change c).run r = .ok (a, r) := by
  simp only [change, StateT.run_bind, StateT.run_get, pure_bind, h]
  rfl

theorem leads_meet_text (hn : g.IsText n t) (hle : least ≤ n) :
    Leads (Knows g least pending met) (meet n) fun o r =>
      o = some (.text t) ∧ Knows g least pending met r := by
  have hdenotes : g.Denotes 0 n (.text t) := hn.denotes
  intro r hr
  obtain ⟨o, s, hrun, hs, ho⟩ := leads_meet hdenotes hle r hr
  exact ⟨o, s, hrun, ho t hn, { hs with met := (List.forall_mem_cons.1 hs.met).2 }⟩

theorem leads_discard_meet (hn : g.Denotes depth n v) (hle : least ≤ n) :
    Leads (Knows g least pending met) (discard (meet n)) fun _ r =>
      Knows g least pending (n :: met) r := by
  have hdiscard : (discard (meet n) : Read PUnit) = meet n >>= fun _ => pure () := rfl
  rw [hdiscard]
  exact (leads_meet hn hle).bind fun _ => leads_pure fun _ hr => hr.1

theorem leads_items {items : List NodeId}
    (hitems : ∀ item ∈ items, least ≤ item ∧ ∃ depth v, g.Denotes depth item v) :
    Leads (Knows g least pending met) (items.forM fun item => discard (meet item)) fun _ r =>
      Knows g least pending (items.reverse ++ met) r := by
  induction items generalizing met with
  | nil => exact leads_pure fun _ hr => hr
  | cons item items ih =>
    obtain ⟨⟨hle, depth, v, hitem⟩, hrest⟩ := List.forall_mem_cons.1 hitems
    rw [List.reverse_cons, List.append_assoc]
    exact (leads_discard_meet hitem hle).bind fun _ => ih hrest

theorem leads_entry {e : NodeGraph.Entry} {made : List (Value × NodeId)}
    (refused : Read (List (Value × NodeId))) (hkey : g.IsText e.key e.name)
    (hlekey : least ≤ e.key) (hvalue : g.Denotes depth e.node e.value) (hle : least ≤ e.node)
    (hnew : ∀ entry ∈ made, entry.1.sameKey (.text e.name) = false) :
    Leads (Knows g least pending met)
      (do
        match ← meet e.key with
        | none => refused
        | some k =>
          discard <| meet e.node
          return Value.setEntry made k e.node)
      fun result r => result = made ++ [(.text e.name, e.node)] ∧
        Knows g least pending (e.node :: met) r := by
  have hset : Value.setEntry made (.text e.name) e.node = made ++ [(.text e.name, e.node)] := by
    rw [Value.setEntry, if_neg]
    simpa using hnew
  refine .bind_eq (leads_meet_text hkey hlekey) ((leads_discard_meet hvalue hle).bind fun _ => ?_)
  exact leads_pure fun _ hr => ⟨hset, hr⟩

/-- The entries of a mapping whose keys are texts, each of which stands there once. -/
theorem leads_entries {entries : List NodeGraph.Entry} (made : List (Value × NodeId))
    (refused : NodeId → Read (List (Value × NodeId)))
    (hkeys : ∀ e ∈ entries, least ≤ e.key ∧ g.IsText e.key e.name)
    (hvalues : ∀ e ∈ entries, least ≤ e.node ∧ g.Denotes depth e.node e.value)
    (hnodup : (entries.map (·.name)).Nodup)
    (hnew : ∀ e ∈ entries, ∀ entry ∈ made, entry.1.sameKey (.text e.name) = false) :
    Leads (Knows g least pending met)
      ((entries.map fun e => (e.key, e.node)).foldlM (fun made (key, value) => do
        match ← meet key with
        | none => refused key
        | some k =>
          discard <| meet value
          return Value.setEntry made k value) made)
      fun result r => result = made ++ entries.map (fun e => (.text e.name, e.node)) ∧
        Knows g least pending ((entries.map (·.node)).reverse ++ met) r := by
  induction entries generalizing made met with
  | nil => exact leads_pure fun _ hr => ⟨(List.append_nil _).symm, hr⟩
  | cons e entries ih =>
    obtain ⟨⟨hlekey, hkey⟩, hkeys⟩ := List.forall_mem_cons.1 hkeys
    obtain ⟨⟨hle, hvalue⟩, hvalues⟩ := List.forall_mem_cons.1 hvalues
    obtain ⟨hfresh, hnodup⟩ := List.nodup_cons.1 hnodup
    obtain ⟨hnewname, hnew⟩ := List.forall_mem_cons.1 hnew
    have hnew' : ∀ e' ∈ entries, ∀ entry ∈ made ++ [(.text e.name, e.node)],
        entry.1.sameKey (.text e'.name) = false := by
      intro e' he' entry hentry
      rcases List.mem_append.1 hentry with hentry | hentry
      · exact hnew e' he' entry hentry
      · obtain rfl := List.mem_singleton.1 hentry
        refine beq_eq_false_iff_ne.2 fun heq => hfresh ?_
        exact List.mem_map.2 ⟨e', he', heq.symm⟩
    rw [List.map_cons, List.foldlM_cons, List.map_cons, List.map_cons, List.reverse_cons,
      List.append_assoc, List.append_cons made]
    exact (leads_entry (refused e.key) hkey hlekey hvalue hle hnewname).bind_eq
      (ih _ hkeys hvalues hnodup hnew')

theorem leads_mapEntries {entries : List NodeGraph.Entry}
    (hcontent : g.content n = .mapping (entries.map fun e => (e.key, e.node)))
    (hkeys : ∀ e ∈ entries, least ≤ e.key ∧ g.IsText e.key e.name)
    (hvalues : ∀ e ∈ entries, least ≤ e.node ∧ g.Denotes depth e.node e.value)
    (hnodup : (entries.map (·.name)).Nodup) :
    Leads (Knows g least pending met) (mapEntries n) fun result r =>
      result = entries.map (fun e => (.text e.name, e.node)) ∧
        Knows g least pending ((entries.map (·.node)).reverse ++ met) r := by
  intro r hr
  obtain rfl := hr.graph
  have hentries : r.graph.entries n = entries.map fun e => (e.key, e.node) := by
    rw [NodeGraph.entries, hcontent]
  have htexts : ∀ e ∈ r.graph.entries n, r.graph.tag e.1 = .text := by
    rw [hentries]
    intro pair hpair
    obtain ⟨e, he, rfl⟩ := List.mem_map.1 hpair
    exact (hkeys e he).2.tag
  have hmerged : (change (Change.mergedEntries r.room.merging n)).run r =
      .ok (entries.map fun e => (e.key, e.node), r) := by
    rw [← hentries]
    exact run_change (NodeGraph.run_mergedEntries htexts r.room.enough.2.1)
  obtain ⟨made, s, hrun, hs⟩ := leads_entries [] (fun key => fail key .noKey (some (.mapping, n)))
    hkeys hvalues hnodup (by simp) r hr
  refine ⟨made, s, ?_, hs⟩
  simp only [mapEntries, StateT.run_bind, StateT.run_get, pure_bind, hcontent, hmerged]
  exact hrun

theorem leads_collectionOf (hn : g.Denotes depth n v) (hcollection : g.IsCollection n)
    (hle : least ≤ n + 1) : Leads (Knows g least pending met) (collectionOf n) fun x r =>
      x = g.meaning n ∧ Knows g least pending ((g.parts n).reverse ++ met) r := by
  intro r hr
  obtain rfl := hr.graph
  cases hn with
  | scalar hlt htag => exact absurd hcollection (not_isCollection_of_isSimple htag)
  | list hlt htag hcontent hbehind hitems =>
    have hparts : ∀ part ∈ r.graph.parts n, least ≤ part ∧
        ∃ depth v, r.graph.Denotes depth part v := by
      rw [NodeGraph.parts, hcontent]
      intro part hpart
      obtain ⟨item, hitem, rfl⟩ := List.mem_map.1 hpart
      exact ⟨Nat.le_trans hle (hbehind item hitem), _, _, hitems item hitem⟩
    obtain ⟨_, s, hrun, hs⟩ := leads_items hparts r hr
    refine ⟨_, s, ?_, rfl, hs⟩
    rw [NodeGraph.parts, hcontent] at hrun
    simp only [collectionOf, StateT.run_bind, StateT.run_get, pure_bind, htag, hcontent, hrun,
      NodeGraph.meaning]
    rfl
  | map hlt htag hcontent hbehind hkeys hnodup hentries =>
    obtain ⟨_, s, hrun, rfl, hs⟩ := leads_mapEntries hcontent
      (fun e he => ⟨Nat.le_trans hle (hbehind e he).1, hkeys e he⟩)
      (fun e he => ⟨Nat.le_trans hle (hbehind e he).2, hentries e he⟩) hnodup r hr
    refine ⟨_, s, ?_, (NodeGraph.meaning_mapping hcontent hkeys).symm, ?_⟩
    · simp only [collectionOf, StateT.run_bind, StateT.run_get, pure_bind, htag, StateT.run_map,
        hrun]
      rfl
    · simpa [NodeGraph.parts, hcontent, Function.comp_def] using hs

/-! ## Rounds -/

/-- The collections that have been noted get their meanings. -/
theorem leads_batch {batch : List NodeId}
    (hbatch : ∀ n ∈ batch, least ≤ n + 1 ∧ g.IsCollection n ∧ ∃ depth v, g.Denotes depth n v) :
    Leads (Knows g least batch met) (batch.forM fun n => do record n (← collectionOf n)) fun _ =>
      Knows g least [] met := by
  induction batch with
  | nil => exact leads_pure fun _ hr => hr
  | cons n batch ih =>
    obtain ⟨⟨hle, hcollection, depth, v, hn⟩, hbatch⟩ := List.forall_mem_cons.1 hbatch
    have hrecord : Leads (Knows g least (n :: batch) met) (do record n (← collectionOf n)) fun _ =>
        Knows g least batch met := by
      refine (leads_collectionOf hn hcollection hle).bind_eq fun r hr => ?_
      refine ⟨(), _, run_record .., ?_⟩
      have hknown := hr.record hn.lt_size fun part hpart => by simp [hpart]
      exact { hknown with met := fun k hk => hknown.met k (by simp [hk]) }
    exact hrecord.bind fun _ => ih hbatch

/-- Reading ends, since the collections that are noted in a round come behind those in front of
them. -/
theorem leads_readAll {rounds : Nat} (hrounds : g.size < rounds + least) :
    Leads (Knows g least [] met) (readAll rounds) fun _ r =>
      r.noted = [] ∧ ∃ least, Knows g least [] met r := by
  induction rounds generalizing least with
  | zero =>
    refine leads_pure fun r hr => ⟨List.eq_nil_iff_forall_not_mem.2 fun n hn => ?_, _, hr⟩
    obtain ⟨hle, -, depth, v, hn⟩ := hr.noted n hn
    exact absurd (Nat.lt_of_le_of_lt hle hn.lt_size) (by omega)
  | succ rounds ih =>
    intro r hr
    cases hnoted : r.noted.reverse with
    | nil =>
      refine ⟨(), r, ?_, List.reverse_eq_nil_iff.1 hnoted, _, hr⟩
      simp only [readAll, StateT.run_bind, StateT.run_get, pure_bind, hnoted]
      rfl
    | cons n batch =>
      have hmem (k : NodeId) : k ∈ n :: batch ↔ k ∈ r.noted := by rw [← hnoted, List.mem_reverse]
      have hbatch : ∀ k ∈ n :: batch, least + 1 ≤ k + 1 ∧ g.IsCollection k ∧
          ∃ depth v, g.Denotes depth k v := by
        intro k hk
        obtain ⟨hle, hk⟩ := hr.noted k ((hmem k).1 hk)
        exact ⟨Nat.succ_le_succ hle, hk⟩
      have hopen : Knows g (least + 1) (n :: batch) met { r with noted := [] } := by
        refine ⟨hr.graph, hr.size, fun k x hk => ?_, nofun, hr.met⟩
        refine (hr.meanings k x hk).imp_right fun ⟨hx, hcollection, hpending⟩ => ?_
        exact ⟨hx, hcollection, .inr ((hmem k).2 (hpending.resolve_right (by simp)))⟩
      obtain ⟨_, s, hrun, hs⟩ :=
        ((leads_batch hbatch).bind fun _ => ih (by omega)) { r with noted := [] } hopen
      refine ⟨(), s, ?_, hs⟩
      rw [← hrun]
      simp only [readAll, StateT.run_bind, StateT.run_get, pure_bind, hnoted]
      rfl

/-! ## Values -/

theorem Knows.getD_meanings (hr : Knows g least [] met r) (hnoted : r.noted = [])
    (hmet : r.meanings.getD n none ≠ none) : r.meanings.getD n none = some (g.meaning n) ∧
      ∀ part ∈ g.parts n, r.meanings.getD part none ≠ none := by
  obtain ⟨x, hx⟩ := Option.ne_none_iff_exists'.1 hmet
  rcases hr.meanings n x hx with ⟨rfl, hparts⟩ | ⟨-, -, hpending⟩
  · exact ⟨hx, hparts⟩
  · simp [hnoted] at hpending

theorem getElem?_of_getD {meanings : Array (Option Meaning)} {x : Meaning}
    (h : meanings.getD n none = some x) : meanings[n]? = some (some x) := by
  rw [Array.getD_eq_getD_getElem?] at h
  cases hget : meanings[n]? with
  | none => simp [hget] at h
  | some y =>
    rw [hget] at h
    exact congrArg some h

theorem getD_values (k : Nat) (x : Meaning) (h : r.meanings.getD n none = some x) :
    (r.values (k + 1)).getD n .null = x.value fun n => (r.values k).getD n .null := by
  simp [Readings.values, getElem?_of_getD h]

/-- Once nothing is noted any more, the value of a node that has been met is the one it denotes. -/
theorem Knows.values_eq (hr : Knows g least [] met r) (hnoted : r.noted = [])
    (hn : g.Denotes depth n v) (hmet : r.meanings.getD n none ≠ none) {k : Nat} (hk : depth ≤ k) :
    (r.values k).getD n .null = v := by
  induction hn generalizing k with
  | scalar hlt htag hcontent hvalue =>
    have hmeaning := (hr.getD_meanings hnoted hmet).1
    rw [NodeGraph.meaning_scalar hcontent hvalue] at hmeaning
    cases k with
    | zero => simp [Readings.values, getElem?_of_getD hmeaning]
    | succ k => rw [getD_values k _ hmeaning, Meaning.value]
  | list hlt htag hcontent hbehind hitems ih =>
    obtain ⟨k, rfl⟩ : ∃ m, k = m + 1 := ⟨k - 1, by omega⟩
    obtain ⟨hmeaning, hparts⟩ := hr.getD_meanings hnoted hmet
    rw [NodeGraph.meaning, hcontent] at hmeaning
    rw [NodeGraph.parts, hcontent] at hparts
    rw [getD_values k _ hmeaning, Meaning.value, List.map_map]
    refine congrArg Value.list (List.map_congr_left fun item hitem => ?_)
    exact ih item hitem (hparts _ (List.mem_map_of_mem hitem)) (by omega)
  | map hlt htag hcontent hbehind hkeys hnodup hentries ih =>
    obtain ⟨k, rfl⟩ : ∃ m, k = m + 1 := ⟨k - 1, by omega⟩
    obtain ⟨hmeaning, hparts⟩ := hr.getD_meanings hnoted hmet
    rw [NodeGraph.meaning_mapping hcontent hkeys] at hmeaning
    rw [NodeGraph.parts, hcontent] at hparts
    rw [getD_values k _ hmeaning, Meaning.value, List.map_map]
    refine congrArg Value.map (List.map_congr_left fun e he => ?_)
    simp only [Function.comp_apply]
    rw [ih e he (hparts _ (by simpa using ⟨e, he, rfl⟩)) (by omega)]

end Meeting

end Read

/-- The value of a document is the one that its root denotes. -/
theorem Document.value_of_denotes {g : NodeGraph} {depth : Nat} {root : NodeId} {v : Value}
    (room : Room) (h : g.Denotes depth root v) (hdepth : depth ≤ greatestDepth) :
    Document.value room ⟨some root, g⟩ = .ok v := by
  have hstart : Read.Knows g 0 [] []
      { graph := g, room, meanings := Array.replicate g.size none } := by
    refine ⟨rfl, by simp [NodeGraph.size], fun n x hx => ?_, nofun, nofun⟩
    rw [Array.getD_eq_getD_getElem?, Array.getElem?_replicate] at hx
    split at hx <;> cases hx
  have hread : Read.Leads (Read.Knows g 0 [] [])
      (do discard (Read.meet root); Read.readAll (g.size + 1))
      fun _ r => r.noted = [] ∧ ∃ least, Read.Knows g least [] [root] r :=
    (Read.leads_discard_meet h (Nat.zero_le _)).bind fun _ => Read.leads_readAll (by omega)
  obtain ⟨_, r, hrun, hnoted, least, hr⟩ := hread _ hstart
  rw [Document.value]
  simp only [hrun]
  exact congrArg Except.ok (hr.values_eq hnoted h (hr.met root List.mem_cons_self) hdepth)

end MarkupNaming.Yaml
