import Mathlib.Data.List.TakeWhile
import MarkupNaming.Proofs.Yaml.Data
import MarkupNaming.Proofs.Yaml.Denotation
import MarkupNaming.Yaml.Document

/-!
# Nodes from tokens

The nodes that the tokens of written data make. A part of a parser is described by the tokens that
it takes and by the nodes that it adds to those in front of it.
-/
namespace MarkupNaming.Yaml
namespace Parse
variable {α β : Type} {m : Parse α} {f : α → Parse β} {a : α} {room : Nat}
  {tokens tokens' more rest : List Token} {t : Token} {made made' : Nat → α → NodeGraph → Prop}
  {makes : Nat → β → NodeGraph → Prop}

/-- A parser takes tokens in front of others and makes something of them. `made` relates how many
nodes there were, the result and the nodes then. So many collections may be entered as there is
room for. -/
def Takes (m : Parse α) (room : Nat) (tokens rest : List Token)
    (made : Nat → α → NodeGraph → Prop) : Prop :=
  ∀ p : Progress, p.tokens.map (·.token) = tokens ++ rest → room ≤ p.room →
    ∃ a left, m.run p = .ok (a, left) ∧ left.tokens.map (·.token) = rest ∧ left.room = p.room ∧
      p.graph.Grows left.graph ∧ made p.graph.size a left.graph

theorem Takes.mono (h : Takes m room tokens rest made)
    (hmade : ∀ least a g, made least a g → made' least a g) : Takes m room tokens rest made' := by
  intro p hp hroom
  obtain ⟨a, left, hrun, hleft, hleftroom, hgrows, ha⟩ := h p hp hroom
  exact ⟨a, left, hrun, hleft, hleftroom, hgrows, hmade _ _ _ ha⟩

theorem takes_pure (h : ∀ g : NodeGraph, made g.size a g) :
    Takes (pure a) room [] rest made := fun p hp _ =>
  ⟨a, p, rfl, hp, rfl, .refl _, h _⟩

/-- One parser behind another one. -/
theorem Takes.bind {q : α → Nat → β → NodeGraph → Prop}
    (hm : Takes m room tokens (tokens' ++ rest) made)
    (hf : ∀ a, Takes (f a) room tokens' rest (q a))
    (hmakes : ∀ least a g b g', made least a g → least ≤ g.size → g.Grows g' → q a g.size b g' →
      makes least b g') : Takes (m >>= f) room (tokens ++ tokens') rest makes := by
  intro p hp hroom
  rw [List.append_assoc] at hp
  obtain ⟨a, p', hrun, hleft, hleftroom, hgrows, ha⟩ := hm p hp hroom
  obtain ⟨b, left, hrun', hleft', hleftroom', hgrows', hb⟩ := hf a p' hleft (by omega)
  exact ⟨b, left, (run_bind_of_ok hrun).trans hrun', hleft', hleftroom'.trans hleftroom,
    hgrows.trans hgrows', hmakes _ _ _ _ _ ha hgrows.size_le hgrows' hb⟩

theorem Takes.bind_pure {k : α → β} (hm : Takes m room tokens rest made)
    (hmakes : ∀ least a g, made least a g → makes least (k a) g) :
    Takes (m >>= fun a => pure (k a)) room tokens rest makes := by
  intro p hp hroom
  obtain ⟨a, left, hrun, hleft, hleftroom, hgrows, ha⟩ := hm p hp hroom
  exact ⟨k a, left, run_bind_of_ok hrun, hleft, hleftroom, hgrows, hmakes _ _ _ ha⟩

/-- Two parsers behind each other, whose results are put together. -/
theorem Takes.both {γ : Type} {m' : Parse β} {k : α → β → γ} {made₂ : Nat → γ → NodeGraph → Prop}
    (hm : Takes m room tokens (tokens' ++ rest) made) (hm' : Takes m' room tokens' rest makes)
    (hboth : ∀ least a g b g', made least a g → least ≤ g.size → g.Grows g' → makes g.size b g' →
      made₂ least (k a b) g') :
    Takes (do let a ← m; let b ← m'; pure (k a b)) room (tokens ++ tokens') rest made₂ :=
  .bind (q := fun a least c g => ∃ b, c = k a b ∧ makes least b g) hm
    (fun _ => hm'.bind_pure fun _ b _ hb => ⟨b, rfl, hb⟩)
    fun least a g _ g' ha hle hg ⟨b, hc, hb⟩ => hc ▸ hboth least a g b g' ha hle hg hb

/-! ## Looking at the next token -/

section Looking
variable {f : Lexeme → Parse β}

theorem run_next {p : Progress} (h : p.tokens.map (·.token) = t :: more) :
    ∃ mark, next.run p = .ok (⟨t, mark⟩, p) := by
  obtain ⟨x, left, hp, rfl, -⟩ := List.map_eq_cons_iff.1 h
  refine ⟨x.start, ?_⟩
  simp only [next, StateT.run_bind, StateT.run_get, pure_bind, hp]
  rfl

theorem Takes.next_bind (h : tokens ++ rest = t :: more)
    (hf : ∀ mark, Takes (f ⟨t, mark⟩) room tokens rest makes) :
    Takes (next >>= f) room tokens rest makes := by
  intro p hp hroom
  obtain ⟨mark, hnext⟩ := run_next (hp.trans h)
  obtain ⟨b, left, hrun, hb⟩ := hf mark p hp hroom
  exact ⟨b, left, (run_bind_of_ok hnext).trans hrun, hb⟩

theorem Takes.peek_bind {f : Token → Parse β} (h : tokens ++ rest = t :: more)
    (hf : Takes (f t) room tokens rest makes) : Takes (peek >>= f) room tokens rest makes := by
  rw [peek, bind_map_left]
  exact .next_bind h fun _ => hf

theorem Takes.place_bind {f : Mark → Parse β} (h : tokens ++ rest = t :: more)
    (hf : ∀ mark, Takes (f mark) room tokens rest makes) :
    Takes (place >>= f) room tokens rest makes := by
  rw [place, bind_map_left]
  exact .next_bind h hf

theorem Takes.drop_bind {f : Unit → Parse β} (hf : Takes (f ()) room tokens rest makes) :
    Takes (drop >>= f) room (t :: tokens) rest makes := by
  intro p hp hroom
  have hleft : (p.tokens.drop 1).map (·.token) = tokens ++ rest := by
    rw [List.map_drop, hp]
    rfl
  exact hf { p with tokens := p.tokens.drop 1 } hleft hroom

theorem Takes.handles_bind {f : Unit → Parse β} {handles : List (Text × Text)}
    (hf : Takes (f ()) room tokens rest makes) :
    Takes ((modify fun p => { p with handles := handles }) >>= f) room tokens rest makes :=
  fun p hp hroom => hf { p with handles := handles } hp hroom

theorem Takes.take_bind {f : Bool → Parse β} {p : Token → Bool} (hp : p t = true)
    (hf : Takes (f true) room tokens rest makes) :
    Takes (take? p >>= f) room (t :: tokens) rest makes := by
  rw [take?, bind_assoc]
  refine .peek_bind rfl ?_
  rw [if_pos hp, bind_assoc]
  refine .drop_bind ?_
  rwa [pure_bind]

theorem Takes.leave_bind {f : Bool → Parse β} {p : Token → Bool} (h : tokens ++ rest = t :: more)
    (hp : p t = false) (hf : Takes (f false) room tokens rest makes) :
    Takes (take? p >>= f) room tokens rest makes := by
  rw [take?, bind_assoc]
  refine .peek_bind h ?_
  rwa [if_neg (by simp [hp]), pure_bind]

end Looking

/-! ## Nodes -/

/-- Whether a token is an alias or a property in front of a node. -/
def isProperty : Token → Bool
  | .reference _ | .anchor _ | .tag _ _ => true
  | _ => false

theorem Takes.properties_bind {f : Option Text × Option Text → Parse β}
    (h : tokens ++ rest = t :: more) (ht : isProperty t = false)
    (hf : Takes (f (none, none)) room tokens rest makes) :
    Takes (properties >>= f) room tokens rest makes := by
  unfold properties
  simp only [bind_assoc]
  refine .place_bind h fun start => .peek_bind h ?_
  have hanchor (name : Text) : t ≠ .anchor name := by
    rintro rfl
    cases ht
  have htag (handle : Option Text) (text : Text) : t ≠ .tag handle text := by
    rintro rfl
    cases ht
  split
  · exact absurd rfl (hanchor _)
  · simp only [pure_bind, bind_assoc]
    refine .peek_bind h ?_
    split
    · exact absurd rfl (htag _ _)
    · rwa [pure_bind]

/-- What is made of a new node. -/
structure NewNode (tag : Tag) (content : Content) (least : Nat) (n : NodeId) (g : NodeGraph) :
    Prop where
  eq_least : n = least
  size : n < g.size
  tag : g.tag n = tag
  content : g.content n = content

theorem takes_add (start : Mark) (tag : Tag) (content : Content) :
    Takes (add start tag content) room [] rest (NewNode tag content) := by
  intro p hp _
  have hnode := p.graph.node_add ⟨tag, content, start⟩
  have hsize : p.graph.size < (p.graph.add ⟨tag, content, start⟩).2.size := by simp
  exact ⟨p.graph.size, _, rfl, hp, rfl, NodeGraph.grows_add _ _, rfl, hsize,
    congrArg Node.tag hnode, congrArg Node.content hnode⟩

theorem takes_scalar (start : Mark) (tag : Tag) (text : Text) :
    Takes (scalar start none tag text) room [] rest (NewNode tag (.scalar text)) := by
  have hscalar : scalar start none tag text = add start tag (.scalar text) := by
    simp only [scalar, checkAnchor, Parse.bind, pure_bind, bind_pure]
  rw [hscalar]
  exact takes_add start tag _

/-- What is made of the node of a collection, whose contents come behind it. -/
def NewCollection (tag : Tag) (made : Nat → Content → NodeGraph → Prop) (least : Nat) (n : NodeId)
    (g : NodeGraph) : Prop :=
  ∃ content start g', made (least + 1) content g' ∧ n = least ∧ n < g'.size ∧
    g = g'.set n ⟨tag, content, start⟩

theorem Takes.collection {contents : Parse Content} {made : Nat → Content → NodeGraph → Prop}
    (start : Mark) (tag : Tag) (h : Takes contents room tokens rest made) :
    Takes (collection start none tag contents) (room + 1) tokens rest (NewCollection tag made) := by
  intro p hp hroom
  have hgrows := p.graph.grows_add ⟨tag, .sequence [], start⟩
  obtain ⟨outer, houter⟩ : ∃ outer, p.room = outer + 1 := ⟨p.room - 1, by omega⟩
  obtain ⟨content, left, hrun, hleft, -, hgrows', hmade⟩ :=
    h { p with graph := (p.graph.add ⟨tag, .sequence [], start⟩).2, room := outer } hp
      (Nat.le_of_succ_le_succ (Nat.le_trans hroom (Nat.le_of_eq houter)))
  have hsize : p.graph.size < left.graph.size := by
    simpa [Nat.succ_le_iff] using hgrows'.size_le
  refine ⟨p.graph.size,
    { left with
      graph := left.graph.set p.graph.size ⟨tag, content, start⟩, room := outer + 1 },
    ?_, hleft, houter.symm, (hgrows.trans hgrows').set (Nat.le_refl _) _, content, start,
      left.graph,
    by simpa using hmade, rfl, hsize, rfl⟩
  have hadd : (add start tag (.sequence [])).run p = .ok (p.graph.size,
      { p with graph := (p.graph.add ⟨tag, .sequence [], start⟩).2 }) := rfl
  simp only [Parse.collection, checkAnchor, Parse.bind, inside, pure_bind, run_bind_of_ok hadd,
    StateT.run_bind, StateT.run_get, houter, StateT.run_modify, hrun]
  rfl

/-! ## Nodes by their first tokens -/

section FirstTokens
variable {inBlock noIndent : Bool} {fuel : Nat}

theorem takes_node_scalar (text : Text) (isPlain : Bool) :
    Takes (node inBlock noIndent (fuel + 1)) room [.scalar text isPlain] rest
      (NewNode (scalarTag none text isPlain) (.scalar text)) := by
  rw [node]
  refine .place_bind rfl fun start => .peek_bind rfl (.properties_bind rfl rfl
    (.next_bind rfl fun mark => .drop_bind ?_))
  exact takes_scalar start _ text

theorem takes_node_brackets {made : Nat → Content → NodeGraph → Prop}
    (hmade : ∀ g : NodeGraph, made g.size (.sequence []) g) :
    Takes (node inBlock noIndent (fuel + 2)) (room + 1) [.flowSequenceStart, .flowSequenceEnd] rest
      (NewCollection .sequence made) := by
  have hitems (opening : Mark) : Takes (.sequence <$> flowItems opening true (fuel + 1)) room
      [.flowSequenceEnd] rest made := by
    rw [flowItems, map_eq_pure_bind, bind_assoc]
    refine .take_bind rfl ?_
    rw [if_pos rfl, pure_bind]
    exact takes_pure hmade
  rw [node]
  refine .place_bind rfl fun start => .peek_bind rfl (.properties_bind rfl rfl
    (.next_bind rfl fun mark => .drop_bind ?_))
  exact .collection start _ (hitems mark)

theorem Takes.node_items {made : Nat → Content → NodeGraph → Prop}
    (h : Takes (.sequence <$> plainItems fuel) room (.blockEntry :: tokens) rest made) :
    Takes (node inBlock true (fuel + 1)) (room + 1) (.blockEntry :: tokens) rest
      (NewCollection .sequence made) := by
  rw [node]
  refine .place_bind rfl fun start => .peek_bind rfl (.properties_bind rfl rfl
    (.next_bind rfl fun mark => ?_))
  exact .collection start _ h

theorem Takes.node_entries {made : Nat → Content → NodeGraph → Prop}
    (h : ∀ opening, Takes (.mapping <$> blockEntries opening fuel) room tokens rest made) :
    Takes (node true noIndent (fuel + 1)) (room + 1) (.blockMappingStart :: tokens) rest
      (NewCollection .mapping made) := by
  rw [node]
  refine .place_bind rfl fun start => .peek_bind rfl (.properties_bind rfl rfl
    (.next_bind rfl fun mark => ?_))
  exact .drop_bind (.collection start _ (h mark))

theorem Takes.nodeBehind {ends : Token → Bool} (mark : Mark) (h : tokens ++ rest = t :: more)
    (hends : ends t = false) {made : Nat → NodeId → NodeGraph → Prop}
    (hnode : Takes (node inBlock noIndent fuel) room tokens rest made) :
    Takes (nodeBehind mark ends inBlock noIndent (fuel + 1)) room tokens rest made := by
  rw [Parse.nodeBehind]
  refine .peek_bind h ?_
  rwa [if_neg (by simp [hends])]

theorem Takes.entryValue {ends : Token → Bool} (h : tokens ++ rest = t :: more)
    (hends : ends t = false) {made : Nat → NodeId → NodeGraph → Prop}
    (hnode : Takes (node inBlock noIndent fuel) room tokens rest made) :
    Takes (entryValue ends inBlock noIndent (fuel + 2)) room (.value :: tokens) rest made := by
  rw [Parse.entryValue]
  refine .place_bind rfl fun mark => .take_bind rfl ?_
  rw [if_pos rfl]
  exact .nodeBehind mark h hends hnode

end FirstTokens

/-! ## Collections -/

/-- A node is made that denotes a value. -/
def Denoted (depth : Nat) (v : Value) (least : Nat) (n : NodeId) (g : NodeGraph) : Prop :=
  least ≤ n ∧ g.Denotes depth n v

/-- The items of a sequence are made, which denote values. -/
def DenotedItems (depth : Nat) (values : List Value) (least : Nat) (content : Content)
    (g : NodeGraph) : Prop :=
  ∃ items : List (NodeId × Value), content = .sequence (items.map (·.1)) ∧
    items.map (·.2) = values ∧ ∀ item ∈ items, Denoted depth item.2 least item.1 g

/-- The entries of a mapping are made, which denote values under keys that are texts. -/
def DenotedEntries (depth : Nat) (fields : List (Text × Value)) (least : Nat) (content : Content)
    (g : NodeGraph) : Prop :=
  ∃ entries : List NodeGraph.Entry, content = .mapping (entries.map fun e => (e.key, e.node)) ∧
    entries.map (fun e => (e.name, e.value)) = fields ∧
      ∀ e ∈ entries, least ≤ e.key ∧ g.IsText e.key e.name ∧ Denoted depth e.value least e.node g

section Denoting
variable {depth least n : Nat} {g g' : NodeGraph} {v : Value}

theorem NewNode.denoted {tag : Tag} {text : Text} (h : NewNode tag (.scalar text) least n g)
    (htag : tag.isSimple = true) (hvalue : scalarValue tag text = .ok v) :
    Denoted depth v least n g :=
  ⟨Nat.le_of_eq h.eq_least.symm,
    .scalar h.size (h.tag ▸ htag) h.content (h.tag ▸ hvalue)⟩

/-- A node in front of what denotes a value may be set to anything. -/
theorem Denoted.set {item : NodeId} (h : Denoted depth v (n + 1) item g) (node : Node) :
    (g.set n node).Denotes depth item v :=
  h.2.of_agree (by simp) fun _ hm _ => NodeGraph.node_set_of_ne _ _
    (Nat.ne_of_gt (Nat.lt_of_lt_of_le h.1 hm))

theorem NewCollection.denoted_items {values : List Value}
    (h : NewCollection .sequence (DenotedItems depth values) least n g) :
    Denoted (depth + 1) (.list values) least n g := by
  obtain ⟨_, start, g', ⟨items, rfl, rfl, hitems⟩, rfl, hsize, rfl⟩ := h
  have hnode := g'.node_set hsize ⟨.sequence, .sequence (items.map (·.1)), start⟩
  refine ⟨Nat.le_refl _, .list (by simpa using hsize) (congrArg Node.tag hnode)
    (congrArg Node.content hnode) (fun item h => (hitems item h).1) fun item h =>
      (hitems item h).set _⟩

theorem NewCollection.denoted_entries {fields : List (Text × Value)}
    (h : NewCollection .mapping (DenotedEntries depth fields) least n g)
    (hnodup : (fields.map (·.1)).Nodup) :
    Denoted (depth + 1) (.map (fields.map fun (key, v) => (.text key, v))) least n g := by
  obtain ⟨_, start, g', ⟨entries, rfl, rfl, hentries⟩, rfl, hsize, rfl⟩ := h
  have hnode := g'.node_set hsize
    ⟨.mapping, .mapping (entries.map fun e => (e.key, e.node)), start⟩
  rw [List.map_map] at hnodup ⊢
  refine ⟨Nat.le_refl _, .map (by simpa using hsize) (congrArg Node.tag hnode)
    (congrArg Node.content hnode) (fun e h => ⟨(hentries e h).1, (hentries e h).2.2.1⟩)
    (fun e h => ?_) hnodup fun e h => (hentries e h).2.2.set _⟩
  obtain ⟨hle, hkey, -⟩ := hentries e h
  exact hkey.of_agree (by simp) (NodeGraph.node_set_of_ne _ _ (Nat.ne_of_gt hle))

theorem Denoted.mono {least' : Nat} (h : Denoted depth v least n g) (hle : least' ≤ least)
    (hg : g.Grows g') : Denoted depth v least' n g' :=
  ⟨Nat.le_trans hle h.1, h.2.grows hg⟩

theorem DenotedItems.nil : DenotedItems depth [] least (.sequence []) g :=
  ⟨[], rfl, rfl, by simp⟩

theorem DenotedItems.cons {values : List Value} {ids : List NodeId}
    (h : Denoted depth v least n g) (hle : least ≤ g.size) (hg : g.Grows g')
    (hrest : DenotedItems depth values g.size (.sequence ids) g') :
    DenotedItems depth (v :: values) least (.sequence (n :: ids)) g' := by
  obtain ⟨items, hids, rfl, hitems⟩ := hrest
  obtain rfl := Content.sequence.inj hids
  refine ⟨(n, v) :: items, rfl, rfl, List.forall_mem_cons.2 ⟨h.mono (Nat.le_refl _) hg, ?_⟩⟩
  exact fun item hitem => (hitems item hitem).mono hle (.refl _)

theorem DenotedEntries.nil : DenotedEntries depth [] least (.mapping []) g :=
  ⟨[], rfl, rfl, by simp⟩

theorem DenotedEntries.cons {fields : List (Text × Value)} {pairs : List (NodeId × NodeId)}
    {key : NodeId} {name : Text} {g₀ : NodeGraph} (hkey : NewNode .text (.scalar name) least key g₀)
    (hg₀ : g₀.Grows g') (h : Denoted depth v g₀.size n g) (hle₀ : g₀.size ≤ g.size)
    (hg : g.Grows g')
    (hrest : DenotedEntries depth fields g.size (.mapping pairs) g') :
    DenotedEntries depth ((name, v) :: fields) least (.mapping ((key, n) :: pairs)) g' := by
  obtain ⟨entries, hpairs, rfl, hentries⟩ := hrest
  obtain rfl := Content.mapping.inj hpairs
  have hle : least ≤ g₀.size := hkey.eq_least ▸ Nat.le_of_lt hkey.size
  have htext : g₀.IsText key name := ⟨hkey.size, hkey.tag, hkey.content⟩
  refine ⟨⟨key, name, n, v⟩ :: entries, rfl, rfl, List.forall_mem_cons.2
    ⟨⟨Nat.le_of_eq hkey.eq_least.symm, htext.grows hg₀, h.mono hle hg⟩, ?_⟩⟩
  intro e he
  obtain ⟨hlekey, htext, hvalue⟩ := hentries e he
  have hle' := Nat.le_trans hle hle₀
  exact ⟨Nat.le_trans hle' hlekey, htext, hvalue.mono hle' (.refl _)⟩

end Denoting

/-! ## Data -/

section Data
variable {d : Data} {depth fuel : Nat}

open Data

/-- The first token of data. -/
theorem exists_tokens (hd : Fits depth d) : ∃ t more, d.tokens = t :: more ∧ endsEntry t = false ∧
    (d.isList = false → endsItem t = false) := by
  cases hd with
  | text t => exact ⟨_, [], by rw [Data.tokens], rfl, fun _ => rfl⟩
  | int hn => exact ⟨_, [], by rw [Data.tokens], rfl, fun _ => rfl⟩
  | bool b => exact ⟨_, [], by rw [Data.tokens], rfl, fun _ => rfl⟩
  | @list _ items hflat hitems =>
    cases items with
    | nil => exact ⟨_, _, by rw [Data.tokens], rfl, by simp [isList]⟩
    | cons d rest =>
      refine ⟨.blockEntry, d.tokens ++ itemTokens rest, ?_, rfl, by simp [isList]⟩
      rw [Data.tokens, itemTokens]
      · rfl
      · simp
  | record hne hkeys hnodup hfields =>
    exact ⟨.blockMappingStart, _, by rw [Data.tokens]; rfl, rfl, fun _ => rfl⟩

/-- Data are parsed as a node that denotes their value, whatever stands behind them. -/
def IsParsed (depth : Nat) (d : Data) : Prop :=
  ∀ (noIndent : Bool) (fuel : Nat) (rest : List Token), 2 * d.tokens.length ≤ fuel →
    Takes (node true noIndent fuel) depth d.tokens rest (Denoted depth d.readValue)

/-- Data are parsed as the value of an entry, behind which no item stands. -/
def IsParsedAsValue (depth : Nat) (d : Data) : Prop :=
  ∀ (fuel : Nat) (t : Token) (rest : List Token), 2 * d.tokens.length < fuel → t ≠ .blockEntry →
    Takes (node true true fuel) depth d.tokens (t :: rest) (Denoted depth d.readValue)

theorem takes_plainItems {items : List Data} (hfits : ∀ d ∈ items, Fits depth d)
    (hflat : ∀ d ∈ items, d.isList = false) (hparsed : ∀ d ∈ items, IsParsed depth d)
    (fuel : Nat) (hfuel : 2 * (itemTokens items).length ≤ fuel) (ht : t ≠ .blockEntry) :
    Takes (plainItems fuel) depth (itemTokens items) (t :: rest) fun least ids =>
      DenotedItems depth (items.map readValue) least (.sequence ids) := by
  induction items generalizing fuel with
  | nil =>
    cases fuel with
    | zero => exact takes_pure fun _ => .nil
    | succ fuel =>
      rw [plainItems]
      refine .place_bind rfl fun mark => .leave_bind rfl (by simpa using ht) ?_
      rw [if_neg (by simp)]
      exact takes_pure fun _ => .nil
  | cons d rest' ih =>
    simp only [itemTokens, List.length_append, List.length_cons] at hfuel
    obtain ⟨fuel, rfl⟩ : ∃ f, fuel = f + 2 := ⟨fuel - 2, by omega⟩
    obtain ⟨first, more, htokens, -, hends⟩ := exists_tokens (hfits d List.mem_cons_self)
    have hnode := hparsed d List.mem_cons_self false fuel (itemTokens rest' ++ t :: rest) (by omega)
    have hrest := ih (fun _ h => hfits _ (List.mem_cons_of_mem _ h))
      (fun _ h => hflat _ (List.mem_cons_of_mem _ h))
      (fun _ h => hparsed _ (List.mem_cons_of_mem _ h)) (fuel + 1) (by omega)
    rw [plainItems, itemTokens]
    refine .place_bind rfl fun mark => .take_bind rfl ?_
    rw [if_pos rfl]
    exact .both (.nodeBehind mark (by rw [htokens]; rfl) (hends (hflat d List.mem_cons_self)) hnode)
      hrest fun _ _ _ _ _ hitem hle hg hitems => .cons hitem hle hg hitems

theorem takes_key {key : Text} (hkey : IsKey key) {inBlock noIndent : Bool} (fuel : Nat) :
    Takes (node inBlock noIndent (fuel + 1)) room [.scalar key true] rest
      (NewNode .text (.scalar key)) := by
  have htag : scalarTag none key true = .text := Style.impliedTag_of_ofText hkey.style
  have hnode : Takes (node inBlock noIndent (fuel + 1)) room [.scalar key true] rest
      (NewNode (scalarTag none key true) (.scalar key)) := takes_node_scalar key true
  rwa [htag] at hnode

theorem takes_blockEntries {fields : List (Text × Data)} (hkeys : ∀ field ∈ fields, IsKey field.1)
    (hfits : ∀ field ∈ fields, Fits depth field.2)
    (hparsed : ∀ field ∈ fields, IsParsedAsValue depth field.2) (opening : Mark)
    (fuel : Nat) (hfuel : 2 * (fieldTokens fields).length < fuel) :
    Takes (blockEntries opening fuel) depth (fieldTokens fields ++ [Token.blockEnd]) rest
      fun least pairs => DenotedEntries depth (fields.map fun (key, d) => (key, d.readValue)) least
        (.mapping pairs) := by
  induction fields generalizing fuel with
  | nil =>
    obtain ⟨fuel, rfl⟩ : ∃ f, fuel = f + 1 := ⟨fuel - 1, by omega⟩
    rw [blockEntries]
    refine .place_bind rfl fun mark => .leave_bind rfl (by simp) ?_
    rw [if_neg (by simp)]
    refine .take_bind (by simp) ?_
    rw [if_pos rfl]
    exact takes_pure fun _ => .nil
  | cons field fields ih =>
    obtain ⟨key, d⟩ := field
    simp only [fieldTokens, List.length_append, List.length_cons] at hfuel
    obtain ⟨fuel, rfl⟩ : ∃ f, fuel = f + 4 := ⟨fuel - 4, by omega⟩
    have hkey : IsKey key := hkeys _ List.mem_cons_self
    obtain ⟨first, more, htokens, hends, -⟩ := exists_tokens (hfits _ List.mem_cons_self)
    obtain ⟨behind, left, hbehind, hitem⟩ : ∃ behind left,
        fieldTokens fields ++ [Token.blockEnd] ++ rest = behind :: left ∧ behind ≠ .blockEntry := by
      cases fields with
      | nil => exact ⟨_, _, rfl, by simp⟩
      | cons field fields => exact ⟨_, _, by rw [fieldTokens]; rfl, by simp⟩
    have hnode := hparsed (key, d) List.mem_cons_self (fuel + 1) behind left (by simp only; omega)
      hitem
    rw [← hbehind] at hnode
    have hrest := ih (fun _ h => hkeys _ (List.mem_cons_of_mem _ h))
      (fun _ h => hfits _ (List.mem_cons_of_mem _ h))
      (fun _ h => hparsed _ (List.mem_cons_of_mem _ h)) (fuel + 3) (by omega)
    have htokens' : fieldTokens ((key, d) :: fields) ++ [Token.blockEnd] =
        .key :: ([.scalar key true] ++
        (.value :: d.tokens ++ (fieldTokens fields ++ [Token.blockEnd]))) := by
      rw [fieldTokens]
      simp
    rw [blockEntries, htokens']
    refine .place_bind rfl fun mark => .take_bind (by simp) ?_
    rw [if_pos rfl]
    refine .bind (q := fun key least pairs g => ∃ n left g₁, pairs = (key, n) :: left ∧
        Denoted depth d.readValue least n g₁ ∧ least ≤ g₁.size ∧ g₁.Grows g ∧
          DenotedEntries depth (fields.map fun (key, d) => (key, d.readValue)) g₁.size
            (.mapping left) g)
      (.nodeBehind mark rfl rfl (takes_key hkey _))
      (fun _ => .both (.entryValue (by rw [htokens]; rfl) hends hnode) hrest
        fun _ n g₁ left _ hn hle hg hleft => ⟨n, left, g₁, rfl, hn, hle, hg, hleft⟩) ?_
    rintro least _ g₀ _ g hkey - hg₀ ⟨n, left, g₁, rfl, hn, hle, hg, hleft⟩
    exact .cons hkey hg₀ hn hle hg hleft

theorem IsParsed.asValue (h : IsParsed depth d) : IsParsedAsValue depth d :=
  fun fuel t rest hfuel _ => h true fuel (t :: rest) (Nat.le_of_lt hfuel)

/-- Data of one token, whose text denotes their value. -/
theorem isParsed_scalar {x : Text} {isPlain : Bool} (htokens : d.tokens = [.scalar x isPlain])
    (hsimple : (scalarTag none x isPlain).isSimple = true)
    (hvalue : scalarValue (scalarTag none x isPlain) x = .ok d.readValue) : IsParsed depth d := by
  intro noIndent fuel rest hfuel
  rw [htokens] at hfuel ⊢
  obtain ⟨fuel, rfl⟩ : ∃ f, fuel = f + 1 := ⟨fuel - 1, by simp at hfuel; omega⟩
  exact (takes_node_scalar x isPlain).mono fun _ _ _ h => h.denoted hsimple hvalue

theorem isParsed_text (t : Text) : IsParsed depth (.text t) := by
  have htag : scalarTag none (readBack t) (Style.ofText t = .plain) = .text := by
    by_cases hstyle : Style.ofText t = .plain
    · simp [scalarTag, readBack, hstyle, Style.impliedTag_of_ofText hstyle]
    · simp [scalarTag, hstyle]
  refine isParsed_scalar (d := .text t) (by rw [Data.tokens, Reading.textToken]) ?_ ?_
  · rw [htag]
    rfl
  · rw [htag]
    rfl

theorem isParsed_bool (b : Bool) : IsParsed depth (.bool b) := by
  refine isParsed_scalar (d := .bool b) (by rw [Data.tokens]) ?_ ?_
  · cases b <;> rfl
  · cases b <;> rfl

theorem isParsed_int {n : Int} (hn : IsReadable n) : IsParsed depth (.int n) := by
  have htag : scalarTag none (Text.ofInt n) true = .integer := hn.tag
  refine isParsed_scalar (d := .int n) (by rw [Data.tokens]) ?_ ?_
  · rw [htag]
    rfl
  · rw [htag, scalarValue, hn.value]
    rfl

theorem isParsedAsValue_list {items : List Data} (hfits : ∀ d ∈ items, Fits depth d)
    (hflat : ∀ d ∈ items, d.isList = false) (hparsed : ∀ d ∈ items, IsParsed depth d) :
    IsParsedAsValue (depth + 1) (.list items) := by
  intro fuel t rest hfuel ht
  have hvalue : (Data.list items).readValue = .list (items.map readValue) := by
    simp [readValue, mapText, toValue, Function.comp_def]
  rw [hvalue]
  cases items with
  | nil =>
    rw [Data.tokens] at hfuel ⊢
    obtain ⟨fuel, rfl⟩ : ∃ f, fuel = f + 2 := ⟨fuel - 2, by simp at hfuel; omega⟩
    exact (takes_node_brackets fun _ => .nil).mono fun _ _ _ h => h.denoted_items
  | cons d rest' =>
    have htokens : (Data.list (d :: rest')).tokens = itemTokens (d :: rest') := by
      rw [Data.tokens]
      simp
    rw [htokens] at hfuel ⊢
    obtain ⟨fuel, rfl⟩ : ∃ f, fuel = f + 1 := ⟨fuel - 1, by omega⟩
    have hitems : Takes (plainItems fuel) depth (itemTokens (d :: rest')) (t :: rest) _ :=
      takes_plainItems hfits hflat hparsed fuel (Nat.le_of_lt_succ hfuel) ht
    rw [itemTokens] at hitems ⊢
    refine Takes.mono (.node_items ?_) fun _ _ _ h => h.denoted_items
    rw [map_eq_pure_bind]
    exact hitems.bind_pure fun _ _ _ h => h

theorem isParsed_record {fields : List (Text × Data)} (hkeys : ∀ field ∈ fields, IsKey field.1)
    (hnodup : (fields.map (·.1)).Nodup) (hfits : ∀ field ∈ fields, Fits depth field.2)
    (hparsed : ∀ field ∈ fields, IsParsedAsValue depth field.2) :
    IsParsed (depth + 1) (.record fields) := by
  intro noIndent fuel rest hfuel
  have hvalue : (Data.record fields).readValue = .map
      ((fields.map fun (key, d) => (key, d.readValue)).map fun (key, v) => (.text key, v)) := by
    simp [readValue, mapText, toValue, Function.comp_def]
  rw [hvalue]
  rw [Data.tokens] at hfuel ⊢
  simp only [List.length_append, List.length_cons] at hfuel
  obtain ⟨fuel, rfl⟩ : ∃ f, fuel = f + 1 := ⟨fuel - 1, by omega⟩
  refine Takes.mono (.node_entries fun opening => ?_) fun _ _ _ h => h.denoted_entries ?_
  · rw [map_eq_pure_bind]
    exact (takes_blockEntries hkeys hfits hparsed opening fuel (by omega)).bind_pure
      fun _ _ _ h => h
  · rwa [List.map_map]

/-- Data that fit are parsed as a node that denotes their value, lists as values of entries only. -/
theorem isParsed_of_fits (hd : Fits depth d) :
    IsParsedAsValue depth d ∧ (d.isList = false → IsParsed depth d) := by
  induction hd with
  | text t => exact ⟨(isParsed_text t).asValue, fun _ => isParsed_text t⟩
  | int hn => exact ⟨(isParsed_int hn).asValue, fun _ => isParsed_int hn⟩
  | bool b => exact ⟨(isParsed_bool b).asValue, fun _ => isParsed_bool b⟩
  | list hflat hitems ih =>
    exact ⟨isParsedAsValue_list hitems hflat fun d hd => (ih d hd).2 (hflat d hd),
      fun h => nomatch h⟩
  | record hne hkeys hnodup hfields ih =>
    have hrecord := isParsed_record hkeys hnodup hfields fun field h => (ih field h).1
    exact ⟨hrecord.asValue, fun _ => hrecord⟩

theorem Takes.dropEnds_bind {f : Unit → Parse β} (h : tokens ++ rest = t :: more)
    (ht : t ≠ .documentEnd) (hf : Takes (f ()) room tokens rest makes) :
    Takes (dropEnds fuel >>= f) room tokens rest makes := by
  cases fuel with
  | zero => exact hf
  | succ fuel =>
    rw [dropEnds, bind_assoc]
    refine .leave_bind h (by simpa using ht) ?_
    rwa [if_neg (by simp), pure_bind]

/-- A record that is the only document of a text becomes a root that denotes its value. -/
theorem takes_document {fields : List (Text × Data)} (hd : Fits depth (.record fields))
    (fuel : Nat) (hfuel : 2 * (Data.record fields).tokens.length ≤ fuel) :
    Takes (document fuel) depth (Data.record fields).tokens [.streamEnd] fun least root g =>
      ∃ n, root = some n ∧ Denoted depth (Data.record fields).readValue least n g := by
  have hroot := (isParsed_of_fits hd).2 rfl false fuel [.streamEnd] hfuel
  have hmap : Takes (some <$> node true false fuel) depth (Data.record fields).tokens
      ([] ++ [Token.streamEnd]) fun least root g => ∃ n, root = some n ∧
        Denoted depth (Data.record fields).readValue least n g := by
    rw [map_eq_pure_bind]
    exact hroot.bind_pure fun _ n _ h => ⟨n, rfl, h⟩
  rw [document, ← List.append_nil (Data.record fields).tokens]
  refine .peek_bind (t := .blockMappingStart) (by rw [Data.tokens]; rfl) ?_
  rw [if_neg (by decide)]
  refine .handles_bind (.bind (q := fun root _ found _ => found = root) hmap (fun root => ?_) ?_)
  · refine .dropEnds_bind rfl (by simp) (.next_bind rfl fun mark => ?_)
    exact takes_pure fun _ => rfl
  · rintro least _ g _ g' ⟨n, rfl, h⟩ - hg rfl
    exact ⟨n, rfl, h.mono (Nat.le_refl _) hg⟩

end Data

end Parse

/-- A written record is the document of its text, whose root denotes the value of the record. -/
theorem Document.exists_ofText {depth nesting : Nat} {fields : List (Text × Data)}
    (h : Data.Fits depth (.record fields)) (hlast : 2 * depth < lastColumn)
    (hnesting : depth ≤ nesting) :
    ∃ root g, Document.ofText nesting (Data.document fields) = .ok ⟨some root, g⟩ ∧
      g.Denotes depth root (Data.record fields).readValue := by
  have hallowed : (Data.document fields).dropWhile isAllowed = [] :=
    List.dropWhile_eq_nil_iff.2 fun c hc => Style.isAllowed_of_isLiteral
      (List.all_eq_true.1 (Data.all_isLiteral_document fields) c hc)
  obtain ⟨htokens, -⟩ := Data.tokens_document h hlast
  have hcount := congrArg List.length htokens
  rw [List.length_map, List.length_append] at hcount
  obtain ⟨_, left, hrun, -, -, -, root, rfl, -, hroot⟩ := Parse.takes_document h
    (2 * (Tokens.ofText (Data.document fields)).tokens.length + 2) (by omega)
    { tokens := (Tokens.ofText (Data.document fields)).tokens
      fault := (Tokens.ofText (Data.document fields)).fault
      room := nesting } htokens hnesting
  refine ⟨root, left.graph, ?_, hroot⟩
  rw [Document.ofText, hallowed]
  simp only [hrun]

end MarkupNaming.Yaml
