import MarkupNaming.Proofs.Yaml.Faults.Tokens
import MarkupNaming.Yaml.Document

/-!
# Faults of nodes

What keeps tokens from making nodes: what ended the tokens, a broken rule, or collections within
each other. While collections are entered, as many tokens that open one have been taken; so only a
text with more of them than collections may be nested is too deep.
-/
namespace MarkupNaming.Yaml
open Text

/-- A token that can open a collection. A key does so where it is an item of a list in brackets. -/
def Token.opens : Token → Bool
  | .blockSequenceStart | .blockMappingStart | .flowSequenceStart | .flowMappingStart
  | .blockEntry | .key => true
  | _ => false

/-- How many tokens can open a collection. -/
def openings (tokens : List Lexeme) : Nat := tokens.countP (·.token.opens)

theorem openings_drop_le (tokens : List Lexeme) (n : Nat) :
    openings (tokens.drop n) ≤ openings tokens :=
  (List.drop_sublist n tokens).countP_le

namespace Parse

/-- What limits the nodes of tokens. -/
structure Limits where
  /-- What ended the tokens. -/
  ended : Option Fault
  /-- How many collections may stand within each other. -/
  nesting : Nat
  /-- How many of the tokens can open a collection. -/
  openings : Nat

/-- A fault that tokens can end in. -/
inductive Halts (l : Limits) : Fault → Prop
  | syntaxFault (fault : SyntaxFault) : Halts l (.syntaxFault fault)
  | ended {fault : Fault} (h : l.ended = some fault) : Halts l fault
  | tooDeep (h : l.nesting < l.openings) : Halts l .tooDeep

variable {α β : Type} {l : Limits} {k : Nat} {m : Parse α} {f : α → Parse β}
  {tokens : List Lexeme} {T T' : List Lexeme → Prop} {start : Mark} {anchor tag : Option Text}

/-- The progress within so many collections, with tokens of which a condition holds. -/
structure At (l : Limits) (entered : Nat) (T : List Lexeme → Prop) (p : Progress) : Prop where
  fault : p.fault = l.ended
  room : p.room + entered = l.nesting
  tokens : T p.tokens

/-- So few tokens are left that `entered` more openings make no more than there are. -/
def HasRoom (l : Limits) (entered : Nat) (tokens : List Lexeme) : Prop :=
  entered + openings tokens ≤ l.openings

/-- The next token is a certain one. -/
def Faces (t : Token) (tokens : List Lexeme) : Prop :=
  (tokens.head?.map (·.token)).getD .streamEnd = t

theorem HasRoom.drop (h : HasRoom l k tokens) (n : Nat) : HasRoom l k (tokens.drop n) :=
  Nat.le_trans (Nat.add_le_add_left (openings_drop_le tokens n) k) h

theorem HasRoom.of_succ (h : HasRoom l (k + 1) tokens) : HasRoom l k tokens :=
  Nat.le_trans (Nat.add_le_add_right (Nat.le_succ k) _) h

/-- A token that opens a collection leaves room for it. -/
theorem HasRoom.enter {t : Token} (h : HasRoom l k tokens) (hfaces : Faces t tokens)
    (hopens : t.opens = true) : HasRoom l (k + 1) (tokens.drop 1) := by
  cases tokens with
  | nil =>
    subst hfaces
    cases hopens
  | cons x tokens =>
    obtain rfl : x.token = t := hfaces
    have hcons : openings (x :: tokens) = openings tokens + 1 := List.countP_cons_of_pos hopens
    rw [HasRoom, hcons] at h
    rw [List.drop_one, List.tail_cons, HasRoom]
    omega

/-! ## Parts that keep the depth -/

/-- A part that keeps the depth, and the tokens few enough. -/
abbrev Stays (l : Limits) (k : Nat) (m : Parse α) : Prop :=
  Ends (At l k (HasRoom l k)) m (fun _ => At l k (HasRoom l k)) (Halts l)

theorem stays_pure {a : α} : Stays l k (pure a : Parse α) := ends_pure fun _ hp => hp

theorem stays_map (g : α → β) (h : Stays l k m) : Stays l k (g <$> m) :=
  h.map fun _ _ hp => hp

theorem stays_get : Stays l k (get : Parse Progress) := ends_get.imp fun _ _ hp => hp.2

theorem stays_fail {breach : Breach} {place : Mark} {activity : Option (Activity × Option Mark)} :
    Stays l k (fail breach place activity : Parse α) :=
  ends_throw fun _ _ => .syntaxFault _

/-- The next token is known then. -/
theorem ends_next : Ends (At l k T) next
    (fun x => At l k fun tokens => T tokens ∧ Faces x.token tokens) (Halts l) := by
  refine ends_get.bind fun p => ?_
  rintro _ ⟨rfl, hfault, hroom, htokens⟩
  split
  · next x rest _ hleft =>
    rw [hleft] at htokens
    exact ⟨hfault, hroom, by rw [hleft]; exact ⟨htokens, rfl⟩⟩
  · next fault _ hend => exact .ended (hfault.symm.trans hend)
  · next hleft _ =>
    rw [hleft] at htokens
    exact ⟨hfault, hroom, by rw [hleft]; exact ⟨htokens, rfl⟩⟩

theorem ends_drop (h : ∀ tokens, T tokens → T' (tokens.drop 1)) :
    Ends (At l k T) drop (fun _ => At l k T') (Halts l) :=
  ends_modify fun _ hp => ⟨hp.fault, hp.room, h _ hp.tokens⟩

theorem stays_next : Stays l k next :=
  ends_next.imp fun _ _ hp => ⟨hp.fault, hp.room, hp.tokens.1⟩

theorem stays_drop : Stays l k drop := ends_drop fun _ h => h.drop 1

theorem ends_peek : Ends (At l k T) peek
    (fun t => At l k fun tokens => T tokens ∧ Faces t tokens) (Halts l) := by
  unfold peek
  exact ends_next.map fun _ _ hp => hp

theorem ends_place : Ends (At l k T) place (fun _ => At l k T) (Halts l) := by
  unfold place
  exact ends_next.map fun _ _ hp => ⟨hp.fault, hp.room, hp.tokens.1⟩

theorem stays_peek : Stays l k peek := by
  unfold peek
  exact stays_map _ stays_next

theorem stays_place : Stays l k place := ends_place

theorem stays_take? {p : Token → Bool} : Stays l k (take? p) :=
  stays_peek.bind fun _ => .ite (stays_drop.bind fun _ => stays_pure) (stays_pure)

/-- A token that is known to satisfy a condition is taken. -/
theorem ends_take? {t : Token} {p : Token → Bool} (hp : p t = true)
    (hdrop : ∀ tokens, T tokens → Faces t tokens → T' (tokens.drop 1)) :
    Ends (At l k fun tokens => T tokens ∧ Faces t tokens) (take? p)
      (fun taken q => taken = true ∧ At l k T' q) (Halts l) := by
  refine ends_peek.bind fun next => .of_each fun q hq => ?_
  obtain rfl : t = next := hq.tokens.1.2.symm.trans hq.tokens.2
  have htaken : Ends (At l k fun tokens => T tokens ∧ Faces t tokens) drop
      (fun _ => At l k T') (Halts l) :=
    ends_drop fun tokens ht => hdrop tokens ht.1 ht.2
  rw [if_pos hp]
  refine .pre (htaken.bind fun _ => ends_pure fun _ hq' => ⟨rfl, hq'⟩) ?_
  rintro _ rfl
  exact ⟨hq.fault, hq.room, hq.tokens.1⟩

/-- Whether a token is a certain one that opens a collection. If so, there is room for that. -/
theorem ends_take?_opening {t : Token} (hopens : t.opens = true) :
    Ends (At l k (HasRoom l k)) (take? (· == t))
      (fun taken => At l k (HasRoom l (if taken then k + 1 else k))) (Halts l) := by
  refine ends_peek.bind fun next => ?_
  split
  · next hnext =>
    obtain rfl : next = t := eq_of_beq hnext
    exact (ends_drop fun _ ht => ht.1.enter ht.2 hopens).bind fun _ => ends_pure fun _ hp => hp
  · exact ends_pure fun _ hp => ⟨hp.fault, hp.room, hp.tokens.1⟩

theorem stays_failToFind {activity : Activity} {what : Expectation} :
    Stays l k (failToFind activity start what : Parse α) :=
  stays_next.bind fun _ => stays_fail

/-- What is added to the graph has no effect on the tokens. -/
theorem ends_add {tag : Tag} {content : Content} :
    Ends (At l k T) (add start tag content) (fun _ => At l k T) (Halts l) :=
  (ends_get.imp fun _ _ hp => hp.2).bind fun _ =>
    (ends_modify fun _ hp => ⟨hp.fault, hp.room, hp.tokens⟩).bind fun _ => ends_pure fun _ hp => hp

theorem ends_bind {n : NodeId} :
    Ends (At l k T) (Parse.bind anchor n) (fun _ => At l k T) (Halts l) := by
  cases anchor with
  | none => exact ends_pure fun _ hp => hp
  | some name => exact ends_modify fun _ hp => ⟨hp.fault, hp.room, hp.tokens⟩

theorem ends_checkAnchor :
    Ends (At l k T) (checkAnchor start anchor) (fun _ => At l k T) (Halts l) := by
  cases anchor with
  | none => exact ends_pure fun _ hp => hp
  | some name =>
    refine (ends_get.imp fun _ _ hp => hp.2).bind fun p => ?_
    split
    · exact ends_pure fun _ hp => hp
    · refine (ends_get.imp fun _ _ hp => hp.2).bind fun _ => ?_
      exact ends_throw fun _ _ => .syntaxFault _

theorem stays_nothing : Stays l k (nothing start) := ends_add

theorem stays_nameOf {place : Mark} {handle : Option Text} {text : Text} :
    Stays l k (nameOf start place handle text) := by
  cases handle with
  | none => exact stays_pure
  | some h =>
    refine stays_get.bind fun p => ?_
    split
    · exact stays_fail
    · exact stays_pure

theorem stays_anchor : Stays l k (do
    match ← peek with
    | .anchor name => drop; return some name
    | _ => return none) := by
  refine stays_peek.bind fun token => ?_
  split
  · exact stays_drop.bind fun _ => stays_pure
  · exact stays_pure

theorem stays_tag : Stays l k (do
    match ← next with
    | ⟨.tag handle text, place⟩ => drop; return some (← nameOf start place handle text)
    | _ => return none) := by
  refine stays_next.bind fun token => ?_
  split
  · exact stays_drop.bind fun _ => stays_nameOf.bind fun _ => stays_pure
  · exact stays_pure

theorem stays_properties : Stays l k properties := by
  refine stays_place.bind fun start => stays_anchor.bind fun name => ?_
  split
  · exact stays_tag.bind fun _ => stays_pure
  · refine stays_peek.bind fun token => ?_
    split
    · exact stays_drop.bind fun _ => stays_anchor.bind fun _ =>
        stays_nameOf.bind fun _ => stays_pure
    · exact stays_pure

theorem stays_scalar {tag : Tag} {text : Text} :
    Stays l k (scalar start anchor tag text) :=
  ends_checkAnchor.bind fun _ => ends_add.bind fun _ => ends_bind.bind fun _ =>
    stays_pure

theorem stays_content {inBlock : Bool} :
    Stays l k (content start anchor tag inBlock) :=
  .ite stays_scalar stays_failToFind

/-! ## Collections -/

/-- What stands within a collection is entered if there is room for it. -/
theorem ends_inside {contents : Parse α} (hroom : ∀ tokens, T tokens → k < l.openings)
    (hcontents : Ends (At l (k + 1) T) contents (fun _ => At l (k + 1) T') (Halts l)) :
    Ends (At l k T) (inside contents) (fun _ => At l k T') (Halts l) := by
  refine ends_get.bind fun p => .of_each ?_
  rintro _ ⟨rfl, hp⟩
  have hleft := hp.room
  split
  · next hfull =>
    rintro _ rfl
    exact .tooDeep (by have := hroom _ hp.tokens; omega)
  · next room hsome =>
    have hentered : Ends (· = p) (modify fun q => { q with room })
        (fun _ => At l (k + 1) T) (Halts l) :=
      ends_modify (by rintro _ rfl; exact ⟨hp.fault, by dsimp only; omega, hp.tokens⟩)
    refine hentered.bind fun _ => hcontents.bind fun a => ?_
    exact (ends_modify fun _ hq => ⟨hq.fault, by dsimp only; omega, hq.tokens⟩).bind fun _ =>
      ends_pure fun _ hq => hq

theorem ends_collection {contents : Parse Content} (hroom : ∀ tokens, T tokens → k < l.openings)
    (hcontents : Ends (At l (k + 1) T) contents (fun _ => At l (k + 1) T') (Halts l)) {tag : Tag} :
    Ends (At l k T) (collection start anchor tag contents) (fun _ => At l k T') (Halts l) := by
  refine ends_checkAnchor.bind fun _ => ends_add.bind fun n => ends_bind.bind fun _ => ?_
  refine (ends_inside hroom hcontents).bind fun content => ?_
  exact (ends_modify fun _ hq => ⟨hq.fault, hq.room, hq.tokens⟩).bind fun _ =>
    ends_pure fun _ hq => hq

/-- A collection that the token in front of it opens. -/
theorem stays_collection {contents : Parse Content} {tag : Tag}
    (hcontents : Stays l (k + 1) contents) :
    Ends (At l k (HasRoom l (k + 1))) (collection start anchor tag contents)
      (fun _ => At l k (HasRoom l k)) (Halts l) :=
  ends_collection (fun _ h => by unfold HasRoom at h; omega)
    (hcontents.imp fun _ _ hp => ⟨hp.fault, hp.room, hp.tokens.of_succ⟩)

/-! ## Nodes -/

/-- With some fuel, every part of a document keeps the depth and has its openings counted. -/
structure Bounded (l : Limits) (fuel : Nat) : Prop where
  node {k : Nat} {inBlock noIndent : Bool} :
    Stays l k (Parse.node inBlock noIndent fuel)
  nodeBehind {k : Nat} {mark : Mark} {ends : Token → Bool} {inBlock noIndent : Bool} :
    Stays l k (Parse.nodeBehind mark ends inBlock noIndent fuel)
  entryValue {k : Nat} {ends : Token → Bool} {inBlock noIndent : Bool} :
    Stays l k (Parse.entryValue ends inBlock noIndent fuel)
  blockItems {k : Nat} {opening : Mark} : Stays l k (Parse.blockItems opening fuel)
  plainItems {k : Nat} : Stays l k (Parse.plainItems fuel)
  /-- The first item of a sequence that is not indented has the token that opens it. -/
  firstItem {k : Nat} :
    Ends (At l (k + 1) fun tokens => HasRoom l k tokens ∧ Faces .blockEntry tokens)
      (Parse.plainItems fuel) (fun _ => At l (k + 1) (HasRoom l k)) (Halts l)
  blockEntries {k : Nat} {opening : Mark} : Stays l k (Parse.blockEntries opening fuel)
  flowEntry {k : Nat} {mark : Mark} {ends : Token → Bool} :
    Stays l k (Parse.flowEntry mark ends fuel)
  flowItems {k : Nat} {opening : Mark} {isFirst : Bool} :
    Stays l k (Parse.flowItems opening isFirst fuel)
  flowEntries {k : Nat} {opening : Mark} {isFirst : Bool} :
    Stays l k (Parse.flowEntries opening isFirst fuel)

theorem bounded_zero : Bounded l 0 where
  node := stays_place.bind fun _ => stays_nothing
  nodeBehind := stays_nothing
  entryValue := stays_place.bind fun _ => stays_nothing
  blockItems := stays_pure
  plainItems := stays_pure
  firstItem := ends_pure fun _ hp => ⟨hp.fault, hp.room, hp.tokens.1⟩
  blockEntries := stays_pure
  flowEntry := stays_nothing.bind fun _ => stays_nothing.bind fun _ => stays_pure
  flowItems := stays_pure
  flowEntries := stays_pure

/-- A collection behind the token that opens it. -/
theorem stays_opened {t : Token} {contents : Parse Content} {tag : Tag} (hopens : t.opens = true)
    (hcontents : Stays l (k + 1) contents) :
    Ends (At l k fun tokens => HasRoom l k tokens ∧ Faces t tokens)
      (do drop; collection start anchor tag contents) (fun _ => At l k (HasRoom l k))
      (Halts l) :=
  (ends_drop fun _ ht => ht.1.enter ht.2 hopens).bind fun _ => stays_collection hcontents

/-- Within brackets a comma stands in front of what is not the first. -/
theorem stays_separated {isFirst : Bool} {activity : Activity} {what : Expectation}
    {rest : PUnit → Parse α} (hrest : Stays l k (rest ⟨⟩)) :
    Stays l k (if (!isFirst) = true then do
        let found ← take? (· == .flowEntry)
        if (!found) = true then do
          let none ← failToFind activity start what
          rest none
        else rest ⟨⟩
      else rest ⟨⟩) := by
  refine .ite (stays_take?.bind fun found => .ite ?_ hrest) hrest
  exact stays_failToFind.bind fun _ => hrest

namespace Bounded
variable {fuel : Nat} {mark opening : Mark} {ends : Token → Bool} {inBlock noIndent isFirst : Bool}
  (h : Bounded l fuel)
include h

theorem node_succ : Stays l k (Parse.node inBlock noIndent (fuel + 1)) := by
  rw [Parse.node]
  refine stays_place.bind fun start => stays_peek.bind fun token => ?_
  split
  · refine stays_drop.bind fun _ => stays_get.bind fun p => ?_
    split
    · exact stays_fail
    · exact stays_pure
  · refine stays_properties.bind fun (anchor, tag) => ends_next.bind fun ⟨token, opening⟩ => ?_
    have hcontent : Ends (At l k fun tokens => HasRoom l k tokens ∧ Faces token tokens)
        (Parse.content start anchor tag inBlock) (fun _ => At l k (HasRoom l k))
        (Halts l) :=
      stays_content.pre fun _ hp => ⟨hp.fault, hp.room, hp.tokens.1⟩
    dsimp only
    split
    · refine .ite (ends_collection (fun _ ht => ?_) (h.firstItem.map fun _ _ hp => hp)) hcontent
      exact Nat.lt_of_lt_of_le (Nat.lt_succ_self k)
        (Nat.le_trans (Nat.le_add_right _ _) (ht.1.enter ht.2 rfl))
    · refine (ends_drop fun _ ht => ht.1.drop 1).bind fun _ => stays_scalar
    · exact stays_opened rfl (stays_map _ h.flowItems)
    · exact stays_opened rfl (stays_map _ h.flowEntries)
    · exact .ite (stays_opened rfl (stays_map _ h.blockItems)) hcontent
    · exact .ite (stays_opened rfl (stays_map _ h.blockEntries)) hcontent
    · exact hcontent

theorem nodeBehind_succ :
    Stays l k (Parse.nodeBehind mark ends inBlock noIndent (fuel + 1)) := by
  rw [Parse.nodeBehind]
  exact stays_peek.bind fun _ => .ite stays_nothing h.node

theorem entryValue_succ :
    Stays l k (Parse.entryValue ends inBlock noIndent (fuel + 1)) := by
  rw [Parse.entryValue]
  exact stays_place.bind fun _ => stays_take?.bind fun _ => .ite h.nodeBehind stays_nothing

theorem blockItems_succ : Stays l k (Parse.blockItems opening (fuel + 1)) := by
  rw [Parse.blockItems]
  refine stays_place.bind fun _ => stays_take?.bind fun _ => .ite ?_ ?_
  · exact h.nodeBehind.bind fun _ => h.blockItems.bind fun _ => stays_pure
  · exact stays_take?.bind fun _ => .ite stays_pure stays_failToFind

theorem plainItems_succ : Stays l k (Parse.plainItems (fuel + 1)) := by
  rw [Parse.plainItems]
  refine stays_place.bind fun _ => stays_take?.bind fun _ => .ite ?_ stays_pure
  exact h.nodeBehind.bind fun _ => h.plainItems.bind fun _ => stays_pure

theorem firstItem_succ :
    Ends (At l (k + 1) fun tokens => HasRoom l k tokens ∧ Faces .blockEntry tokens)
      (Parse.plainItems (fuel + 1)) (fun _ => At l (k + 1) (HasRoom l k))
      (Halts l) := by
  rw [Parse.plainItems]
  refine ends_place.bind fun mark => ?_
  refine (ends_take? rfl fun _ hfits hfaces => hfits.enter hfaces rfl).bind fun taken => ?_
  refine .of_each fun q hq => ?_
  obtain ⟨rfl, hq⟩ := hq
  have hitems : Stays l (k + 1) (do
      let item ← Parse.nodeBehind mark endsItem true false fuel
      return item :: (← Parse.plainItems fuel)) :=
    h.nodeBehind.bind fun _ => h.plainItems.bind fun _ => stays_pure
  rw [if_pos rfl]
  refine (hitems.pre (by rintro _ rfl; exact hq)).imp fun _ _ hp => ?_
  exact ⟨hp.fault, hp.room, hp.tokens.of_succ⟩

theorem blockEntries_succ : Stays l k (Parse.blockEntries opening (fuel + 1)) := by
  rw [Parse.blockEntries]
  refine stays_place.bind fun _ => stays_take?.bind fun _ => .ite ?_ ?_
  · exact h.nodeBehind.bind fun _ => h.entryValue.bind fun _ => h.blockEntries.bind fun _ =>
      stays_pure
  · exact stays_take?.bind fun _ => .ite stays_pure stays_failToFind

theorem flowEntry_succ : Stays l k (Parse.flowEntry mark ends (fuel + 1)) := by
  rw [Parse.flowEntry]
  exact h.nodeBehind.bind fun _ => h.entryValue.bind fun _ => stays_pure

theorem flowItems_succ : Stays l k (Parse.flowItems opening isFirst (fuel + 1)) := by
  rw [Parse.flowItems]
  refine stays_take?.bind fun _ => .ite stays_pure (stays_separated ?_)
  refine stays_take?.bind fun _ => .ite stays_pure ?_
  have hmore (item : NodeId) : Stays l k
      (do return item :: (← Parse.flowItems opening false fuel)) :=
    h.flowItems.bind fun _ => stays_pure
  refine stays_place.bind fun _ => (ends_take?_opening rfl).bind fun isKey => ?_
  cases isKey with
  | false => exact h.node.bind hmore
  | true =>
    exact (stays_collection (h.flowEntry.bind fun _ => stays_pure)).bind hmore

theorem flowEntries_succ :
    Stays l k (Parse.flowEntries opening isFirst (fuel + 1)) := by
  rw [Parse.flowEntries]
  refine stays_take?.bind fun _ => .ite stays_pure (stays_separated ?_)
  refine stays_take?.bind fun _ => .ite stays_pure ?_
  have hmore (entry : NodeId × NodeId) : Stays l k
      (do return entry :: (← Parse.flowEntries opening false fuel)) :=
    h.flowEntries.bind fun _ => stays_pure
  refine stays_place.bind fun _ => stays_take?.bind fun _ => .ite (h.flowEntry.bind hmore) ?_
  exact h.node.bind fun _ => stays_place.bind fun _ => stays_nothing.bind fun _ => hmore _

end Bounded

/-- A part of a document with more fuel is put together from parts with less. -/
theorem bounded (fuel : Nat) : Bounded l fuel := by
  induction fuel with
  | zero => exact bounded_zero
  | succ fuel h =>
    exact ⟨h.node_succ, h.nodeBehind_succ, h.entryValue_succ, h.blockItems_succ, h.plainItems_succ,
      h.firstItem_succ, h.blockEntries_succ, h.flowEntry_succ, h.flowItems_succ, h.flowEntries_succ⟩

/-! ## Documents -/

theorem stays_directives (seenVersion : Bool) (seen : List (Text × Text)) (fuel : Nat) :
    Stays l k (directives seenVersion seen fuel) := by
  induction fuel generalizing seenVersion seen with
  | zero => exact stays_pure
  | succ fuel ih =>
    rw [directives]
    refine stays_next.bind fun token => ?_
    split
    · refine stays_drop.bind fun _ => ?_
      split
      · exact .ite stays_fail (.ite stays_fail (ih _ _))
      · exact .ite stays_fail (ih _ _)
      · exact ih _ _
    · exact stays_pure

theorem stays_handles {handles : List (Text × Text)} :
    Stays l k (modify fun p => { p with handles := handles }) :=
  ends_modify fun _ hp => ⟨hp.fault, hp.room, hp.tokens⟩

theorem stays_documentHead {fuel : Nat} : Stays l k (documentHead fuel) :=
  (stays_directives _ _ _).bind fun _ => stays_next.bind fun _ =>
    .ite (stays_drop.bind fun _ => stays_handles) stays_fail

theorem stays_dropEnds (fuel : Nat) : Stays l k (dropEnds fuel) := by
  induction fuel with
  | zero => exact stays_pure
  | succ fuel ih => exact stays_take?.bind fun _ => .ite ih stays_pure

/-- Behind the node of a document comes the end, or another document. -/
theorem stays_documentEnd (fuel : Nat) (root : Option NodeId) : Stays l k (do
    dropEnds fuel
    match root, ← next with
    | _, ⟨.streamEnd, _⟩ => return root
    | none, _ => return none
    | some root, second =>
      documentHead fuel
      let first := (← get).graph.start root
      fail .secondDocument second.start (some (.onlyDocument, some first))) := by
  refine (stays_dropEnds fuel).bind fun _ => stays_next.bind fun second => ?_
  split
  · exact stays_pure
  · exact stays_pure
  · exact stays_documentHead.bind fun _ => stays_get.bind fun _ => stays_fail

theorem stays_document (fuel : Nat) : Stays l k (document fuel) := by
  have hnode : Stays l k (some <$> node true false fuel) :=
    stays_map some (bounded fuel).node
  have hwhole := hnode.bind (stays_documentEnd fuel)
  unfold document
  refine stays_peek.bind fun _ => .ite ?_ (stays_handles.bind fun _ => hwhole)
  refine stays_peek.bind fun _ => .ite (stays_pure.bind (stays_documentEnd fuel)) ?_
  refine stays_documentHead.bind fun _ => stays_next.bind fun _ => .ite ?_ hwhole
  exact (stays_map some stays_nothing).bind (stays_documentEnd fuel)

end Parse
end MarkupNaming.Yaml
