import MarkupNaming.Yaml.Node
import MarkupNaming.Yaml.Tokens

/-!
# Documents

The graph of nodes that a sequence of tokens describes. The number of a collection is given before
its contents are read, so that an alias within it can refer to it. Collections within each other
take room, of which a reader has as much as its caller leaves to it. A node is read with as much
fuel as there are tokens left to take and brackets or blocks to enter.
-/
namespace MarkupNaming.Yaml
open Text

/-- The tokens that are left, and what they have introduced so far. -/
structure Progress where
  tokens : List Lexeme
  /-- What ended the tokens, if they do not reach the end of the text. -/
  fault : Option Fault
  /-- How many collections may be entered. -/
  room : Nat
  graph : NodeGraph := {}
  /-- Nodes by their anchors. -/
  anchors : List (Text × NodeId) := []
  /-- Starts of tags by their handles. -/
  handles : List (Text × Text) := []

/-- A step that takes tokens, or a fault. -/
abbrev Parse := StateT Progress (Except Fault)

namespace Parse

/-- The next token with the place where it starts. -/
def next : Parse Lexeme := do
  let progress ← get
  match progress.tokens, progress.fault with
  | t :: _, _ => return t
  | [], some fault => throw fault
  | [], none => return ⟨.streamEnd, {}⟩

/-- The next token. -/
def peek : Parse Token := (·.token) <$> next

/-- The place where the next token starts. -/
def place : Parse Mark := (·.start) <$> next

/-- Leave the next token behind. -/
def drop : Parse Unit := modify fun p => { p with tokens := p.tokens.drop 1 }

/-- Take the next token if it satisfies a condition. -/
def take? (p : Token → Bool) : Parse Bool := do
  if p (← peek) then
    drop
    return true
  else return false

/-- End with a rule broken at a place. -/
def fail {α : Type} (breach : Breach) (place : Mark)
    (activity : Option (Activity × Option Mark) := none) : Parse α :=
  throw (.syntaxFault (.broken breach place activity))

/-- End because something else than the next token is expected. -/
def failToFind {α : Type} (activity : Activity) (start : Mark) (what : Expectation) : Parse α := do
  let found ← next
  fail (.expected what (quoted found.token.kind)) found.start (some (activity, some start))

/-- A new node that starts at a place. -/
def add (start : Mark) (tag : Tag) (content : Content) : Parse NodeId := do
  let (n, graph) := (← get).graph.add ⟨tag, content, start⟩
  modify fun p => { p with graph := graph }
  return n

/-- A new node without any text, at a place. -/
def nothing (place : Mark) : Parse NodeId := add place .null (.scalar [])

/-- Remember a node by its anchor. -/
def bind (anchor : Option Text) (n : NodeId) : Parse Unit :=
  match anchor with
  | none => return
  | some name => modify fun p => { p with anchors := (name, n) :: p.anchors }

/-- The name of a kind that is written by a handle and a text at a place. The handle must be
known. -/
def nameOf (start place : Mark) (handle : Option Text) (text : Text) : Parse Text := do
  match handle with
  | none => return text
  | some h =>
    match (← get).handles.lookup h with
    | none => fail (.unknownHandle h) place (some (.node, some start))
    | some front => return front ++ text

/-- The anchor and the tag in front of a node, in either order. -/
def properties : Parse (Option Text × Option Text) := do
  let start ← place
  let tag : Parse (Option Text) := do
    match ← next with
    | ⟨.tag handle text, place⟩ =>
      drop
      return some (← nameOf start place handle text)
    | _ => return none
  let anchor : Parse (Option Text) := do
    match ← peek with
    | .anchor name =>
      drop
      return some name
    | _ => return none
  match ← anchor with
  | some name => return (some name, ← tag)
  | none =>
    -- The handle of a tag is looked up behind an anchor that follows it.
    match ← peek with
    | .tag handle text =>
      drop
      let name ← anchor
      return (name, some (← nameOf start start handle text))
    | _ => return (none, none)

/-- The kind of a collection. -/
def collectionTag (tag : Option Text) (implied : Tag) : Tag :=
  match tag with
  | none => implied
  | some t => if t = [.char '!'] then implied else .ofName t

/-- The kind of a scalar. -/
def scalarTag (tag : Option Text) (text : Text) (isPlain : Bool) : Tag :=
  match tag with
  | none => if isPlain then impliedTag text else .text
  | some t => if t = [.char '!'] then impliedTag text else .ofName t

/-- The anchor of a node that starts at a place must be new. -/
def checkAnchor (start : Mark) (anchor : Option Text) : Parse Unit := do
  match anchor with
  | none => return
  | some name =>
    match (← get).anchors.lookup name with
    | none => return
    | some first =>
      fail .secondAnchor start (some (.anchored name, some ((← get).graph.start first)))

/-- A scalar under its anchor. -/
def scalar (start : Mark) (anchor : Option Text) (tag : Tag) (text : Text) : Parse NodeId := do
  checkAnchor start anchor
  let n ← add start tag (.scalar text)
  bind anchor n
  return n

/-- The contents of a collection, which are entered and left again. -/
def inside {α : Type} (contents : Parse α) : Parse α := do
  match (← get).room with
  | 0 => throw .tooDeep
  | room + 1 =>
    modify fun p => { p with room }
    let a ← contents
    modify fun p => { p with room := room + 1 }
    return a

/-- A collection under its anchor, which is known within its contents. -/
def collection (start : Mark) (anchor : Option Text) (tag : Tag) (contents : Parse Content) :
    Parse NodeId := do
  checkAnchor start anchor
  let n ← add start tag (.sequence [])
  bind anchor n
  let content ← inside contents
  modify fun p => { p with graph := p.graph.set n ⟨tag, content, start⟩ }
  return n

/-- Whether a token ends an entry of a block mapping. -/
def endsEntry : Token → Bool
  | .key | .value | .blockEnd => true
  | _ => false

/-- Whether a token ends an item of a sequence in a block mapping. -/
def endsItem : Token → Bool
  | .blockEntry | .key | .value | .blockEnd => true
  | _ => false

mutual

/-- A node. Blocks start one only outside brackets, and a sequence without indentation only as
an entry of a mapping. -/
def node (inBlock noIndent : Bool) : Nat → Parse NodeId
  | 0 => do nothing (← place)
  | fuel + 1 => do
    let start ← place
    match ← peek with
    | .reference name =>
      drop
      match (← get).anchors.lookup name with
      | none => fail (.undefinedAlias name) start
      | some found => return found
    | _ =>
      let (anchor, tag) ← properties
      let content : Parse NodeId := content start anchor tag inBlock
      let sequence (items : Parse (List NodeId)) : Parse NodeId :=
        collection start anchor (collectionTag tag .sequence) (.sequence <$> items)
      let mapping (entries : Parse (List (NodeId × NodeId))) : Parse NodeId :=
        collection start anchor (collectionTag tag .mapping) (.mapping <$> entries)
      let ⟨token, opening⟩ ← next
      match token with
      | .blockEntry => if noIndent then sequence (plainItems fuel) else content
      | .scalar text isPlain =>
        drop
        scalar start anchor (scalarTag tag text isPlain) text
      | .flowSequenceStart =>
        drop
        sequence (flowItems opening true fuel)
      | .flowMappingStart =>
        drop
        mapping (flowEntries opening true fuel)
      | .blockSequenceStart =>
        if inBlock then
          drop
          sequence (blockItems opening fuel)
        else content
      | .blockMappingStart =>
        if inBlock then
          drop
          mapping (blockEntries opening fuel)
        else content
      | _ => content

/-- The node without text that an anchor or a tag makes; without them, the fault that there is
no node. -/
def content (start : Mark) (anchor tag : Option Text) (inBlock : Bool) : Parse NodeId :=
  if anchor.isSome || tag.isSome then scalar start anchor (scalarTag tag [] tag.isNone) []
  else failToFind (if inBlock then .blockNode else .flowNode) start .nodeContent

/-- The node behind a mark of one character at a place. It has no text if the next token ends it. -/
def nodeBehind (mark : Mark) (ends : Token → Bool) (inBlock noIndent : Bool) :
    Nat → Parse NodeId
  | 0 => nothing mark.right
  | fuel + 1 => do
    if ends (← peek) then nothing mark.right else node inBlock noIndent fuel

/-- The value of an entry, which stands behind a colon or has no text. -/
def entryValue (ends : Token → Bool) (inBlock noIndent : Bool) : Nat → Parse NodeId
  | 0 => do nothing (← place)
  | fuel + 1 => do
    let mark ← place
    if ← take? (· == .value) then nodeBehind mark ends inBlock noIndent fuel else nothing mark

/-- The items of a block sequence, up to its end. -/
def blockItems (opening : Mark) : Nat → Parse (List NodeId)
  | 0 => return []
  | fuel + 1 => do
    let mark ← place
    if ← take? (· == .blockEntry) then
      let ends (t : Token) : Bool := t == .blockEntry || t == .blockEnd
      let item ← nodeBehind mark ends true false fuel
      return item :: (← blockItems opening fuel)
    else if ← take? (· == .blockEnd) then return []
    else failToFind .blockCollection opening .blockEnd

/-- The items of a sequence that is not indented. -/
def plainItems : Nat → Parse (List NodeId)
  | 0 => return []
  | fuel + 1 => do
    let mark ← place
    if ← take? (· == .blockEntry) then
      let item ← nodeBehind mark endsItem true false fuel
      return item :: (← plainItems fuel)
    else return []

/-- The entries of a block mapping, up to its end. -/
def blockEntries (opening : Mark) : Nat → Parse (List (NodeId × NodeId))
  | 0 => return []
  | fuel + 1 => do
    let mark ← place
    if ← take? (· == .key) then
      let key ← nodeBehind mark endsEntry true true fuel
      let value ← entryValue endsEntry true true fuel
      return (key, value) :: (← blockEntries opening fuel)
    else if ← take? (· == .blockEnd) then return []
    else failToFind .blockMapping opening .blockEnd

/-- The key and the value of an entry within brackets, whose key has its mark. -/
def flowEntry (mark : Mark) (ends : Token → Bool) : Nat → Parse (NodeId × NodeId)
  | 0 => do return (← nothing mark, ← nothing mark)
  | fuel + 1 => do
    let key ← nodeBehind mark (fun t => t == .value || ends t) false false fuel
    let value ← entryValue ends false false fuel
    return (key, value)

/-- The items of a flow sequence, up to its bracket. An item may be a mapping of one entry. -/
def flowItems (opening : Mark) (isFirst : Bool) : Nat → Parse (List NodeId)
  | 0 => return []
  | fuel + 1 => do
    if ← take? (· == .flowSequenceEnd) then return []
    else
      if !isFirst then
        if !(← take? (· == .flowEntry)) then failToFind .flowSequence opening .nextItem
      if ← take? (· == .flowSequenceEnd) then return []
      else
        let mark ← place
        let item ←
          if ← take? (· == .key) then
            let ends (t : Token) : Bool := t == .flowEntry || t == .flowSequenceEnd
            collection mark none .mapping (do return .mapping [← flowEntry mark ends fuel])
          else node false false fuel
        return item :: (← flowItems opening false fuel)

/-- The entries of a flow mapping, up to its bracket. A node alone is a key. -/
def flowEntries (opening : Mark) (isFirst : Bool) : Nat → Parse (List (NodeId × NodeId))
  | 0 => return []
  | fuel + 1 => do
    if ← take? (· == .flowMappingEnd) then return []
    else
      if !isFirst then
        if !(← take? (· == .flowEntry)) then failToFind .flowMapping opening .nextEntry
      if ← take? (· == .flowMappingEnd) then return []
      else
        let ends (t : Token) : Bool := t == .flowEntry || t == .flowMappingEnd
        let mark ← place
        let entry ←
          if ← take? (· == .key) then flowEntry mark ends fuel
          else
            let key ← node false false fuel
            pure (key, ← nothing (← place))
        return entry :: (← flowEntries opening false fuel)

end

/-- The handles that every document knows. -/
def defaultHandles : List (Text × Text) := [("!", "!"), ("!!", Tag.commonStart)]

/-- The directives in front of a document. -/
def directives (seenVersion : Bool) (seen : List (Text × Text)) : Nat → Parse (List (Text × Text))
  | 0 => return seen
  | fuel + 1 => do
    match ← next with
    | ⟨.directive d, mark⟩ =>
      drop
      match d with
      | .version major _ =>
        if seenVersion then fail .secondVersion mark
        else if major ≠ 1 then fail .unknownVersion mark
        else directives true seen fuel
      | .handle handle start =>
        if (seen.lookup handle).isSome then fail (.secondHandle handle) mark
        else directives seenVersion ((handle, start) :: seen) fuel
      | .other => directives seenVersion seen fuel
    | _ => return seen

/-- The head of a document that starts with its own mark. -/
def documentHead (fuel : Nat) : Parse Unit := do
  let seen ← directives false [] fuel
  let found ← next
  if found.token == .documentStart then
    drop
    modify fun p => { p with handles := seen ++ defaultHandles }
  else fail (.expected .documentStart (quoted found.token.kind)) found.start

/-- Marks of the end of a document, dropped. -/
def dropEnds : Nat → Parse Unit
  | 0 => return
  | fuel + 1 => do if ← take? (· == .documentEnd) then dropEnds fuel

/-- Whether a token stands in front of a document with its own mark or behind all of them. -/
def isOutside : Token → Bool
  | .directive _ | .documentStart | .streamEnd => true
  | _ => false

/-- The only document of a text, if there is one. -/
def document (fuel : Nat) : Parse (Option NodeId) := do
  let root ←
    if isOutside (← peek) then
      if (← peek) == .streamEnd then pure none
      else
        documentHead fuel
        let found ← next
        if isOutside found.token || found.token == .documentEnd then some <$> nothing found.start
        else some <$> node true false fuel
    else
      modify fun p => { p with handles := defaultHandles }
      some <$> node true false fuel
  dropEnds fuel
  match root, ← next with
  | _, ⟨.streamEnd, _⟩ => return root
  | none, _ => return none
  | some root, second =>
    documentHead fuel
    let first := (← get).graph.start root
    fail .secondDocument second.start (some (.onlyDocument, some first))

end Parse

/-- The nodes of a document, of which one is its root; a text may have no document. -/
structure Document where
  root : Option NodeId
  graph : NodeGraph

/-- The document of a text in which so many collections may stand within each other. -/
def Document.ofText (nesting : Nat) (t : Text) : Except Fault Document :=
  match t.dropWhile isAllowed with
  | c :: rest => .error (.syntaxFault (.unprintable c (t.length - (rest.length + 1))))
  | [] =>
    let tokens := Tokens.ofText t
    let fuel := 2 * tokens.tokens.length + 2
    match (Parse.document fuel).run
        { tokens := tokens.tokens, fault := tokens.fault, room := nesting } with
    | .ok (root, progress) => .ok ⟨root, progress.graph⟩
    | .error fault => .error fault

end MarkupNaming.Yaml
