import MarkupNaming.Yaml.Property
import MarkupNaming.Yaml.Scalar.Block

/-!
# Token sequences

The tokens of a text in order. Indentation opens and closes block collections. A node that could
be the key of a mapping is remembered until its line ends; a colon then turns it into a key, and
the tokens for that are put in front of it. A fault ends the sequence, and with it everything from
the first token on that could still have become a key.
-/
namespace MarkupNaming.Yaml
open Text

/-- A token that could start the key of a mapping, by the place where it starts. -/
structure PossibleKey extends Mark where
  /-- The brackets around it. -/
  level : Nat
  /-- Its number among the tokens. -/
  number : Nat
  isRequired : Bool

/-- The tokens read so far, and what decides how to go on. -/
structure Reading where
  source : Source
  /-- The tokens, last one first. -/
  tokens : List Lexeme := []
  /-- The brackets that are open. -/
  level : Nat := 0
  indent : Int := -1
  /-- The indentations of the surrounding blocks, innermost first. -/
  outer : List Int := []
  keyAllowed : Bool := true
  keys : List PossibleKey := []
  isDone : Bool := false

namespace Reading

/-- Whether brackets are open. -/
def inFlow (r : Reading) : Bool := r.level != 0

/-- A token that starts here, behind those read so far. -/
def push (r : Reading) (t : Token) : Reading :=
  { r with tokens := ⟨t, r.source.toMark⟩ :: r.tokens }

/-- A token put in front of a possible key, where it starts as well. -/
def insert (r : Reading) (k : PossibleKey) (t : Token) : Reading :=
  let behind := r.tokens.length - k.number
  { r with tokens := r.tokens.take behind ++ ⟨t, k.toMark⟩ :: r.tokens.drop behind }

/-- Reading goes on from a position. -/
def moveTo (r : Reading) (s : Source) : Reading := { r with source := s }

/-- Reading goes on behind a token of `width` characters that starts here. -/
def take (r : Reading) (t : Token) (width : Nat := 1) : Reading :=
  (r.push t).moveTo (r.source.skip width)

/-- Whether the line of a possible key has ended, or the key is too long. -/
def isStale (r : Reading) (k : PossibleKey) : Bool :=
  k.line != r.source.line || 1024 < r.source.index - k.index

/-- The possible keys without some of them, none of which may be required. -/
def dropKeys (r : Reading) (dropped : PossibleKey → Bool) : Except Fault Reading :=
  match r.keys.find? fun k => dropped k && k.isRequired with
  | some k => broken .simpleKey k.toMark .noColon r.source
  | none => .ok { r with keys := r.keys.filter (!dropped ·) }

/-- The possible keys without those whose line has ended. -/
def dropStale (r : Reading) : Except Fault Reading := r.dropKeys r.isStale

/-- The possible keys without the one within the same brackets. -/
def dropKey (r : Reading) : Except Fault Reading := r.dropKeys (·.level == r.level)

/-- The next token remembered as a possible key. -/
def saveKey (r : Reading) : Except Fault Reading :=
  if r.keyAllowed then do
    let r ← r.dropKey
    let key : PossibleKey :=
      { r.source.toMark with
        level := r.level
        number := r.tokens.length
        isRequired := !r.inFlow && r.indent == r.source.column }
    return { r with keys := key :: r.keys }
  else .ok r

/-- Block collections indented by more than `column` closed. -/
def unwind (r : Reading) (column : Int) : Reading :=
  if r.inFlow then r
  else
    let closed := (r.indent :: r.outer).takeWhile (column < ·)
    match (r.indent :: r.outer).drop closed.length with
    | indent :: outer =>
      { r with
        indent := indent
        outer := outer
        tokens := closed.map (fun _ => ⟨.blockEnd, r.source.toMark⟩) ++ r.tokens }
    | [] => r

/-- A column as the indentation of a new block, if it is greater than the current one. -/
def indentTo (r : Reading) (column : Nat) : Option Reading :=
  if r.indent < column then some { r with indent := column, outer := r.indent :: r.outer }
  else none

/-- A block opened at the current column, if that is greater than the current indentation. -/
def openBlock (r : Reading) (t : Token) : Reading :=
  match r.indentTo r.source.column with
  | some opened => opened.push t
  | none => r

/-- The position of the next token. A line break outside brackets makes a key possible. -/
def skipToToken : Nat → Reading → Reading
  | 0, r => r
  | fuel + 1, r =>
    let s := r.source.skipSpaces.skipComment
    match s.lineBreak? with
    | none => r.moveTo s
    | some (_, behind) =>
      skipToToken fuel { r with source := behind, keyAllowed := r.keyAllowed || !r.inFlow }

/-- A token of three characters that ends every block and possible key. -/
def documentMark (r : Reading) (t : Token) : Except Fault Reading := do
  let r ← (r.unwind (-1)).dropKey
  return { r with keyAllowed := false }.take t 3

/-- The end of the text, which ends every block and possible key. -/
def finish (r : Reading) : Except Fault Reading := do
  let r ← (r.unwind (-1)).dropKey
  return { r with keyAllowed := false, keys := [], isDone := true }.push .streamEnd

/-- A directive, which ends every block and possible key. -/
def readDirectiveLine (r : Reading) : Except Fault Reading := do
  let r ← (r.unwind (-1)).dropKey
  let (t, s) ← readDirective r.source
  return ({ r with keyAllowed := false }.push t).moveTo s

/-- A bracket that opens, which could itself start a key. -/
def openFlow (r : Reading) (t : Token) : Except Fault Reading := do
  let r ← r.saveKey
  return { r with level := r.level + 1, keyAllowed := true }.take t

/-- A bracket that closes. -/
def closeFlow (r : Reading) (t : Token) : Except Fault Reading := do
  let r ← r.dropKey
  return { r with level := r.level - 1, keyAllowed := false }.take t

/-- A comma, behind which a key may start. -/
def readFlowEntry (r : Reading) : Except Fault Reading := do
  let r ← { r with keyAllowed := true }.dropKey
  return r.take .flowEntry

/-- The fault that something may not start here. -/
def misplaced {α : Type} (r : Reading) (what : Text) : Except Fault α :=
  .error (.syntaxFault (.broken (.misplaced what) r.source.toMark none))

/-- A dash, which opens a sequence where it is indented further than the block around it. -/
def readBlockEntry (r : Reading) : Except Fault Reading :=
  if !r.inFlow && !r.keyAllowed then r.misplaced "sequence entries"
  else do
    let r := if r.inFlow then r else r.openBlock .blockSequenceStart
    let r ← { r with keyAllowed := true }.dropKey
    return r.take .blockEntry

/-- A question mark, which opens a mapping where it is indented further. -/
def readKey (r : Reading) : Except Fault Reading :=
  if !r.inFlow && !r.keyAllowed then r.misplaced "mapping keys"
  else do
    let r := if r.inFlow then r else r.openBlock .blockMappingStart
    let r ← { r with keyAllowed := !r.inFlow }.dropKey
    return r.take .key

/-- A colon. It makes a key of the node that could be one, or else is the value of an empty key. -/
def readValue (r : Reading) : Except Fault Reading :=
  match r.keys.find? (·.level == r.level) with
  | some k =>
    let r := ({ r with keys := r.keys.filter (·.level != r.level) }).insert k .key
    let r :=
      if r.inFlow then r
      else
        match r.indentTo k.column with
        | some opened => opened.insert k .blockMappingStart
        | none => r
    .ok ({ r with keyAllowed := false }.take .value)
  | none =>
    if !r.inFlow && !r.keyAllowed then r.misplaced "mapping values"
    else do
      let r := if r.inFlow then r else r.openBlock .blockMappingStart
      let r ← { r with keyAllowed := !r.inFlow }.dropKey
      return r.take .value

/-- A token that could be a key. -/
def readProperty (r : Reading) (read : Source → Except Fault (Token × Source)) :
    Except Fault Reading := do
  let r ← r.saveKey
  let (t, s) ← read r.source
  return ({ r with keyAllowed := false }.push t).moveTo s

/-- A scalar of whole lines, behind which a key may start. -/
def readBlockScalar (r : Reading) (folded : Bool) : Except Fault Reading := do
  let r ← { r with keyAllowed := true }.dropKey
  let (text, s) ← readBlock folded r.indent r.source
  return (r.push (.scalar text false)).moveTo s

/-- A scalar without quotes. A key may start behind it if it ends with a line. -/
def readPlainScalar (r : Reading) : Except Fault Reading := do
  let r ← r.saveKey
  let (text, s, broken) := readPlain r.inFlow (r.indent + 1).toNat r.source
  return ({ r with keyAllowed := broken }.push (.scalar text true)).moveTo s

/-- Whether a character may start a plain scalar whatever follows it. -/
def startsPlain (c : Code) : Bool :=
  !isGap c && !(("-?:,[]#&*!|>'\"%@`" : Text).contains c) && c != '\x7b' && c != '\x7d'

/-- One more token, with the tokens that come with it. -/
def step (r : Reading) : Except Fault Reading := do
  let r ← (skipToToken r.source.rest.length r).dropStale
  let r := r.unwind r.source.column
  let atStart := r.source.column == 0
  match r.source.rest with
  | [] => r.finish
  | c :: rest =>
    if c = '%' ∧ atStart then r.readDirectiveLine
    else if c = '-' ∧ atStart ∧ r.source.atSeparator then r.documentMark .documentStart
    else if c = '.' ∧ atStart ∧ r.source.atSeparator then r.documentMark .documentEnd
    else if c = '[' then r.openFlow .flowSequenceStart
    else if c = '\x7b' then r.openFlow .flowMappingStart
    else if c = ']' then r.closeFlow .flowSequenceEnd
    else if c = '\x7d' then r.closeFlow .flowMappingEnd
    else if c = ',' then r.readFlowEntry
    else if c = '-' ∧ atGap rest then r.readBlockEntry
    else if c = '?' ∧ (r.inFlow ∨ atGap rest) then r.readKey
    else if c = ':' ∧ (r.inFlow ∨ atGap rest) then r.readValue
    else if c = '*' then r.readProperty fun s => do
      let (name, s) ← readName .reference s
      return (.reference name, s)
    else if c = '&' then r.readProperty fun s => do
      let (name, s) ← readName .anchor s
      return (.anchor name, s)
    else if c = '!' then r.readProperty readTag
    else if c = '|' ∧ !r.inFlow then r.readBlockScalar false
    else if c = '>' ∧ !r.inFlow then r.readBlockScalar true
    else if c = '\'' ∨ c = '"' then r.readProperty fun s => do
      let (text, s) ← readQuoted c s
      return (.scalar text false, s)
    else if startsPlain c ∨
        (!atGap rest ∧ (c = '-' ∨ (!r.inFlow ∧ (c = '?' ∨ c = ':')))) then r.readPlainScalar
    else
      let fault : SyntaxFault :=
        .broken (.startsNoToken r.source.found) r.source.toMark (some (.nextToken, none))
      .error (.syntaxFault fault)

end Reading

/-- The tokens of a text up to its end, or up to a fault. -/
structure Tokens where
  tokens : List Lexeme
  fault : Option Fault := none

namespace Tokens

/-- The tokens of a reading that a fault ends: those in front of the first possible key. -/
def upToFault (r : Reading) (fault : Fault) : Tokens :=
  let count := (r.keys.map (·.number)).foldl min r.tokens.length
  { tokens := r.tokens.reverse.take count, fault := some fault }

/-- The tokens behind a reading. Each step reads at least one character until the end. A key that
turns out to be missing is a fault of the step in which its line ends. -/
def read : Nat → Reading → Tokens
  | 0, r => { tokens := r.tokens.reverse }
  | fuel + 1, r =>
    match r.step with
    | .error fault => upToFault r fault
    | .ok next =>
      if next.isDone then { tokens := next.tokens.reverse }
      else
        match next.dropStale with
        | .error fault => upToFault r fault
        | .ok next => read fuel next

/-- The tokens of a text. -/
def ofText (t : Text) : Tokens :=
  let start : Source := { rest := t }
  let source := if t.head? = some '\uFEFF' then start.next else start
  read (t.length + 1) { source := source }

end Tokens
end MarkupNaming.Yaml
