import MarkupNaming.Text.Utf8
import MarkupNaming.Yaml.Fault
import MarkupNaming.Yaml.Scalar.Quoted
import MarkupNaming.Yaml.Token

/-!
# Properties and directives

Anchors, aliases, tags and directives: the tokens that say something about a node or a document.
-/
namespace MarkupNaming.Yaml
open Text

/-- A character of a name. -/
def isNameChar (c : Code) : Bool :=
  isAsciiLetter c || isAsciiDigit c || c == '-' || c == '_'

/-- A character of the text of a tag, apart from escapes. -/
def isTagChar (c : Code) : Bool :=
  isNameChar c || (";/?:@&=+$,.!~*'()[]" : Text).contains c

/-- The name of the anchor or alias whose mark is at a position. -/
def readName (activity : Activity) (s : Source) : Except Fault (Text × Source) :=
  let name := s.next.rest.takeWhile isNameChar
  let behind := s.next.skip name.length
  let ends := atGap behind.rest || (behind.rest.head?.map fun c =>
    (['?', ':', ',', ']', '\x7d', '%', '@', Char.ofNat 0x60] : Text).contains c).getD false
  if name.isEmpty || !ends then missing activity s.toMark .nameCharacter behind
  else .ok (name, behind)

/-- The bytes of the escapes at a position, in what starts at `start`. -/
def readEscapedBytes (activity : Activity) (start : Mark) :
    Nat → Source → Except Fault (List UInt8 × Source)
  | 0, s => .ok ([], s)
  | fuel + 1, s =>
    match s.rest with
    | '%' :: rest =>
      match hexNumber? 2 rest with
      | none => missingDigits activity start .tagEscape s.next
      | some n => do
        let (more, final) ← readEscapedBytes activity start fuel (s.skip 3)
        return (UInt8.ofNat n :: more, final)
    | _ => .ok ([], s)

/-- The text of a tag up to a character that cannot belong to it. A broken escape is a fault of
`scanning`. -/
def readTagChars (scanning : Activity) (start : Mark) :
    Nat → Source → Except Fault (Text × Source)
  | 0, s => .ok ([], s)
  | fuel + 1, s =>
    match s.rest with
    | [] => .ok ([], s)
    | c :: _ =>
      if c = '%' then do
        let (bytes, behind) ← readEscapedBytes scanning start s.rest.length s
        match Utf8.decode bytes with
        | .error fault => broken scanning start (.undecodable fault.message) s
        | .ok chars =>
          let (more, final) ← readTagChars scanning start fuel behind
          return (chars ++ more, final)
      else if isTagChar c then do
        let (more, final) ← readTagChars scanning start fuel s.next
        return (c :: more, final)
      else .ok ([], s)

/-- The text of a tag, which is not empty. -/
def readTagText (scanning parsing : Activity) (start : Mark) (s : Source) :
    Except Fault (Text × Source) := do
  let (text, behind) ← readTagChars scanning start s.rest.length s
  if behind.index = s.index then missing parsing start .tagText s else return (text, behind)

/-- The handle of a tag: one or two marks, in the second case with a name between them. -/
def readHandle (scanning : Activity) (start : Mark) (s : Source) : Except Fault (Text × Source) :=
  match s.rest with
  | '!' :: rest =>
    if rest.head? = some (.char ' ') then .ok (['!'], s.next)
    else
      let name := rest.takeWhile isNameChar
      if (rest.drop name.length).head? = some (.char '!') then
        .ok (.char '!' :: name ++ [Code.char '!'], s.skip (name.length + 2))
      else missing scanning start .handleMark (s.skip (name.length + 1))
  | _ => missing scanning start .handleMark s

/-- The tag at a position. -/
def readTag (s : Source) : Except Fault (Token × Source) := do
  let start := s.toMark
  let (token, behind) ←
    match s.rest.drop 1 with
    | '<' :: _ => do
      let (text, behind) ← readTagText .tag .tagText start (s.skip 2)
      if behind.rest.head? = some (.char '>') then pure (.tag none text, behind.next)
      else missing .tagText start .tagEnd behind
    | rest =>
      if atGap rest then pure (.tag none ['!'], s.next)
      else if (rest.takeWhile fun c => !(c == .char ' ' || isBreak c)).contains '!' then do
        let (handle, behind) ← readHandle .tag start s
        let (text, behind) ← readTagText .tag .tagText start behind
        pure (.tag (some handle) text, behind)
      else do
        let (text, behind) ← readTagText .tag .tagText start s.next
        pure (.tag (some ['!']) text, behind)
  if atSpaceOrEnd behind.rest then return (token, behind) else missing .tag start .space behind

/-- A number of a version, in a directive that starts at `start`. -/
def readVersionNumber (start : Mark) (s : Source) : Except Fault (Nat × Source) :=
  let digits := s.rest.takeWhile isAsciiDigit
  match integerOfBase 10 digits with
  | .ok n => .ok (n.toNat, s.skip digits.length)
  | .error .malformed => missing .directive start .digit s
  | .error (.tooLong count) => .error (.scalar (.longInteger count))

/-- The version in a directive. -/
def readVersion (start : Mark) (s : Source) : Except Fault (Directive × Source) := do
  let (major, s) ← readVersionNumber start s.skipSpaces
  if s.rest.head? ≠ some (.char '.') then missing .directive start .digitOrPoint s
  else
    let (minor, s) ← readVersionNumber start s.next
    if atSpaceOrEnd s.rest then return (.version major minor, s)
    else missing .directive start .digitOrSpace s

/-- The handle and the start of tags in a directive. -/
def readHandleDirective (start : Mark) (s : Source) : Except Fault (Directive × Source) := do
  let (handle, s) ← readHandle .directive start s.skipSpaces
  if s.rest.head? ≠ some (.char ' ') then missing .directive start .space s
  else
    let (text, s) ← readTagText .directive .directiveText start s.skipSpaces
    if atSpaceOrEnd s.rest then return (.handle handle text, s)
    else missing .directive start .space s

/-- The directive at a position, and the position of the next line. -/
def readDirective (s : Source) : Except Fault (Token × Source) := do
  let start := s.toMark
  let name := s.next.rest.takeWhile isNameChar
  let s := s.next.skip name.length
  if name.isEmpty || !atSpaceOrEnd s.rest then missing .directive start .nameCharacter s
  else
    let (directive, s) ←
      if name = ("YAML" : Text) then readVersion start s
      else if name = ("TAG" : Text) then readHandleDirective start s
      else pure (.other, s.skipWhile (!isBreak ·))
    let s := s.skipSpaces.skipComment
    match s.rest, s.lineBreak? with
    | [], _ => return (.directive directive, s)
    | _, some (_, behind) => return (.directive directive, behind)
    | _, none => missing .directive start .commentOrBreak s

end MarkupNaming.Yaml
