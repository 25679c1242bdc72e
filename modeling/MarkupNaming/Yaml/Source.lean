import MarkupNaming.Text.Quoted
import MarkupNaming.Yaml.Mark

/-!
# Sources

A YAML text as it is read: what is left of it, and the place reached. A byte order mark has no
width.
-/
namespace MarkupNaming.Yaml
open Text

/-- A character between words: a space, a tabulator or a line break. -/
def isGap (c : Code) : Bool := c == ' ' || c == '\t' || isBreak c

/-- Whether a text is at its end or starts with a gap. -/
def atGap (t : Text) : Bool := (t.head?.map isGap).getD true

/-- Whether a text is at its end or starts with a space or a line break. -/
def atSpaceOrEnd (t : Text) : Bool := (t.head?.map fun c => c == .char ' ' || isBreak c).getD true

/-- A character that a text may hold. -/
def isAllowed (c : Code) : Bool :=
  let n := c.toNat
  n == 9 || n == 0xA || n == 0xD || (0x20 ≤ n && n ≤ 0x7E) || n == 0x85 ||
    (0xA0 ≤ n && n ≤ 0xD7FF) || (0xE000 ≤ n && n ≤ 0xFFFD) || 0x10000 ≤ n

/-- A reading position: a place, and the text behind it. -/
structure Source extends Mark where
  rest : Text

namespace Source

/-- The position behind the next character. -/
def next (s : Source) : Source :=
  match s.rest with
  | [] => s
  | c :: rest =>
    if isBreak c && !(c == '\r' && rest.head? == some (.char '\n')) then
      ⟨⟨s.index + 1, s.line + 1, 0⟩, rest⟩
    else if c == '\uFEFF' then ⟨⟨s.index + 1, s.line, s.column⟩, rest⟩
    else ⟨s.right, rest⟩

/-- The position behind the next `count` characters. -/
def skip (s : Source) : Nat → Source
  | 0 => s
  | count + 1 => s.next.skip count

/-- The position behind the characters at the front that satisfy a condition. -/
def skipWhile (s : Source) (p : Code → Bool) : Source := s.skip (s.rest.takeWhile p).length

/-- The position behind the spaces at the front. -/
def skipSpaces (s : Source) : Source := s.skipWhile (· == .char ' ')

/-- The position at the end of a comment, if one starts here. -/
def skipComment (s : Source) : Source :=
  if s.rest.head? = some (.char '#') then s.skipWhile (!isBreak ·) else s

/-- The next character as it is named in messages; at the end of the text, a NUL character. -/
def found (s : Source) : Text := quoted [s.rest.headD '\x00']

/-- The line break at a position, as it counts in a value, and the position behind it. -/
def lineBreak? (s : Source) : Option (Text × Source) :=
  match s.rest with
  | '\r' :: '\n' :: _ => some (['\n'], s.skip 2)
  | c :: _ =>
    if c == '\r' || c == '\n' || c == '\x85' then some (['\n'], s.next)
    else if c == '\u2028' || c == '\u2029' then some ([c], s.next)
    else none
  | [] => none

/-- Whether three dashes or three dots stand alone at a position. -/
def atSeparator (s : Source) : Bool :=
  match s.rest with
  | '-' :: '-' :: '-' :: rest => atGap rest
  | '.' :: '.' :: '.' :: rest => atGap rest
  | _ => false

end Source
end MarkupNaming.Yaml
