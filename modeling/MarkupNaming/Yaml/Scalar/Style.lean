import MarkupNaming.Yaml.Tag
import MarkupNaming.Yaml.Source

/-!
# Scalar styles

How a text is written as a scalar. It stands without quotes where that reads back as the same
text, else in single quotes, and in double quotes if it has characters that need escapes or
spaces around line breaks.
-/
namespace MarkupNaming.Yaml
open Text

/-- The ways to write a scalar. -/
inductive Style
  | plain
  | single
  | double
deriving DecidableEq, Repr

namespace Style

/-- A character that breaks a line when it is written. A carriage return is escaped instead. -/
def isWrittenBreak (c : Code) : Bool :=
  c == '\n' || c == '\x85' || c == '\u2028' || c == '\u2029'

/-- A character that is written as it is. -/
def isLiteral (c : Code) : Bool :=
  let n := c.toNat
  c == '\n' || (0x20 ≤ n && n ≤ 0x7E) || c == '\x85' || (0xA0 ≤ n && n ≤ 0xD7FF) ||
    (0xE000 ≤ n && n ≤ 0xFFFD && n != 0xFEFF) || (0x10000 ≤ n && n < 0x10FFFF)

/-- A character around which an indicator is one. -/
def isAround (c : Code) : Bool := c == '\x00' || isGap c

/-- Whether the next character, if there is one, leaves an indicator standing alone. -/
def standsAlone (next : Text) : Bool := (next.head?.map isAround).getD true

/-- Characters that begin something other than a plain scalar. -/
def indicators : Text := ("#,[]\x7b\x7d&*!|>'\"%@\x60" : Text)

/-- Whether a text starts like something other than a plain scalar. -/
def startsOther : Text → Bool
  | [] => false
  | c :: rest =>
    List.elem c indicators || ((c == '?' || c == ':' || c == '-') && standsAlone rest) ||
      ("---" : Text).isPrefixOf (c :: rest) || ("..." : Text).isPrefixOf (c :: rest)

/-- Whether an indicator inside a text, after the character `previous`, ends a plain scalar. -/
def endsInside (previous : Code) : Text → Bool
  | [] => false
  | c :: rest =>
    (c == ':' && standsAlone rest) || (c == '#' && isAround previous) || endsInside c rest

/-- Whether a character for which `p` holds is followed by one for which `q` holds. -/
def adjacent (p q : Code → Bool) : Text → Bool
  | a :: b :: rest => (p a && q b) || adjacent p q (b :: rest)
  | _ => false

/-- Whether a text can stand without quotes. -/
def allowsPlain (t : Text) : Bool :=
  match t with
  | [] => false
  | c :: rest =>
    !startsOther t && !endsInside c rest && c != ' ' && t.getLast? != some (.char ' ') &&
      t.all (fun c => isLiteral c && !isWrittenBreak c) && impliedTag t == .text

/-- Whether a text can stand in single quotes. -/
def allowsSingle (t : Text) : Bool :=
  t.all isLiteral && !adjacent isWrittenBreak (· == .char ' ') t &&
    !adjacent (· == .char ' ') isWrittenBreak t

/-- The style of a text. -/
def ofText (t : Text) : Style :=
  if allowsPlain t then plain else if allowsSingle t then single else double

end Style
end MarkupNaming.Yaml
