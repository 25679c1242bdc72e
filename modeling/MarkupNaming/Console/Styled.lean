import MarkupNaming.Console.Display
import MarkupNaming.Console.Emoji

/-!
# Styled text

Texts with style tags in square brackets. A tag starts with a lowercase letter, `#`, `/` or `@`
behind the bracket and reaches to the next bracket that closes. A backslash in front makes it
plain text. What is left without the tags is shown, with pictographs in it. A closing tag needs
an open one.
-/
namespace MarkupNaming.Console
open Text

/-- A part of a styled text. -/
inductive Span
  | plain (t : Text)
  /-- What stands between the brackets, and the offset of the tag. -/
  | tag (body : Text) (offset : Nat)
deriving DecidableEq, Repr

/-- Whether a character can stand behind the bracket of a tag. -/
def startsTag (c : Code) : Bool :=
  ('a' ≤ c && c ≤ 'z') || c == '#' || c == '/' || c == '@'

/-- What stands between the brackets of a tag at the start of a text. -/
def tagBody? : Text → Option Text
  | '[' :: c :: rest =>
    let body := rest.takeWhile fun d => d != .char '[' && d != .char ']'
    if startsTag c ∧ (rest.drop body.length).head? = some (.char ']') then some (c :: body)
    else none
  | _ => none

/-- A bracket with a backslash in front of it that belongs to no tag stands for itself. -/
def bareBrackets : Text → Text
  | '\\' :: '[' :: rest => '[' :: bareBrackets rest
  | c :: rest => c :: bareBrackets rest
  | [] => []

/-- A piece of plain text, unless it is empty. -/
def plainSpan (t : Text) : List Span := if t.isEmpty then [] else [.plain t]

/-- The parts of a text from an offset on, where `before` is the plain text in front. Of the
backslashes in front of a tag, two stand for one, and an odd one makes the tag plain text. -/
def spansFrom : (fuel offset : Nat) → (before : Text) → Text → List Span
  | 0, _, before, t => plainSpan (before ++ t)
  | _ + 1, _, before, [] => plainSpan before
  | fuel + 1, offset, before, c :: rest =>
    let backslashes := ((c :: rest).takeWhile (· == .char '\\')).length
    let behind := (c :: rest).drop backslashes
    match tagBody? behind with
    | some body =>
      let length := body.length + 2
      let half := plainSpan (List.replicate (backslashes / 2) (Code.char '\\'))
      let span : Span := if backslashes % 2 = 1 then .plain (behind.take length)
        else .tag body (offset + backslashes)
      plainSpan before ++ half ++
        span :: spansFrom fuel (offset + backslashes + length) [] (behind.drop length)
    | none =>
      let count := max 1 backslashes
      spansFrom fuel (offset + count) (before ++ (c :: rest).take count)
        ((c :: rest).drop count)

/-- The parts of a styled text. -/
def spans (t : Text) : List Span := spansFrom (t.length + 1) 0 [] t

/-- What is wrong with a closing tag. -/
inductive StyleFault
  | unmatched (body : Text) (offset : Nat)
  | nothingOpen (offset : Nat)
deriving DecidableEq, Repr

namespace StyleFault

def message : StyleFault → Text
  | unmatched body offset =>
    "closing tag '[" ++ body ++ "]' at position " ++ ofNat offset ++
      " doesn't match any open tag"
  | nothingOpen offset =>
    "closing tag '[/]' at position " ++ ofNat offset ++ " has nothing to close"

end StyleFault

/-- Short names of styles. -/
def styleAbbreviations : List (Text × Text) :=
  [("b", "bold"), ("d", "dim"), ("i", "italic"), ("u", "underline"), ("r", "reverse"),
    ("c", "conceal"), ("s", "strike"), ("uu", "underline2"), ("o", "overline")]

/-- The name under which a style is opened and closed. -/
def styleName (t : Text) : Text :=
  let name := lower (trim t)
  (styleAbbreviations.lookup name).getD name

/-- The name of the style in a tag, in front of the value that it may have. -/
def tagName (body : Text) : Text := body.takeWhile (· != .char '=')

/-- The plain parts, where `opened` holds the names of the open styles, the last one first. -/
def unstyled (opened : List Text) : List Span → Except StyleFault Text
  | [] => .ok []
  | .plain t :: rest => (unstyled opened rest).map (withPictographs (bareBrackets t) ++ ·)
  | .tag body offset :: rest =>
    match tagName body with
    | '/' :: name =>
      let closed := trim name
      if closed.isEmpty then
        match opened with
        | [] => .error (.nothingOpen offset)
        | _ :: others => unstyled others rest
      else if opened.contains (styleName closed) then
        unstyled (opened.erase (styleName closed)) rest
      else .error (.unmatched body offset)
    | name => unstyled (styleName name :: opened) rest

/-- What is shown of a styled text. -/
def unstyle (t : Text) : Except StyleFault Text :=
  if .char '[' ∈ t then unstyled [] (spans t) else .ok (withPictographs t)

end MarkupNaming.Console
