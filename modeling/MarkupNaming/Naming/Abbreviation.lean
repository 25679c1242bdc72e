import MarkupNaming.Text.Blank
import MarkupNaming.Text.Case
import MarkupNaming.Text.Word

/-!
# Abbreviations

Class-safe tokens and abbreviated paths. A path is abbreviated from behind the first of its
segments that conventionally is the root of a site, unless nothing stands behind it.
-/
namespace MarkupNaming.Naming
open Text

/-- A character that a class name may hold unescaped. -/
def isTokenChar (c : Code) : Bool :=
  ('a' ≤ c && c ≤ 'z') || isAsciiDigit c || c == '-' || c == '_'

/-- Free text as a token: in lowercase, with hyphens for blanks, and without any other
character that is not safe in a class name. -/
def sanitize (t : Text) : Text := (collapseBlanks '-' (lower t)).filter isTokenChar

/-- The first `length` characters of each segment in lowercase, joined with hyphens. A negative
length drops characters from the end. -/
def abbreviate (segments : List Text) (length : Int) : Text :=
  join "-" (segments.map fun segment => lower (upTo segment length))

/-- Segments that conventionally are the root of a site. -/
def siteRoots : List Text := ["www", "htdocs", "public_html", "src", "app"]

/-- Whether a segment is such a root, in any case. -/
def isSiteRoot (segment : Text) : Bool := siteRoots.contains (lower segment)

/-- The non-empty segments of a path, separated by slashes or backslashes. -/
def splitPath (path : Text) : List Text :=
  (splitAll (fun c => c == .char '/' || c == '\\') path).filter (!·.isEmpty)

/-- A segment without its last dot and what follows it, if something without a slash does. -/
def stripExtension (segment : Text) : Text :=
  let afterDot := (segment.reverse.takeWhile (· != .char '.')).reverse
  if .char '.' ∈ segment ∧ afterDot ≠ [] ∧ .char '/' ∉ afterDot then
    segment.take (segment.length - afterDot.length - 1)
  else segment

/-- The segments behind the first site root, or all of them if there are none behind it. -/
def meaningfulSegments (segments : List Text) : List Text :=
  match (segments.dropWhile (!isSiteRoot ·)).drop 1 with
  | [] => segments
  | rest => rest

/-- The last segment without its extension, the others as they are. -/
def stripLast : List Text → List Text
  | [] => []
  | [last] => [stripExtension last]
  | segment :: rest => segment :: stripLast rest

/-- The abbreviated form of a path. -/
def abbreviatePath (path : Text) (length : Int) : Text :=
  abbreviate (stripLast (meaningfulSegments (splitPath path))) length

end MarkupNaming.Naming
