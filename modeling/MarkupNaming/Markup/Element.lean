import MarkupNaming.Markup.Attribute

/-!
# Elements

The opening tag at or before a cursor. The nearest `<` that does not open a closing tag decides.
The tag reaches to the next `>`, wherever that stands, and its name begins with an ASCII letter.
-/
namespace MarkupNaming.Markup
open Text

/-- An opening tag of a document with the spans of its attributes. -/
structure Element where
  tagName : Text
  start : Nat
  stop : Nat
  attributes : List (AttributeSpan Nat)
  /-- Name of the attribute that records a path. -/
  markerAttribute : Text
deriving DecidableEq, Repr

namespace Element
variable (e : Element)

/-- The attribute with a given lowercase name. -/
def attribute? (name : Text) : Option (AttributeSpan Nat) :=
  e.attributes.find? (·.name == name)

/-- The attribute that lists classes. -/
def classSpan? : Option (AttributeSpan Nat) := e.attribute? classAttribute

/-- The classes as they are listed. -/
def classValue? : Option Text := e.classSpan?.map (·.value)

/-- The attribute that records a path. -/
def pathMarker? : Option (AttributeSpan Nat) := e.attribute? (lower e.markerAttribute)

/-- The literal text of the tag in its document. -/
def tagText (document : Text) : Text := document.slice e.start e.stop

end Element

/-- Whether a text starts with a `<` that does not open a closing tag. -/
def opensTag : Text → Bool
  | '<' :: '/' :: _ => false
  | '<' :: _ => true
  | _ => false

/-- The last offset at or before `limit` at which a tag opens. -/
def lastOpening? : Text → Nat → Option Nat
  | [], _ => none
  | c :: rest, limit =>
    let here := if opensTag (c :: rest) then some 0 else none
    match limit with
    | 0 => here
    | limit + 1 => ((lastOpening? rest limit).map (· + 1)).or here

/-- The tag name at the start of a text, behind its `<`. -/
def tagName? : Text → Option Text
  | '<' :: c :: rest => if isAsciiLetter c then some (c :: rest.takeWhile isWord) else none
  | _ => none

/-- The characters of a text up to and including its first `>`. -/
def throughClose? (t : Text) : Option Text :=
  if .char '>' ∈ t then some (t.takeWhile (· != .char '>') ++ [Code.char '>']) else none

/-- The nearest opening tag at or before an offset, which is first moved into the document. -/
def locate? (document : Text) (offset : Int) (markerAttribute : Text := defaultPathMarker) :
    Option Element := do
  let start ← lastOpening? document offset.toNat
  let tag ← throughClose? (document.drop start)
  let name ← tagName? tag
  let stop := start + tag.length
  return { tagName := name
           start := start
           stop := stop
           attributes := attributesBetween document (start + 1 + name.length) stop
           markerAttribute := markerAttribute }

end MarkupNaming.Markup
