import MarkupNaming.Markup.Element

/-!
# Edits

Changes to one opening tag. A class is added to the class attribute or written as a new one; a
path marker is set in the same way. New attributes stand right before the end of the tag, ahead
of its slash and of blanks before it. Everything outside the tag is left alone, so each change
is one replacement of the tag in its document.
-/
namespace MarkupNaming.Markup
open Text

/-- The replacement of a part of a document. Negative offsets count from the end. -/
structure TextEdit where
  start : Int
  stop : Int
  replacement : Text
  /-- What stands in its place before. -/
  replaced : Text
deriving DecidableEq, Repr

namespace TextEdit

/-- Whether the replacement differs from what stood there. -/
def changes (e : TextEdit) : Bool := e.replacement != e.replaced

/-- The document with the part replaced. -/
def apply (e : TextEdit) (document : Text) : Text :=
  document.upTo e.start ++ e.replacement ++ document.onward e.stop

end TextEdit

/-- A value with the quote that encloses it written as an entity. A bare value is going to be
enclosed in double quotes. -/
def escapeFor : Quote → Text → Text
  | .single, value => value.flatMap fun c => if c = .char '\'' then "&#39;" else [c]
  | _, value => value.flatMap fun c => if c = .char '"' then "&quot;" else [c]

/-- Offset in a tag at which a new attribute belongs. -/
def insertOffset (tag : Text) : Nat :=
  let body := if tag.getLast? = some (.char '>') then tag.dropLast else tag
  let body := if body.getLast? = some (.char '/') then body.dropLast else body
  (trimEnd body).length

/-- A tag with a new attribute. -/
def insertAttribute (tag name value : Text) : Text :=
  let offset := insertOffset tag
  tag.take offset ++ (.char ' ' :: name ++ "=\"" ++ escapeFor .double value ++ [Code.char '"']) ++
    tag.drop offset

/-- A tag with the value of one of its attributes replaced. -/
def replaceValue (tag : Text) (element : Element) (span : AttributeSpan Nat) (value : Text) :
    Text :=
  let written :=
    match span.quote with
    | .bare => .char '"' :: escapeFor .bare value ++ [Code.char '"']
    | quote => escapeFor quote value
  tag.take (span.valueStart - element.start) ++ written ++
    tag.drop (span.valueStop - element.start)

/-- The classes listed in the value of a class attribute. -/
def classTokens (value : Option Text) : List Text := words (value.getD [])

/-- A class value with one more class. -/
def appendClass (value newClass : Text) : Text :=
  let existing := trimEnd value
  if existing.isEmpty then newClass else existing ++ .char ' ' :: newClass

/-- The tag of an element with a class added, unless it is empty or already there. -/
def applyClass (tag : Text) (element : Element) (newClass : Text) : Text :=
  if newClass.isEmpty then tag
  else
    match element.classSpan? with
    | none => insertAttribute tag classAttribute newClass
    | some span =>
      if (classTokens (some span.value)).contains newClass then tag
      else replaceValue tag element span (appendClass span.value newClass)

/-- The attribute that a request names, or the one configured for the element. -/
def markerName (element : Element) (chosen : Option Text) : Text :=
  lower ((chosen.filter (!·.isEmpty)).getD element.markerAttribute)

/-- The tag of an element with its path marker set. -/
def applyMarker (tag : Text) (element : Element) (value : Text) (chosen : Option Text := none) :
    Text :=
  let name := markerName element chosen
  match element.attribute? name with
  | none => insertAttribute tag name value
  | some span =>
    if span.value = value ∧ span.isQuoted then tag else replaceValue tag element span value

/-- An element with its attributes read again from a new text of its tag. -/
def relocate (element : Element) (tag : Text) : Element :=
  { element with
    stop := element.start + tag.length
    attributes := (attributesBetween tag (1 + element.tagName.length) tag.length).map
      (·.map (· + element.start)) }

/-- The edit that adds a class to an element and, given a value, sets its path marker. -/
def buildEdit (document : Text) (element : Element) (newClass : Text)
    (markerValue : Option Text := none) (markerAttribute : Option Text := none) : TextEdit :=
  let tag := element.tagText document
  let classed := applyClass tag element newClass
  let updated :=
    match markerValue.filter (!·.isEmpty) with
    | none => classed
    | some value =>
      let current := if classed = tag then element else relocate element classed
      applyMarker classed current value markerAttribute
  ⟨element.start, element.stop, updated, tag⟩

end MarkupNaming.Markup
