import MarkupNaming.Text.Blank
import MarkupNaming.Text.Word
import MarkupNaming.Text.Case

/-!
# Attributes

An attribute with a value, as it is written inside a tag: a name, an equals sign between
optional blanks, and a value in double quotes, in single quotes or bare. Scanning a window of a
document reports the attributes in it as spans of the document. A name is only read where no
name character stands before it, and of equal names up to case the first one counts.
-/
namespace MarkupNaming.Markup
open Text

/-- How a value is enclosed. -/
inductive Quote
  | double
  | single
  | bare
deriving DecidableEq, Repr

namespace Quote

/-- The enclosing mark on either side of a value. -/
def mark : Quote → Text
  | double => ['"']
  | single => ['\'']
  | bare => []

end Quote

/-- A character that starts an attribute name. -/
def isNameStart (c : Code) : Bool := isAsciiLetter c || c == '_' || c == ':'

/-- A character that continues an attribute name. -/
def isNameChar (c : Code) : Bool := isWord c || c == ':' || c == '.' || c == '-'

/-- A character of a bare value. -/
def isBareChar (c : Code) : Bool := !isBlank c && !(("\"'=<>`" : Text).contains c)

/-- Whether a bare value ends before a text: at its end, at a blank, at `>` or at `/>`. -/
def endsBare : Text → Bool
  | [] => true
  | c :: rest => isBlank c || c == '>' || (c == '/' && rest.head? == some (.char '>'))

/-- The shortest bare value that ends properly. -/
def bareValue? : Text → Option Text
  | [] => none
  | c :: rest =>
    if isBareChar c then
      if endsBare rest then some [c] else (bareValue? rest).map (c :: ·)
    else none

/-- The name at the start of a text, empty if there is none. -/
def leadingName : Text → Text
  | [] => []
  | c :: rest => if isNameStart c then c :: rest.takeWhile isNameChar else []

/-- An attribute as it is written. -/
structure Attribute where
  name : Text
  /-- Blanks before the equals sign. -/
  gapBefore : Text
  /-- Blanks after the equals sign. -/
  gapAfter : Text
  quote : Quote
  value : Text
deriving DecidableEq, Repr

namespace Attribute
variable (a : Attribute)

/-- The written form up to the first character of the value. -/
def opening : Text := a.name ++ a.gapBefore ++ .char '=' :: a.gapAfter ++ a.quote.mark

/-- The written form. -/
def text : Text := a.opening ++ a.value ++ a.quote.mark

theorem text_length_pos : 0 < a.text.length := by
  unfold text opening
  simp only [List.length_append, List.length_cons]
  omega

/-- The value at the start of a text. -/
def readValue? : Text → Option (Quote × Text)
  | '"' :: rest =>
    if .char '"' ∈ rest then some (.double, rest.takeWhile (· != .char '"')) else none
  | '\'' :: rest =>
    if .char '\'' ∈ rest then some (.single, rest.takeWhile (· != .char '\'')) else none
  | t => (bareValue? t).map (.bare, ·)

/-- The attribute at the start of a text. -/
def read? (t : Text) : Option Attribute :=
  let name := leadingName t
  if name.isEmpty then none
  else
    let afterName := t.drop name.length
    match afterName.dropWhile isBlank with
    | '=' :: afterSign =>
      (readValue? (afterSign.dropWhile isBlank)).map fun (quote, value) =>
        ⟨name, afterName.takeWhile isBlank, afterSign.takeWhile isBlank, quote, value⟩
    | _ => none

end Attribute

/-- The place of an attribute in a document. The name is in lowercase. -/
structure AttributeSpan (ι : Type) where
  name : Text
  value : Text
  start : ι
  stop : ι
  valueStart : ι
  valueStop : ι
  quote : Quote
deriving DecidableEq, Repr

namespace AttributeSpan
variable {ι κ : Type}

/-- The same span with every offset changed. -/
def map (f : ι → κ) (s : AttributeSpan ι) : AttributeSpan κ :=
  ⟨s.name, s.value, f s.start, f s.stop, f s.valueStart, f s.valueStop, s.quote⟩

/-- Whether the value stands in quotes. -/
def isQuoted (s : AttributeSpan ι) : Bool := s.quote != .bare

/-- The span moved by a distance in either direction. -/
def shift (s : AttributeSpan Nat) (distance : Int) : AttributeSpan Int :=
  s.map fun offset : Nat => (offset : Int) + distance

end AttributeSpan

/-- The span of an attribute written at an offset. -/
def Attribute.span (a : Attribute) (start : Nat) : AttributeSpan Nat where
  name := lower a.name
  value := a.value
  start := start
  stop := start + a.text.length
  valueStart := start + a.opening.length
  valueStop := start + a.opening.length + a.value.length
  quote := a.quote

/-- The attribute at the start of a text that follows the character `before`. -/
def attributeAt? (before : Option Code) (t : Text) : Option Attribute :=
  if before.any isNameChar then none else Attribute.read? t

/-- The attributes of a text with their offsets. The text starts at the offset `pos` and follows
the character `before`. -/
def attributesFrom (before : Option Code) (pos : Nat) (t : Text) : List (Nat × Attribute) :=
  match t with
  | [] => []
  | c :: rest =>
    match attributeAt? before (c :: rest) with
    | some a =>
      (pos, a) :: attributesFrom a.text.getLast? (pos + a.text.length)
        ((c :: rest).drop a.text.length)
    | none => attributesFrom (some c) (pos + 1) rest
termination_by t.length
decreasing_by
  · have := a.text_length_pos
    simp only [List.length_drop, List.length_cons]; omega
  · simp

/-- The spans whose names are neither in `seen` nor taken by an earlier span. -/
def firstOfName (seen : List Text) : List (AttributeSpan Nat) → List (AttributeSpan Nat)
  | [] => []
  | s :: rest =>
    if seen.contains s.name then firstOfName seen rest else s :: firstOfName (s.name :: seen) rest

/-- The attributes between two offsets of a document, in order. -/
def attributesBetween (document : Text) (start stop : Nat) : List (AttributeSpan Nat) :=
  let before := if start = 0 then none else document[start - 1]?
  firstOfName [] <| (attributesFrom before start (document.slice start stop)).map
    fun (pos, a) => a.span pos

/-- The attribute of a given name between two offsets of a document. -/
def attribute? (document : Text) (start stop : Nat) (name : Text) : Option (AttributeSpan Nat) :=
  (attributesBetween document start stop).find? (·.name == lower name)

/-- The name of the attribute that holds the class tokens of an element. -/
def classAttribute : Text := "class"

/-- The name of the attribute that records a path, unless another one is configured. -/
def defaultPathMarker : Text := "data-css-gps"

end MarkupNaming.Markup
