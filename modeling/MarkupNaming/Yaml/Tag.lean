import MarkupNaming.Calendar

/-!
# Tags and the kinds of plain scalars

A tag names the kind of a node. A plain scalar without a tag has the kind that its form suggests:
a truth value, a number, a day or a time, null, or else a text.
-/
namespace MarkupNaming.Yaml
open Text

/-- The kind of a node. -/
inductive Tag
  | null
  | truth
  | integer
  | real
  | binary
  | timestamp
  | orderedMapping
  | pairs
  | set
  | text
  | sequence
  | mapping
  /-- The kind of the key that merges another mapping. -/
  | merge
  /-- The kind of the key that stands for a mapping as a whole. -/
  | wholeValue
  /-- The kind of a lone mark of the language, which denotes nothing. -/
  | mark
  | other (name : Text)
deriving DecidableEq, Repr

namespace Tag

/-- The start of the names of the common kinds. -/
def commonStart : Text := "tag:yaml.org,2002:"

/-- The common kinds by the rest of their names. -/
def common : List (Text × Tag) :=
  [("null", null), ("bool", truth), ("int", integer), ("float", real), ("binary", binary),
    ("timestamp", timestamp), ("omap", orderedMapping), ("pairs", pairs), ("set", set),
    ("str", text), ("seq", sequence), ("map", mapping), ("merge", merge), ("value", wholeValue),
    ("yaml", mark)]

/-- The kind that a name denotes. -/
def ofName (t : Text) : Tag :=
  if commonStart.isPrefixOf t then
    (common.lookup (t.drop commonStart.length)).getD (other t)
  else other t

/-- The name of a kind. -/
def name (tag : Tag) : Text :=
  match tag with
  | other t => t
  | _ => commonStart ++ (((common.map Prod.swap).lookup tag).getD [])

end Tag

/-- A time of a day as it is written. -/
structure WrittenTime where
  hour : Text
  minute : Text
  second : Text
  /-- The digits behind the point. -/
  fraction : Text := []
  /-- Sign, hours and minutes of the distance from universal time. -/
  zone : Option (Code × Text × Text) := none

/-- A day with an optional time, as it is written. -/
structure Timestamp where
  year : Text
  month : Text
  day : Text
  time : Option WrittenTime := none

namespace Timestamp

/-- One or two digits at the front. -/
def shortNumber? (t : Text) : Option (Text × Text) :=
  match t.takeWhile isAsciiDigit with
  | [] => none
  | digits => some (digits.take 2, t.drop (min 2 digits.length))

/-- Exactly `count` digits at the front. -/
def digits? (count : Nat) (t : Text) : Option (Text × Text) :=
  if (t.take count).length = count ∧ (t.take count).all isAsciiDigit then
    some (t.take count, t.drop count)
  else none

/-- What stands behind a character at the front. -/
def behind? (c : Code) : Text → Option Text
  | d :: rest => if c = d then some rest else none
  | [] => none

/-- The distance from universal time, which is all of a text. -/
def zone? (t : Text) : Option (Option (Code × Text × Text)) :=
  match t.dropWhile fun c => c == .char ' ' || c == .char '\t' with
  | [] => if t.isEmpty then some none else none
  | ['Z'] => some (some ('+', ['0'], []))
  | sign :: rest => do
    if sign ≠ '+' ∧ sign ≠ '-' then none
    let (hours, rest) ← shortNumber? rest
    match rest with
    | [] => return some (sign, hours, [])
    | _ =>
      let (minutes, rest) ← digits? 2 (← behind? ':' rest)
      if rest.isEmpty then return some (sign, hours, minutes) else none

/-- The time that a text writes. -/
def time? (t : Text) : Option WrittenTime := do
  let (hour, t) ← shortNumber? t
  let (minute, t) ← digits? 2 (← behind? ':' t)
  let (second, t) ← digits? 2 (← behind? ':' t)
  let (fraction, t) := match t with
    | '.' :: rest => (rest.takeWhile isAsciiDigit, rest.dropWhile isAsciiDigit)
    | _ => ([], t)
  return ⟨hour, minute, second, fraction, ← zone? t⟩

/-- The day and time that a text writes. -/
def read? (t : Text) : Option Timestamp := do
  let (year, t) ← digits? 4 t
  let (month, t) ← shortNumber? (← behind? '-' t)
  let (day, t) ← shortNumber? (← behind? '-' t)
  match t with
  | [] => return ⟨year, month, day, none⟩
  | c :: rest =>
    let t ←
      if c = 'T' ∨ c = 't' then some rest
      else if c = ' ' ∨ c = '\t' then
        some (rest.dropWhile fun c => c == .char ' ' || c == .char '\t')
      else none
    return ⟨year, month, day, some (← time? t)⟩

/-- Whether a plain scalar is a day or a time: a day alone has two digits for its month and for
its day. -/
def isImplied (t : Text) : Bool :=
  match read? t with
  | none => false
  | some s => s.time.isSome || (s.month.length == 2 && s.day.length == 2)

end Timestamp

/-- Whether a text is a digit that satisfies a condition, followed by digits or underscores. -/
def isGrouped (first digit : Code → Bool) : Text → Bool
  | c :: rest => first c && rest.all fun c => digit c || c == '_'
  | [] => false

/-- A digit other than zero. -/
def isNonzero (c : Code) : Bool := '1' ≤ c && c ≤ '9'

/-- Whether a text is a number from 0 to 59. -/
def isSixtieth : Text → Bool
  | [c] => isAsciiDigit c
  | [c, d] => ('0' ≤ c && c ≤ '5') && isAsciiDigit d
  | _ => false

/-- Whether a text is one or more numbers from 0 to 59, each behind a colon. -/
def areSixtieths : List Text → Bool
  | [] => false
  | parts => parts.all isSixtieth

/-- Whether a text has the form of an integer. -/
def isInteger (t : Text) : Bool :=
  let isMarked (digit : Code → Bool) (rest : Text) : Bool :=
    !rest.isEmpty && rest.all fun c => digit c || c == '_'
  match (splitSign t).2 with
  | '0' :: 'b' :: rest => isMarked (fun c => c == .char '0' || c == '1') rest
  | '0' :: 'x' :: rest =>
    isMarked (fun c => isAsciiDigit c || ('a' ≤ c && c ≤ 'f') || ('A' ≤ c && c ≤ 'F')) rest
  | '0' :: rest => rest.all fun c => ('0' ≤ c && c ≤ '7') || c == '_'
  | digits =>
    match splitAll (· == .char ':') digits with
    | [whole] => isGrouped isNonzero isAsciiDigit whole
    | whole :: parts => isGrouped isNonzero isAsciiDigit whole && areSixtieths parts
    | [] => false

/-- Whether a text is empty or an exponent with a sign. -/
def isExponent : Text → Bool
  | [] => true
  | c :: rest =>
    (c == 'e' || c == 'E') && (rest.head? == some (.char '+') || rest.head? == some (.char '-')) &&
      1 < rest.length && (rest.drop 1).all isAsciiDigit

/-- Whether a text has the form of a real number. -/
def isReal (t : Text) : Bool :=
  let unsigned := (splitSign t).2
  let isFraction (rest : Text) : Bool :=
    isExponent (rest.dropWhile fun c => isAsciiDigit c || c == '_')
  let whole := unsigned.takeWhile (· != .char '.')
  match unsigned.drop whole.length with
  | '.' :: rest =>
    if whole.isEmpty then
      [("inf" : Text), "Inf", "INF"].contains rest ||
        (unsigned == t && ([("nan" : Text), "NaN", "NAN"].contains rest ||
          ((rest.head?.map isAsciiDigit).getD false && isFraction rest)))
    else
      (isGrouped isAsciiDigit isAsciiDigit whole && isFraction rest) ||
        (match splitAll (· == .char ':') whole with
          | first :: parts => isGrouped isAsciiDigit isAsciiDigit first && areSixtieths parts
          | [] => false) && rest.all fun c => isAsciiDigit c || c == '_'
  | _ => false

/-- The spellings of the truth values. -/
def truthSpellings : List Text :=
  ["yes", "Yes", "YES", "no", "No", "NO", "true", "True", "TRUE", "false", "False", "FALSE",
    "on", "On", "ON", "off", "Off", "OFF"]

/-- A text without the line feed at its end, if there is one. -/
def withoutFinalBreak (t : Text) : Text := if t.getLast? = some (.char '\n') then t.dropLast else t

/-- The kind that the form of a text suggests. -/
def tagOfForm (t : Text) : Tag :=
  if truthSpellings.contains t then .truth
  else if isReal t then .real
  else if isInteger t then .integer
  else if t = ("<<" : Text) then .merge
  else if [("" : Text), "~", "null", "Null", "NULL"].contains t then .null
  else if Timestamp.isImplied t then .timestamp
  else if t = ("=" : Text) then .wholeValue
  else if [("!" : Text), "&", "*"].contains t then .mark
  else .text

/-- The kind that a scalar without a tag has by its form. A line feed behind the form does not
count, but one alone is a text. -/
def impliedTag (t : Text) : Tag :=
  if t = [.char '\n'] then .text else tagOfForm (withoutFinalBreak t)

end MarkupNaming.Yaml
