import MarkupNaming.Calendar
import MarkupNaming.Yaml.Breach
import MarkupNaming.Yaml.Source

/-!
# Faults in YAML

What keeps a text from being read. A text can break the rules of the language, or it can be well
formed and still hold a scalar that denotes no value of its kind.
-/
namespace MarkupNaming.Yaml
open Text

/-- What was being read when a rule was broken. -/
inductive Activity
  | nextToken
  | simpleKey
  | directive
  | reference
  | anchor
  | tag
  | tagText
  | directiveText
  | blockScalar
  | escapes
  | quotedScalar
  | node
  | blockNode
  | flowNode
  | blockCollection
  | blockMapping
  | flowSequence
  | flowMapping
  /-- A node whose anchor another one has. -/
  | anchored (name : Text)
  | onlyDocument
  | mapping
  | orderedMapping
  | pairs
deriving DecidableEq, Repr

namespace Activity

def message : Activity → Text
  | nextToken => "while scanning for the next token"
  | simpleKey => "while scanning a simple key"
  | directive => "while scanning a directive"
  | reference => "while scanning an alias"
  | anchor => "while scanning an anchor"
  | tag => "while scanning a tag"
  | tagText => "while parsing a tag"
  | directiveText => "while parsing a directive"
  | blockScalar => "while scanning a block scalar"
  | escapes => "while scanning a double-quoted scalar"
  | quotedScalar => "while scanning a quoted scalar"
  | node => "while parsing a node"
  | blockNode => "while parsing a block node"
  | flowNode => "while parsing a flow node"
  | blockCollection => "while parsing a block collection"
  | blockMapping => "while parsing a block mapping"
  | flowSequence => "while parsing a flow sequence"
  | flowMapping => "while parsing a flow mapping"
  | anchored name => "found duplicate anchor " ++ quoted name ++ "; first occurrence"
  | onlyDocument => "expected a single document in the stream"
  | mapping => "while constructing a mapping"
  | orderedMapping => "while constructing an ordered map"
  | pairs => "while constructing pairs"

end Activity

/-- A broken rule, or a text that can have none. -/
inductive SyntaxFault
  | unprintable (c : Code) (index : Nat)
  /-- A rule that is broken at a place, and what was being read there with its start. -/
  | broken (breach : Breach) (place : Mark) (activity : Option (Activity × Option Mark))
deriving DecidableEq, Repr

namespace SyntaxFault

/-- The stage of reading at which a fault is found. -/
def stage : SyntaxFault → Stage
  | unprintable .. => .characters
  | broken breach .. => breach.stage

/-- The message for a fault in a text. The start of what was being read is shown unless the rule
is broken right there. -/
def message (source : Text) : SyntaxFault → Text
  | unprintable c index =>
    "unacceptable character #x" ++ hexDigits 4 c.toNat ++ ": special characters are not allowed\n"
      ++ Mark.sourceName ++ "position " ++ ofNat index
  | broken breach place activity =>
    let start := match activity with
      | none => []
      | some (activity, start) =>
        activity.message :: ((start.filter (!·.isAt place)).map (·.text source)).toList
    join ['\n'] (start ++ [breach.message, place.text source])

end SyntaxFault

/-- A scalar that denotes no value of its kind. -/
inductive ScalarFault
  | date (fault : Date.Fault)
  | hour
  | minute
  | second
  /-- A distance from universal time of a day or more, in seconds. -/
  | zone (seconds : Int)
  | integer (base : Nat) (text : Text)
  /-- An integer of too many digits. -/
  | longInteger (digits : Nat)
  /-- A unit too large for a real number. -/
  | largeInteger
  | real (text : Text)
  | emptyNumber
  | truth (text : Text)
  | timestamp
  /-- A mapping in the place of a day or a time. -/
  | timestampMapping
  | character
  | largeCharacter
deriving DecidableEq, Repr

namespace ScalarFault

/-- A distance as days and seconds. -/
def distance (seconds : Int) : Text :=
  let days := seconds / 86400
  let rest := seconds % 86400
  "datetime.timedelta(" ++ join ", "
    ((if days = 0 then [] else [("days=" : Text) ++ ofInt days]) ++
      (if rest = 0 then [] else [("seconds=" : Text) ++ ofInt rest])) ++ ")"

def message : ScalarFault → Text
  | date (.year y) => "year " ++ ofNat y ++ " is out of range"
  | date .month => "month must be in 1..12"
  | date .day => "day is out of range for month"
  | hour => "hour must be in 0..23"
  | minute => "minute must be in 0..59"
  | second => "second must be in 0..59"
  | zone seconds =>
    "offset must be a timedelta strictly between -timedelta(hours=24) and timedelta(hours=24), "
      ++ "not " ++ distance seconds ++ "."
  | integer base text =>
    "invalid literal for int() with base " ++ ofNat base ++ ": " ++ (quoted text).take 200
  | longInteger digits =>
    "Exceeds the limit (4300 digits) for integer string conversion: value has " ++ ofNat digits
      ++ " digits; use sys.set_int_max_str_digits() to increase the limit"
  | largeInteger => "int too large to convert to float"
  | real text => "could not convert string to float: " ++ quoted text
  | emptyNumber => "string index out of range"
  | truth text => quoted text
  | timestamp => "'NoneType' object has no attribute 'groupdict'"
  | timestampMapping => "expected string or bytes-like object, got 'list'"
  | character => "chr() arg not in range(0x110000)"
  | largeCharacter => "Python int too large to convert to C int"

end ScalarFault

/-- What keeps a text from being read. -/
inductive Fault
  | syntaxFault (fault : SyntaxFault)
  | scalar (fault : ScalarFault)
  /-- There is no room for what stands, or is merged, within each other. -/
  | tooDeep
deriving DecidableEq, Repr

/-- The message for what is nested too deep. -/
def tooDeepMessage : Text := "maximum recursion depth exceeded"

/-- The fault of a rule broken at a position, within what starts at a place. -/
def broken {α : Type} (activity : Activity) (start : Mark) (breach : Breach) (s : Source) :
    Except Fault α :=
  .error (.syntaxFault (.broken breach s.toMark (some (activity, some start))))

/-- The fault that something else than the next character is expected. -/
def missing {α : Type} (activity : Activity) (start : Mark) (what : Expectation) (s : Source) :
    Except Fault α :=
  broken activity start (.expected what s.found) s

end MarkupNaming.Yaml
