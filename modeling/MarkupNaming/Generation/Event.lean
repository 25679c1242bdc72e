import MarkupNaming.Value

/-!
# Events

What a host is told while a name is made. An event travels as a name with a payload, so hosts
can add kinds of their own; the known kinds have a message.
-/
namespace MarkupNaming.Generation
open Text

/-- Named values. -/
abbrev Payload := List (Text × Value)

/-- A kind of event that generation reports. -/
inductive Event
  | elementLocated (tag : Text) (start stop : Nat)
  | classGenerated (className rule : Text)
  | releaseExpired (name expiry : Text)
deriving DecidableEq, Repr

namespace Event

/-- The name of the events that tell of an expired release. -/
def releaseExpiredName : Text := "release_expired"

/-- The name under which an event travels. -/
def name : Event → Text
  | elementLocated .. => "element_located"
  | classGenerated .. => "class_generated"
  | releaseExpired .. => releaseExpiredName

/-- What an event carries. -/
def payload : Event → Payload
  | elementLocated tag start stop =>
    [("tag", .text tag), ("start", .int start), ("end", .int stop)]
  | classGenerated className rule => [("class_name", .text className), ("rule", .text rule)]
  | releaseExpired name expiry => [("name", .text name), ("expiry", .text expiry)]

end Event

/-- The value under a name, null if there is none. -/
def valueOf (payload : Payload) (name : Text) : Value := (payload.lookup name).getD .null

/-- The value under a name in a message, or a default if it does not count as present. -/
def displayOr (payload : Payload) (name default : Text) : Text :=
  let v := valueOf payload name
  if v.isTruthy then v.display else default

/-- The message of an event of a known kind. -/
def eventMessage? (name : Text) (payload : Payload) : Option Text :=
  if name = "element_located" then
    let located := "Located <" ++ displayOr payload "tag" "<unknown>" ++ ">"
    match valueOf payload "start", valueOf payload "end" with
    | .null, _ | _, .null => some located
    | start, stop => some (located ++ " at offsets " ++ start.display ++ "-" ++ stop.display)
  else if name = "class_generated" then
    some ("Generated '" ++ displayOr payload "class_name" [] ++ "' using "
      ++ displayOr payload "rule" "ad hoc")
  else if name = Event.releaseExpiredName then
    some ("Release '" ++ displayOr payload "name" "<unnamed>" ++ "' expired on "
      ++ displayOr payload "expiry" "?")
  else none

/-- The message of an event that generation reports. -/
def Event.message (e : Event) : Text := (eventMessage? e.name e.payload).getD []

end MarkupNaming.Generation
