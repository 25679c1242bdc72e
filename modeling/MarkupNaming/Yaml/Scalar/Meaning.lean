import MarkupNaming.Value
import MarkupNaming.Yaml.Scalar.Number
import MarkupNaming.Yaml.Tag

/-!
# The meaning of scalars

The values that scalars denote by their kinds.
-/
namespace MarkupNaming.Yaml
open Text

/-- The truth value that a scalar spells in any case. -/
def truthOf (t : Text) : Except ScalarFault Bool :=
  let spelled := lower t
  if ([("yes" : Text), "true", "on"]).contains spelled then .ok true
  else if ([("no" : Text), "false", "off"]).contains spelled then .ok false
  else .error (.truth spelled)

namespace Timestamp

/-- The number written by decimal digits. -/
def number (digits : Text) : Nat := digits.foldl (fun n c => 10 * n + (c.toNat - '0'.toNat)) 0

/-- The millionths that the digits behind the point write; those behind the sixth do not count. -/
def millionths (digits : Text) : Nat :=
  number (digits.take 6 ++ List.replicate (6 - (digits.take 6).length) (Code.char '0'))

/-- The distance from universal time in seconds, which is less than a day. -/
def distance : Code × Text × Text → Except ScalarFault Int
  | (sign, hours, minutes) =>
    let seconds : Int := 3600 * number hours + 60 * number minutes
    let signed := withSign (sign == '-') seconds
    if 86400 ≤ seconds then .error (.zone signed) else .ok signed

/-- The day, or the moment, that a day with an optional time denotes. -/
def value (s : Timestamp) : Except ScalarFault Value :=
  let date := (Date.ofNumbers (number s.year) (number s.month) (number s.day)).mapError
    ScalarFault.date
  match s.time with
  | none => .date <$> date
  | some time => do
    let zone ← time.zone.mapM distance
    let day ← date
    let (hour, minute, second) := (number time.hour, number time.minute, number time.second)
    if 23 < hour then throw .hour
    if 59 < minute then throw .minute
    if 59 < second then throw .second
    let seconds := 3600 * hour + 60 * minute + second
    return .moment ⟨day, 1000000 * seconds + millionths time.fraction, zone⟩

end Timestamp

/-- The day or the moment that a scalar writes. A line feed may stand behind it. -/
def timestampOf (t : Text) : Except ScalarFault Value :=
  match Timestamp.read? (withoutFinalBreak t) with
  | none => .error .timestamp
  | some s => s.value

/-- The value that a text denotes as a scalar of a kind other than binary. -/
def scalarValue (tag : Tag) (t : Text) : Except ScalarFault Value :=
  match tag with
  | .null => .ok .null
  | .truth => (truthOf t).map .bool
  | .integer => (integerOf t).map .int
  | .real => (realOf t).map .real
  | .timestamp => timestampOf t
  | _ => .ok (.text t)

end MarkupNaming.Yaml
