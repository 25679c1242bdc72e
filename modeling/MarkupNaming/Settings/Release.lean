import MarkupNaming.Settings.Fault

/-!
# Releases

Which release applies on a day, and the order in which releases are kept. A release applies up
to and on the last day it writes; one that writes no day never applies and counts as the latest
when releases are ordered.
-/
namespace MarkupNaming
open Text

namespace Release

/-- Whether a release still applies on a day. -/
def isUnexpired (today : Date) (r : Release) : Bool := r.expiryDate?.any (today ≤ ·)

/-- Whether the last day of a release is before a day. -/
def isExpired (today : Date) (r : Release) : Bool := r.expiryDate?.any (· < today)

/-- The day by which releases are ordered. -/
def orderDate (r : Release) : Date := r.expiryDate?.getD Date.last

/-- Whether a release may stand before another one. -/
def noLater (a b : Release) : Bool := a.orderDate ≤ b.orderDate

/-- The first release of a list among those that are ordered first. -/
def earliest? : List Release → Option Release
  | [] => none
  | r :: rest =>
    match earliest? rest with
    | none => some r
    | some s => if r.noLater s then some r else some s

/-- The release that applies on a day: of the unexpired ones the first to expire. -/
def active? (releases : List Release) (today : Date) : Option Release :=
  earliest? (releases.filter (isUnexpired today))

/-- The expired releases in order. -/
def expired (releases : List Release) (today : Date) : List Release :=
  releases.filter (isExpired today)

/-- Releases in the order of their last days; equal days keep their order. -/
def sorted (releases : List Release) : List Release := releases.mergeSort noLater

end Release

namespace Settings

/-- Settings with one more release. -/
def addRelease (s : Settings) (r : Release) : Except SettingsFault Settings :=
  if r.expiryDate?.isSome then .ok { s with releases := Release.sorted (s.releases ++ [r]) }
  else .error (.invalidExpiry r)

/-- Settings without the releases of a name. -/
def removeRelease (s : Settings) (name : Text) : Settings :=
  { s with releases := s.releases.filter (·.name != name) }

end Settings
end MarkupNaming
