import MarkupNaming.Console.Styled
import MarkupNaming.Console.Table
import MarkupNaming.Generation.Request

/-!
# Listings

Segments, rules, releases and outcomes as tables. Of the releases, the one that applies is marked
in the first row that holds it.
-/
namespace MarkupNaming.CommandLine
open Text Console Naming

/-- A cell of a listing: a text whose style tags are obeyed, or one that is shown as it is. -/
inductive Cell
  | styled (t : Text)
  | verbatim (t : Text)
deriving DecidableEq, Repr

namespace Cell

/-- What is shown in a cell. -/
def shown : Cell → Except StyleFault Text
  | styled t => unstyle t
  | verbatim t => .ok t

end Cell

/-- A table whose cells may have style tags. -/
structure Listing where
  title : Text
  headers : List Text
  rows : List (List Cell)

namespace Listing

/-- The cells of the columns, from left to right. -/
def columns (l : Listing) : List (List Cell) :=
  l.headers.zipIdx.map fun (_, i) => l.rows.filterMap (·[i]?)

/-- The table to show. Of several faults, the first one of the leftmost column counts. -/
def table (l : Listing) : Except StyleFault Table := do
  for column in l.columns do
    for cell in column do
      discard cell.shown
  let rows ← l.rows.mapM (·.mapM Cell.shown)
  return { title := l.title, headers := l.headers, rows }

/-- A listing as a console writes it. -/
def text (l : Listing) : Except StyleFault Text := l.table.map Table.text

end Listing

/-- The kinds of segments, with samples or, at a place in a document, with the values that are
listed for them there. -/
def segmentListing (values : Option (List (Segment × Text))) : Listing where
  title := "Options"
  headers := ["Id", "Name", "Description", if values.isSome then "Value" else "Example"]
  rows := Segment.all.map fun s =>
    let last := match values with
      | none => s.sample
      | some values =>
        match values.lookup s with
        | none | some [] => "(empty)"
        | some value => value
    [.styled s.id, .styled s.title, .styled s.description, .verbatim last]

/-- Rules with their patterns and samples. -/
def ruleListing (rules : List Rule) : Listing where
  title := "Rules"
  headers := ["Id", "Name", "Kind", "Pattern", "Example"]
  rows := rules.map fun r =>
    [.styled r.id, .styled r.name, .verbatim (if r.isPreset then "preset" else "custom" : String),
      .styled r.pattern, .verbatim r.sample]

/-- How a release stands on a day. -/
inductive ReleaseStatus
  | invalid
  | active
  | expired
  | upcoming
deriving DecidableEq, Repr

namespace ReleaseStatus

def text : ReleaseStatus → Text
  | invalid => "invalid date"
  | active => "active"
  | expired => "expired"
  | upcoming => "upcoming"

/-- The status of a release, where `isActive` tells whether it is the one that applies. -/
def of (today : Date) (isActive : Bool) (r : Release) : ReleaseStatus :=
  match r.expiryDate? with
  | none => invalid
  | some day => if isActive then active else if day < today then expired else upcoming

end ReleaseStatus

/-- Releases with their status on a day. Every release of a settings file is an object of its own,
and the one that applies is the first of those that are equal to it: it is looked for from the
start, and `active` is it until it is found. -/
def releaseStatuses (today : Date) : (active : Option Release) → List Release →
    List (Release × ReleaseStatus)
  | _, [] => []
  | active, r :: rest =>
    if active = some r then (r, .of today true r) :: releaseStatuses today none rest
    else (r, .of today false r) :: releaseStatuses today active rest

/-- Releases on a day. -/
def releaseListing (releases : List Release) (today : Date) : Listing where
  title := "Releases (today: " ++ today.text ++ ")"
  headers := ["Name", "Expiry", "Status"]
  rows := (releaseStatuses today (Release.active? releases today) releases).map
    fun (r, status) => [.styled r.name, .styled r.expiry, .verbatim status.text]

/-- An outcome with the element it is about. -/
def outcomeListing (outcome : Generation.Outcome) (element : Markup.Element) : Listing where
  title := "Generation"
  headers := ["Field", "Value"]
  rows :=
    let place : Text := .char '<' :: element.tagName ++ "> [" ++ ofNat element.start ++ ", " ++
      ofNat element.stop ++ [Code.char ')']
    let marker := outcome.markerValue.filter (!·.isEmpty)
    let expired := outcome.events.filterMap fun
      | .releaseExpired name expiry => some (name ++ " (" ++ expiry ++ ")")
      | _ => none
    let row (field value : Text) : List Cell := [.styled field, .styled value]
    [row "Element" place, row "Rule" outcome.rule.name, row "Class" outcome.className] ++
      marker.toList.map (row "Path marker") ++ [row "Status" outcome.status.text] ++
      expired.map (row "Expired release")

end MarkupNaming.CommandLine
