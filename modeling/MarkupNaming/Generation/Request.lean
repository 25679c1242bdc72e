import MarkupNaming.Generation.Document
import MarkupNaming.Generation.Event
import MarkupNaming.Markup.Edit
import MarkupNaming.Naming.Rule

/-!
# Generation

A name for one element of a document and the edit that writes it. A cursor that hits no element
and a name without any segment are outcomes, not faults. Nothing is written here: an outcome
holds the edit, and its host decides what to do with it.
-/
namespace MarkupNaming.Generation
open Text Naming Markup

/-- What is asked for. -/
structure Request where
  path : Text
  offset : Int
  /-- The document, or why it cannot be read. -/
  document : Except DocumentFault Text
  workspace : Option Text := none
  ruleId : Option Text := none
  optionIds : List Text := []
  separator : Text := defaultSeparator
  settings : Settings := .defaults
  /-- Whether to record the path; the settings decide if it is open. -/
  emitMarker : Option Bool := none

/-- How a request ends. -/
inductive Status
  | generated
  | applied
  | unchanged
  | notFound
  | empty
deriving DecidableEq, Repr

namespace Status

/-- The name of a status. -/
def text : Status → Text
  | generated => "generated"
  | applied => "applied"
  | unchanged => "unchanged"
  | notFound => "not_found"
  | empty => "empty"

/-- The explanation of a status without a name. -/
def message? : Status → Option Text
  | notFound => some "No HTML element found at the given position."
  | empty => some <| "Could not generate a class name: every option produced an empty value. " ++
      "Check the project prefix, releases and rule options."
  | _ => none

/-- Whether there is a name. -/
def isOk (s : Status) : Bool := s.message?.isNone

end Status

/-- What a request yields. -/
structure Outcome where
  status : Status
  rule : Rule
  document : Text
  element : Option Element := none
  className : Text := []
  markerValue : Option Text := none
  edit : Option TextEdit := none
  /-- The events reported on the way, in order. -/
  events : List Event := []
deriving DecidableEq, Repr

namespace Outcome

/-- The document with the edit applied, if there is one. -/
def updatedText (o : Outcome) : Text :=
  match o.edit with
  | none => o.document
  | some e => e.apply o.document

end Outcome

/-- Why a request has no outcome. -/
inductive Fault
  | rule (fault : RuleFault)
  | document (fault : DocumentFault)
  | context (fault : ContextFault)
  /-- A segment that cannot be hashed. What was reported before stays so. -/
  | encoding (fault : Utf8.Unencodable) (reported : List Event)
deriving DecidableEq, Repr

namespace Fault

def message : Fault → Text
  | rule fault => fault.message
  | document fault => fault.message
  | context fault => fault.message
  | encoding fault _ => fault.message

end Fault

namespace Request
variable (r : Request)

/-- The rule that a request selects: a list of options, a rule by its identifier, or the rule
that describes the place in the document. -/
def selectRule : Except RuleFault Rule :=
  if r.optionIds ≠ [] then (Rule.ofOptions r.optionIds r.separator).mapError .unknownSegment
  else
    match r.ruleId.filter (!·.isEmpty) with
    | some id => Rule.resolve id r.settings
    | none => .ok Rule.beta

/-- The expired releases that a rule would have used, reported when none applies. -/
def expiredReleases (rule : Rule) (settings : Settings) (today : Date) : List Event :=
  if .releaseName ∈ rule.segments ∧ (Release.active? settings.releases today).isNone then
    (Release.expired settings.releases today).map fun entry =>
      .releaseExpired entry.name entry.expiry
  else []

/-- What is reported of an element before it has a name. -/
def reported (rule : Rule) (element : Element) (today : Date) : List Event :=
  .elementLocated element.tagName element.start element.stop ::
    expiredReleases rule r.settings today

/-- The outcome for an element with the name that was generated for it. -/
def nameElement (rule : Rule) (document : Text) (element : Element) (context : Context)
    (today : Date) (className : Text) : Outcome :=
  let reported := r.reported rule element today
  if className.isEmpty then
    { status := .empty
      rule := rule
      document := document
      element := some element
      events := reported }
  else
    { status := .generated
      rule := rule
      document := document
      element := some element
      className := className
      markerValue :=
        if r.emitMarker.getD r.settings.pathMarker.enabled then
          some (Naming.markerValue context r.settings)
        else none
      events := reported ++ [.classGenerated className rule.name] }

/-- The name for the element at the cursor. -/
def generate (s : Path.Surroundings) (today : Date) : Except Fault Outcome := do
  let rule ← r.selectRule.mapError .rule
  let document ← r.document.mapError .document
  match locate? document r.offset r.settings.pathMarker.name.text with
  | none => return { status := .notFound, rule := rule, document := document }
  | some element =>
    let context ← (Context.ofFile s r.path document element.start r.workspace).mapError .context
    let className ← (rule.generate context r.settings today).mapError
      (.encoding · (r.reported rule element today))
    return r.nameElement rule document element context today className

/-- The name for the element at the cursor and the edit that writes it. -/
def apply (s : Path.Surroundings) (today : Date) : Except Fault Outcome := do
  let outcome ← r.generate s today
  match outcome.status.isOk, outcome.element with
  | true, some element =>
    let edit := buildEdit outcome.document element outcome.className outcome.markerValue
      (some r.settings.pathMarker.name.text)
    return { outcome with
      edit := some edit
      status := if edit.changes then .applied else .unchanged }
  | _, _ => return outcome

end Request
end MarkupNaming.Generation
