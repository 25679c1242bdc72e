import MarkupNaming.Naming.Segment
import MarkupNaming.Settings.CustomRules

/-!
# Rules

A rule is an ordered list of segments and a separator between them. Three rules are preset;
others are built from the records of the settings or from a list of identifiers. A name leaves
out empty segments, so no separator stands at its ends or twice in a row.
-/
namespace MarkupNaming.Naming
open Text

/-- A way to make names. -/
structure Rule where
  id : Text
  name : Text
  description : Text
  segments : List Segment
  separator : Text := defaultSeparator
  isPreset : Bool := false
deriving DecidableEq, Repr

/-- Parts joined with a separator, without the empty ones. -/
def compose (separator : Text) (parts : List Text) : Text :=
  join separator (parts.filter (!·.isEmpty))

namespace Rule
variable (r : Rule)

/-- The name for a place. The segments are generated in order, and the first one that cannot be is
the fault. -/
def generate (context : Context) (settings : Settings) (today : Date) :
    Except Utf8.Unencodable Text :=
  (r.segments.mapM (Segment.generate context settings today)).map (compose r.separator)

/-- The identifiers of the segments in braces. -/
def pattern : Text :=
  join r.separator (r.segments.map fun s => .char '\x7b' :: s.id ++ ([.char '\x7d'] : Text))

/-- A sample made of the samples of the segments. -/
def sample : Text := join r.separator (r.segments.map (·.sample))

/-- Label, abbreviated path and hash of the path. -/
def alpha : Rule where
  id := "ruleAlpha"
  name := "Rule Alpha"
  description := "Project Prefix + Abbreviated File Path + Path Hash"
  segments := [.label, .abbreviatedPath, .pathHash]
  isPreset := true

/-- Label, abbreviated place in the document and hash of the place. -/
def beta : Rule where
  id := "ruleBeta"
  name := "Rule Beta"
  description := "Project Prefix + Abbreviated DOM Position + DOM Hash"
  segments := [.label, .abbreviatedDom, .domHash]
  isPreset := true

/-- Label and reversed file name. -/
def gamma : Rule where
  id := "ruleGamma"
  name := "Rule Gamma"
  description := "Project Prefix + Reversed File Name"
  segments := [.label, .reversedFileName]
  isPreset := true

/-- The preset rules. -/
def presets : List Rule := [alpha, beta, gamma]

/-- The preset rule of an identifier. -/
def preset? (id : Text) : Option Rule := presets.find? (·.id == id)

/-- The rule that a record of the settings defines. -/
def ofCustom (record : CustomRule) : Except UnknownSegment Rule :=
  (Segment.findAll record.options).map fun segments =>
    { id := record.id
      name := record.name
      description := "Custom rule '" ++ record.name ++ "'"
      segments := segments
      separator := record.separator }

/-- The rule that a list of identifiers makes. -/
def ofOptions (ids : List Text) (separator : Text := defaultSeparator) :
    Except UnknownSegment Rule :=
  (Segment.findAll ids).map fun segments =>
    { id := "adhoc"
      name := "Ad hoc"
      description := "Options selected on the command line"
      segments := segments
      separator := separator }

/-- The preset rules and the rules of the settings. -/
def available (settings : Settings) : Except UnknownSegment (List Rule) :=
  (settings.customRules.mapM ofCustom).map (presets ++ ·)

end Rule

/-- Why a rule cannot be had. -/
inductive RuleFault
  | unknownRule (id : Text) (known : List Text)
  | unknownSegment (fault : UnknownSegment)
deriving DecidableEq, Repr

namespace RuleFault

def message : RuleFault → Text
  | unknownRule id known => "Unknown rule '" ++ id ++ "'. Available: " ++ join ", " known
  | unknownSegment fault => fault.message

end RuleFault

/-- The rule of an identifier: a preset one, or one of the settings. -/
def Rule.resolve (id : Text) (settings : Settings) : Except RuleFault Rule :=
  match preset? id with
  | some r => .ok r
  | none =>
    match settings.findRule? id with
    | some record => (ofCustom record).mapError .unknownSegment
    | none =>
      .error (.unknownRule id (presets.map (·.id) ++ settings.customRules.map (·.id)))

end MarkupNaming.Naming
