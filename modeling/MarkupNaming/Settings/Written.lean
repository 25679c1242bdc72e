import MarkupNaming.Settings.Reading
import MarkupNaming.Yaml.Data

/-!
# Written settings

Settings as data. Every field is written, under its key in camel case and in a fixed order, so
that nothing depends on defaults when settings are read again.
-/
namespace MarkupNaming
open Text Yaml

/-- A field under its key in camel case. -/
def Key.field (k : Key) (d : Data) : Text × Data := (k.camel, d)

/-- The fields of a release. -/
def Release.fields (r : Release) : List (Text × Data) :=
  [Keys.name.field (.text r.name), Keys.expiry.field (.text r.expiry)]

/-- The fields of a custom rule. -/
def CustomRule.fields (r : CustomRule) : List (Text × Data) :=
  [Keys.id.field (.text r.id), Keys.name.field (.text r.name),
    Keys.options.field (.list (r.options.map .text)), Keys.separator.field (.text r.separator)]

/-- The fields of a path marker. -/
def PathMarker.fields (m : PathMarker) : List (Text × Data) :=
  [Keys.enabled.field (.bool m.enabled), Keys.attributeName.field (.text m.name.text)]

namespace Settings

/-- The fields of settings. -/
def fields (s : Settings) : List (Text × Data) :=
  [Keys.label.field (.text s.label),
    Keys.pathHashLength.field (.int s.pathHashLength.val),
    Keys.domHashLength.field (.int s.domHashLength.val),
    Keys.abbreviationLength.field (.int s.abbreviationLength.val),
    Keys.reversedNameCase.field (.text s.reversedNameCase.text),
    Keys.releases.field (.list (s.releases.map (.record ·.fields))),
    Keys.defaultRelease.field (.text s.defaultRelease),
    Keys.customRules.field (.list (s.customRules.map (.record ·.fields))),
    Keys.pathMarker.field (.record s.pathMarker.fields)]

/-- The text of a settings file. -/
def written (s : Settings) : Text := Data.document s.fields

end Settings
end MarkupNaming
