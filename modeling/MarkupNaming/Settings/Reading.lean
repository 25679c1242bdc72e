import MarkupNaming.Settings.Basic
import MarkupNaming.Settings.Checked
import MarkupNaming.Settings.Fault
import MarkupNaming.Value
import MarkupNaming.Text.Number
import MarkupNaming.Text.Utf8

/-!
# Reading settings

Settings out of a value. Every key is written in camel case or in snake case; where both stand,
the second one is unknown. Each field that holds no value of its kind, each missing field and
each unknown key is one fault, and the faults of all parts are counted.
-/
namespace MarkupNaming
open Text

namespace Value

/-- The entries of a mapping, or one fault. -/
def asEntries : Value → Checked (List (Value × Value))
  | map entries => .valid entries
  | _ => .faulty 1

/-- A text: a text, or bytes that encode one. -/
def asText : Value → Checked Text
  | text t => .valid t
  | bytes b => .ofOption (Utf8.decode b).toOption
  | _ => .faulty 1

/-- Digits without the zeros in front of them, among which underscores may stand. Of zeros and
underscores alone the last one is left. -/
def withoutLeadingZeros (t : Text) : Text :=
  if t.head? = some (.char '0') then
    match t.dropWhile fun c => c == .char '0' || c == .char '_' with
    | [] => t.drop (t.length - 1)
    | rest => rest
  else t

/-- The integer written by a text: an optional sign, digits, and a fraction of zeros. -/
def writtenInt? (t : Text) : Option Int :=
  let (negative, unsigned) := splitSign (unpadded t)
  let whole := unsigned.takeWhile (· != .char '.')
  let fraction := unsigned.drop whole.length
  if fraction = [] ∨ (1 < fraction.length ∧ (fraction.drop 1).all (· == .char '0')) then
    (groupedNumber? 10 asciiDigit? (withoutLeadingZeros whole)).map fun n => withSign negative n
  else none

/-- The text of a text or of bytes that encode one. -/
def text? (v : Value) : Option Text :=
  match v.asText with
  | .valid t => some t
  | .faulty _ => none

/-- An integer: a whole number, a truth value, or a text that writes an integer. -/
def asInt (v : Value) : Checked Int :=
  .ofOption (v.whole?.or (v.text?.bind writtenInt?))

/-- A number between two bounds. -/
def asBetween {least greatest : Nat} (v : Value) : Checked (Between least greatest) :=
  match v.asInt with
  | .valid n => .ofOption (Between.ofInt? n)
  | .faulty n => .faulty n

/-- The truth value that a text spells, in any case. -/
def writtenBool? (t : Text) : Option Bool :=
  let spelled := lower t
  if (["0", "off", "f", "false", "n", "no"] : List Text).contains spelled then some false
  else if (["1", "on", "t", "true", "y", "yes"] : List Text).contains spelled then some true
  else none

/-- A truth value: one itself, zero or one, or a text that spells one. -/
def asBool (v : Value) : Checked Bool :=
  .ofOption <| match v.whole? with
    | some 0 => some false
    | some 1 => some true
    | some _ => none
    | none => v.text?.bind writtenBool?

/-- A list whose items are all of one kind. -/
def asList {α : Type} (item : Value → Checked α) : Value → Checked (List α)
  | list items => .all (items.map item)
  | other _ items => .all (items.map item)
  | _ => .faulty 1

/-- How letters are written. -/
def asNameCase : Value → Checked NameCase
  | text t => .ofOption (NameCase.ofText? t)
  | _ => .faulty 1

/-- The name of an attribute. -/
def asMarkerName (v : Value) : Checked MarkerName :=
  match v.asText with
  | .valid t => .ofOption (MarkerName.ofText? t)
  | .faulty n => .faulty n

/-- A day as it is written: a text, or a date. -/
def asExpiry : Value → Checked Text
  | date d => .valid d.text
  | moment m => .valid m.date.text
  | v => v.asText

end Value

/-- The two spellings of a key. -/
structure Key where
  camel : Text
  snake : Text

namespace Key

/-- A key of one word, which is spelled the same in both ways. -/
def word (t : Text) : Key := ⟨t, t⟩

/-- The spelling of a key that counts in a mapping. -/
def spelling (entries : List (Value × Value)) (k : Key) : Text :=
  if entries.any (·.1.sameKey (.text k.camel)) then k.camel else k.snake

/-- The value under a key. -/
def find? (entries : List (Value × Value)) (k : Key) : Option Value :=
  (entries.find? (·.1.sameKey (.text (k.spelling entries)))).map (·.2)

/-- The value under a key that has a default. -/
def read {α : Type} (entries : List (Value × Value)) (k : Key) (default : α)
    (as : Value → Checked α) : Checked α :=
  match k.find? entries with
  | none => .valid default
  | some v => as v

/-- The value under a key that must be there. -/
def require {α : Type} (entries : List (Value × Value)) (k : Key) (as : Value → Checked α) :
    Checked α :=
  match k.find? entries with
  | none => .faulty 1
  | some v => as v

/-- One fault for each entry under a key that is not among `known`. -/
def onlyKnown (entries : List (Value × Value)) (known : List Key) : Checked Unit :=
  match (entries.filter fun (key, _) =>
      !known.any fun k => key.sameKey (.text (k.spelling entries))).length with
  | 0 => .valid ()
  | count => .faulty count

end Key

/-- Whether a value is a text with a lone surrogate. -/
def Value.hasSurrogate : Value → Bool
  | .text t => t.any (·.isSurrogate)
  | _ => false

/-- A record read from the entries of a mapping, all of whose keys are among `known`. A key with a
lone surrogate is compared with none of them, and then it is the only fault. -/
def readRecord {α : Type} (known : List Key) (fields : List (Value × Value) → Checked α)
    (v : Value) : Checked α :=
  match v.asEntries with
  | .valid entries =>
    if entries.any (·.1.hasSurrogate) then .faulty 1
    else (Key.onlyKnown entries known).after (fields entries)
  | .faulty n => .faulty n

namespace Keys

def name : Key := .word "name"
def expiry : Key := .word "expiry"
def id : Key := .word "id"
def options : Key := .word "options"
def separator : Key := .word "separator"
def enabled : Key := .word "enabled"
def attributeName : Key := .word "attribute"
def label : Key := ⟨"projectPrefix", "project_prefix"⟩
def pathHashLength : Key := ⟨"pathHashLength", "path_hash_length"⟩
def domHashLength : Key := ⟨"domHashLength", "dom_hash_length"⟩
def abbreviationLength : Key := ⟨"abbrLength", "abbr_length"⟩
def reversedNameCase : Key := ⟨"reversedNameCase", "reversed_name_case"⟩
def releases : Key := .word "releases"
def defaultRelease : Key := ⟨"defaultRelease", "default_release"⟩
def customRules : Key := ⟨"customRules", "custom_rules"⟩
def pathMarker : Key := ⟨"pathMarker", "path_marker"⟩

end Keys

/-- A release. -/
def Release.read : Value → Checked Release :=
  readRecord [Keys.name, Keys.expiry] fun entries =>
    Release.mk <$> Keys.name.require entries Value.asText
      <*> Keys.expiry.require entries Value.asExpiry

/-- A rule that a project defines. -/
def CustomRule.read : Value → Checked CustomRule :=
  readRecord [Keys.id, Keys.name, Keys.options, Keys.separator] fun entries =>
    CustomRule.mk <$> Keys.id.require entries Value.asText
      <*> Keys.name.require entries Value.asText
      <*> Keys.options.read entries [] (Value.asList Value.asText)
      <*> Keys.separator.read entries defaultSeparator Value.asText

/-- Whether and where paths are recorded. -/
def PathMarker.read : Value → Checked PathMarker :=
  readRecord [Keys.enabled, Keys.attributeName] fun entries =>
    PathMarker.mk <$> Keys.enabled.read entries false Value.asBool
      <*> Keys.attributeName.read entries MarkerName.default Value.asMarkerName

namespace Settings

/-- The keys of settings. -/
def keys : List Key :=
  [Keys.label, Keys.pathHashLength, Keys.domHashLength, Keys.abbreviationLength,
    Keys.reversedNameCase, Keys.releases, Keys.defaultRelease, Keys.customRules, Keys.pathMarker]

/-- Settings from a mapping, with the number of faults if there are any. -/
def read : Value → Checked Settings :=
  readRecord keys fun entries =>
    Settings.mk <$> Keys.label.read entries defaults.label Value.asText
      <*> Keys.pathHashLength.read entries defaults.pathHashLength Value.asBetween
      <*> Keys.domHashLength.read entries defaults.domHashLength Value.asBetween
      <*> Keys.abbreviationLength.read entries defaults.abbreviationLength Value.asBetween
      <*> Keys.reversedNameCase.read entries defaults.reversedNameCase Value.asNameCase
      <*> Keys.releases.read entries defaults.releases (Value.asList Release.read)
      <*> Keys.defaultRelease.read entries defaults.defaultRelease Value.asText
      <*> Keys.customRules.read entries defaults.customRules (Value.asList CustomRule.read)
      <*> Keys.pathMarker.read entries defaults.pathMarker PathMarker.read

/-- The settings that a value describes; no value describes the defaults. -/
def ofValue : Value → Except SettingsFault Settings
  | .null => .ok defaults
  | .map entries => (read (.map entries)).toExcept.mapError .faulty
  | v => .error (.notMapping v.kind)

end Settings
end MarkupNaming
