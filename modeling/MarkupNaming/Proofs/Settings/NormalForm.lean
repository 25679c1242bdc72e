import MarkupNaming.Proofs.Settings.Ordering
import MarkupNaming.Proofs.Settings.Rereading
import MarkupNaming.Settings.CustomRules

/-!
# The normal form of settings

The same settings are read from many mappings: with keys in either spelling, with numbers and
truth values as texts, days as dates, and blanks around a name. The mapping that is written for
settings is the normal form of all of these. Settings are read from it as they were, also after
edits, and no other settings are written as it.
-/
namespace MarkupNaming.Settings
open Text Yaml

/-- The mapping that is written for settings, with each field under its key in camel case. -/
def mapping (s : Settings) : Value := (Data.record s.fields).toValue

/-- Settings are read as they were from the mapping that is written for them. -/
theorem ofValue_mapping (s : Settings) : ofValue s.mapping = .ok s := ofValue_toValue s

/-- Only one value of settings is written as a mapping from which given settings are read. -/
theorem ofValue_mapping_eq_ok_iff {s t : Settings} : ofValue t.mapping = .ok s ↔ t = s := by
  rw [ofValue_mapping, Except.ok.injEq]

/-! ## Edits -/

/-- An edit of settings. Rules and releases are given as records that have to be read first. -/
inductive Edit
  | upsertRule (record : Value)
  | removeRule (id : Text)
  | addRelease (record : Value)
  | removeRelease (name : Text)

namespace Edit

/-- Settings behind an edit. -/
def apply (s : Settings) : Edit → Except SettingsFault Settings
  | upsertRule record => (CustomRule.read record).toExcept.mapError .faulty |>.map s.upsertRule
  | removeRule id => .ok (s.removeRule id)
  | addRelease record => (Release.read record).toExcept.mapError .faulty |>.bind s.addRelease
  | removeRelease name => .ok (s.removeRelease name)

/-- Whether an edit gives a record that can be read, and a release has a last day. -/
inductive IsValid : Edit → Prop
  | upsertRule {record : Value} {rule : CustomRule} (read : CustomRule.read record = .valid rule) :
      IsValid (.upsertRule record)
  | removeRule {id : Text} : IsValid (.removeRule id)
  | addRelease {record : Value} {release : Release} {day : Date}
      (read : Release.read record = .valid release) (dated : release.expiryDate? = some day) :
      IsValid (.addRelease record)
  | removeRelease {name : Text} : IsValid (.removeRelease name)

/-- A valid edit succeeds. -/
theorem IsValid.exists_apply {edit : Edit} (h : edit.IsValid) (s : Settings) :
    ∃ s', edit.apply s = .ok s' := by
  cases h with
  | upsertRule read =>
    rw [apply, read]
    exact ⟨_, rfl⟩
  | removeRule => exact ⟨_, rfl⟩
  | addRelease read dated =>
    rw [apply, read]
    exact ⟨_, addRelease_of_some dated⟩
  | removeRelease => exact ⟨_, rfl⟩

end Edit

/-- Settings behind edits that are made one after the other. -/
def edited (s : Settings) (edits : List Edit) : Except SettingsFault Settings :=
  edits.foldlM Edit.apply s

/-- A run of valid edits succeeds. -/
theorem exists_edited {edits : List Edit} (h : ∀ edit ∈ edits, edit.IsValid) (s : Settings) :
    ∃ s', s.edited edits = .ok s' := by
  induction edits generalizing s with
  | nil => exact ⟨s, rfl⟩
  | cons edit edits ih =>
    obtain ⟨hedit, hedits⟩ := List.forall_mem_cons.1 h
    obtain ⟨middle, hmiddle⟩ := hedit.exists_apply s
    obtain ⟨s', hs'⟩ := ih hedits middle
    refine ⟨s', ?_⟩
    rw [edited, List.foldlM_cons, hmiddle]
    exact hs'

/-- Settings that a mapping describes, and all that become of them by valid edits, are read as they
are from the mapping that is written for them, and from no other written one. -/
theorem exists_edited_ofValue_mapping {v : Value} {s : Settings} {edits : List Edit}
    (h : ofValue v = .ok s) (hedits : ∀ edit ∈ edits, edit.IsValid) :
    ofValue s.mapping = ofValue v ∧
      ∃ s', s.edited edits = .ok s' ∧ ofValue s'.mapping = .ok s' ∧
        ∀ t : Settings, ofValue t.mapping = .ok s' → t = s' := by
  obtain ⟨s', hs'⟩ := exists_edited hedits s
  refine ⟨(ofValue_mapping s).trans h.symm, s', hs', ofValue_mapping s', fun t ht => ?_⟩
  exact ofValue_mapping_eq_ok_iff.1 ht

/-- A mapping in mixed spellings, with an integer as a text, a truth value as an integer, a text as
a truth value, a day as a date, and blanks around the name of an attribute. -/
def looseMapping : Value :=
  .map [(.text "path_hash_length", .text "6"), (.text "abbrLength", .bool true),
    (.text "releases", .list [.map [(.text "name", .text "old"),
      (.text "expiry", .date ⟨2025, 3, 31⟩)]]),
    (.text "path_marker", .map [(.text "enabled", .text "yes"),
      (.text "attribute", .text " data-origin ")])]

/-- The settings that the mapping describes. -/
def looseSettings : Settings :=
  { defaults with
    pathHashLength := ⟨6, by decide, by decide⟩
    abbreviationLength := ⟨1, by decide, by decide⟩
    releases := [⟨"old", "2025-03-31"⟩]
    pathMarker := ⟨true, ⟨"data-origin", by decide⟩⟩ }

/-- A rule put in, a release added, and the earlier one removed. -/
def looseEdits : List Edit :=
  [.upsertRule (.map [(.text "id", .text "own"), (.text "name", .text "Own")]),
    .addRelease (.map [(.text "name", .text "new"), (.text "expiry", .date ⟨2025, 6, 30⟩)]),
    .removeRelease "old"]

/-- The settings behind the edits. -/
def tidySettings : Settings :=
  { looseSettings with
    releases := [⟨"new", "2025-06-30"⟩], customRules := [⟨"own", "Own", [], "--"⟩] }

/-- The loose mapping and the settings behind the edits have normal forms. -/
theorem exists_edited_looseMapping :
    ofValue looseMapping = .ok looseSettings ∧ (∀ edit ∈ looseEdits, edit.IsValid) ∧
      ofValue looseSettings.mapping = ofValue looseMapping ∧
      looseSettings.edited looseEdits = .ok tidySettings ∧
      ofValue tidySettings.mapping = .ok tidySettings := by
  have hread : ofValue looseMapping = .ok looseSettings := by rfl
  have hrule : CustomRule.read (.map [(.text "id", .text "own"), (.text "name", .text "Own")]) =
      .valid ⟨"own", "Own", [], "--"⟩ := by rfl
  have hrelease : Release.read
      (.map [(.text "name", .text "new"), (.text "expiry", .date ⟨2025, 6, 30⟩)]) =
      .valid ⟨"new", "2025-06-30"⟩ := by rfl
  have hdate : Release.expiryDate? ⟨"new", "2025-06-30"⟩ = some ⟨2025, 6, 30⟩ := by rfl
  have hedits : ∀ edit ∈ looseEdits, edit.IsValid := by
    simp only [looseEdits, List.forall_mem_cons, List.not_mem_nil, false_imp_iff, implies_true,
      and_true]
    exact ⟨.upsertRule hrule, .addRelease hrelease hdate, .removeRelease⟩
  have hsorted : Release.sorted (looseSettings.releases ++ [⟨"new", "2025-06-30"⟩]) =
      looseSettings.releases ++ [⟨"new", "2025-06-30"⟩] :=
    Release.sorted_eq_self (by decide)
  have hresult : looseSettings.edited looseEdits = .ok tidySettings := by
    have hrun : looseSettings.edited looseEdits =
        .ok (removeRelease { tidySettings with
          releases := Release.sorted (looseSettings.releases ++ [⟨"new", "2025-06-30"⟩]) }
          "old") := by rfl
    rw [hrun, hsorted]
    rfl
  obtain ⟨hnormal, s', hrun, hs', -⟩ := exists_edited_ofValue_mapping hread hedits
  obtain rfl := Except.ok.inj (hresult.symm.trans hrun)
  exact ⟨hread, hedits, hnormal, hresult, hs'⟩

end MarkupNaming.Settings
