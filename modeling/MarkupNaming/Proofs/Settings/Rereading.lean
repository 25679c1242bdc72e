import MarkupNaming.Proofs.Yaml.Data
import MarkupNaming.Settings.Written

/-!
# Reading settings from their own data

Settings are read as they were from the data that are written for them. Every field of a record is
found under its key, and no key of a record is unknown.
-/
namespace MarkupNaming
open Text Yaml

/-! ## Keys -/

namespace Key
variable {fields : List (Text × Data)} {k : Key} {d : Data}

theorem sameKey_text (a b : Text) : (Value.text a).sameKey (.text b) = (a == b) := rfl

/-- A field is found by the text of its key, which stands there once. -/
theorem find?_toEntries (hnodup : (fields.map (·.1)).Nodup) {key : Text} (h : (key, d) ∈ fields) :
    (Data.toEntries fields).find? (·.1.sameKey (.text key)) = some (.text key, d.toValue) := by
  induction fields with
  | nil => cases h
  | cons field rest ih =>
    obtain ⟨name, e⟩ := field
    obtain ⟨hfresh, hnodup⟩ := List.nodup_cons.1 hnodup
    rw [Data.toEntries, List.find?_cons]
    rcases List.mem_cons.1 h with heq | hmem
    · obtain ⟨rfl, rfl⟩ := Prod.mk.inj heq
      simp only [sameKey_text, beq_self_eq_true]
    · have hne : (name == key) = false := by
        refine beq_eq_false_iff_ne.2 ?_
        rintro rfl
        exact hfresh (List.mem_map.2 ⟨_, hmem, rfl⟩)
      simp only [sameKey_text, hne]
      exact ih hnodup hmem

theorem spelling_toEntries (h : (k.camel, d) ∈ fields) :
    k.spelling (Data.toEntries fields) = k.camel := by
  refine if_pos (List.any_eq_true.2 ⟨(.text k.camel, d.toValue), ?_, ?_⟩)
  · rw [Data.toEntries_eq_map]
    exact List.mem_map.2 ⟨_, h, rfl⟩
  · simp only [sameKey_text, beq_self_eq_true]

theorem find?_of_mem (hnodup : (fields.map (·.1)).Nodup) (h : k.field d ∈ fields) :
    k.find? (Data.toEntries fields) = some d.toValue := by
  rw [find?, spelling_toEntries h, find?_toEntries hnodup h]
  rfl

theorem require_of_mem {α : Type} (as : Value → Checked α) (hnodup : (fields.map (·.1)).Nodup)
    (h : k.field d ∈ fields) : k.require (Data.toEntries fields) as = as d.toValue := by
  rw [require, find?_of_mem hnodup h]

theorem read_of_mem {α : Type} (default : α) (as : Value → Checked α)
    (hnodup : (fields.map (·.1)).Nodup) (h : k.field d ∈ fields) :
    k.read (Data.toEntries fields) default as = as d.toValue := by
  rw [read, find?_of_mem hnodup h]

/-- Fields under known keys in camel case are no faults. -/
theorem onlyKnown_toEntries {known : List Key}
    (h : ∀ field ∈ fields, ∃ k ∈ known, field.1 = k.camel) :
    onlyKnown (Data.toEntries fields) known = .valid () := by
  rw [onlyKnown, List.filter_eq_nil_iff.2]
  · rfl
  · intro entry hentry
    rw [Data.toEntries_eq_map] at hentry
    obtain ⟨⟨name, d⟩, hfield, rfl⟩ := List.mem_map.1 hentry
    obtain ⟨k, hk, rfl⟩ := h _ hfield
    simp only [Bool.not_eq_true', Bool.not_eq_false, List.any_eq_true]
    exact ⟨k, hk, by rw [spelling_toEntries hfield, sameKey_text, beq_self_eq_true]⟩

end Key

/-! ## Records -/

/-- A record whose fields stand under known keys is read by its fields. -/
theorem readRecord_toValue {α : Type} {known : List Key} {fields : List (Text × Data)}
    {read : List (Value × Value) → Checked α} {a : α}
    (h : ∀ field ∈ fields, ∃ k ∈ known, field.1 = k.camel)
    (hknown : ∀ k ∈ known, (Value.text k.camel).hasSurrogate = false)
    (hread : read (Data.toEntries fields) = .valid a) :
    readRecord known read (Data.record fields).toValue = .valid a := by
  have hnone : ¬(Data.toEntries fields).any (·.1.hasSurrogate) = true := by
    rw [Data.toEntries_eq_map, List.any_map, List.any_eq_true]
    rintro ⟨⟨name, d⟩, hfield, hsurrogate⟩
    obtain ⟨k, hk, rfl⟩ := h _ hfield
    rw [Function.comp_apply, hknown k hk] at hsurrogate
    cases hsurrogate
  rw [readRecord, Data.toValue, Value.asEntries]
  simp only [if_neg hnone, Key.onlyKnown_toEntries h, hread]
  rfl

theorem Release.nodup_keys (r : Release) : (r.fields.map (·.1)).Nodup := by
  have hkeys : [Keys.name.camel, Keys.expiry.camel].Nodup := by decide
  exact hkeys

theorem Release.read_toValue (r : Release) :
    Release.read (Data.record r.fields).toValue = .valid r := by
  refine readRecord_toValue (by simp [fields, Key.field]) (by decide) ?_
  rw [Key.require_of_mem (d := .text r.name) _ r.nodup_keys (by simp [fields]),
    Key.require_of_mem (d := .text r.expiry) _ r.nodup_keys (by simp [fields])]
  rfl

theorem asList_texts (texts : List Text) :
    Value.asList Value.asText (Data.list (texts.map .text)).toValue = .valid texts := by
  rw [Data.toValue, Data.toValues_eq_map, Value.asList, List.map_map, List.map_map]
  exact Checked.all_map_valid texts

/-- A list of records is read by its records. -/
theorem asList_records {α : Type} {read : Value → Checked α} {fields : α → List (Text × Data)}
    (h : ∀ a, read (Data.record (fields a)).toValue = .valid a) (items : List α) :
    Value.asList read (Data.list (items.map (.record <| fields ·))).toValue = .valid items := by
  rw [Data.toValue, Data.toValues_eq_map, Value.asList, List.map_map, List.map_map]
  refine (congrArg Checked.all (List.map_congr_left fun a _ => ?_)).trans
    (Checked.all_map_valid items)
  exact h a

theorem CustomRule.nodup_keys (r : CustomRule) : (r.fields.map (·.1)).Nodup := by
  have hkeys :
      [Keys.id.camel, Keys.name.camel, Keys.options.camel, Keys.separator.camel].Nodup := by
    decide
  exact hkeys

theorem CustomRule.read_toValue (r : CustomRule) :
    CustomRule.read (Data.record r.fields).toValue = .valid r := by
  refine readRecord_toValue (by simp [fields, Key.field]) (by decide) ?_
  rw [Key.require_of_mem (d := .text r.id) _ r.nodup_keys (by simp [fields]),
    Key.require_of_mem (d := .text r.name) _ r.nodup_keys (by simp [fields]),
    Key.read_of_mem (d := .list (r.options.map .text)) _ _ r.nodup_keys (by simp [fields]),
    Key.read_of_mem (d := .text r.separator) _ _ r.nodup_keys (by simp [fields]), asList_texts]
  rfl

theorem PathMarker.nodup_keys (m : PathMarker) : (m.fields.map (·.1)).Nodup := by
  have hkeys : [Keys.enabled.camel, Keys.attributeName.camel].Nodup := by decide
  exact hkeys

theorem asBool_toValue (b : Bool) : (Data.bool b).toValue.asBool = .valid b := by
  cases b <;> rfl

theorem asMarkerName_toValue (n : MarkerName) :
    (Data.text n.text).toValue.asMarkerName = .valid n := by
  simp [Data.toValue, Value.asMarkerName, Value.asText, Checked.ofOption]

theorem asNameCase_toValue (c : NameCase) : (Data.text c.text).toValue.asNameCase = .valid c := by
  simp [Data.toValue, Value.asNameCase, Checked.ofOption]

theorem asBetween_toValue {least greatest : Nat} (n : Between least greatest) :
    (Data.int n.val).toValue.asBetween = .valid n := by
  have hint : (Data.int n.val).toValue.asInt = .valid n.val := rfl
  rw [Value.asBetween, hint]
  simp [Checked.ofOption]

theorem PathMarker.read_toValue (m : PathMarker) :
    PathMarker.read (Data.record m.fields).toValue = .valid m := by
  refine readRecord_toValue (by simp [fields, Key.field]) (by decide) ?_
  rw [Key.read_of_mem (d := .bool m.enabled) _ _ m.nodup_keys (by simp [fields]),
    Key.read_of_mem (d := .text m.name.text) _ _ m.nodup_keys (by simp [fields]), asBool_toValue,
    asMarkerName_toValue]
  rfl

namespace Settings

theorem nodup_keys (s : Settings) : (s.fields.map (·.1)).Nodup := by
  have hkeys : (keys.map (·.camel)).Nodup := by decide
  exact hkeys

/-- Settings are read as they were from their own data. -/
theorem ofValue_toValue (s : Settings) : ofValue (Data.record s.fields).toValue = .ok s := by
  have hread : read (Data.record s.fields).toValue = .valid s := by
    refine readRecord_toValue (by simp [fields, Key.field, keys]) (by decide) ?_
    rw [Key.read_of_mem (d := .text s.label) _ _ s.nodup_keys (by simp [fields]),
      Key.read_of_mem (d := .int s.pathHashLength.val) _ _ s.nodup_keys (by simp [fields]),
      Key.read_of_mem (d := .int s.domHashLength.val) _ _ s.nodup_keys (by simp [fields]),
      Key.read_of_mem (d := .int s.abbreviationLength.val) _ _ s.nodup_keys (by simp [fields]),
      Key.read_of_mem (d := .text s.reversedNameCase.text) _ _ s.nodup_keys (by simp [fields]),
      Key.read_of_mem (d := .list (s.releases.map (.record ·.fields))) _ _ s.nodup_keys
        (by simp [fields]),
      Key.read_of_mem (d := .text s.defaultRelease) _ _ s.nodup_keys (by simp [fields]),
      Key.read_of_mem (d := .list (s.customRules.map (.record ·.fields))) _ _ s.nodup_keys
        (by simp [fields]),
      Key.read_of_mem (d := .record s.pathMarker.fields) _ _ s.nodup_keys (by simp [fields]),
      asBetween_toValue, asBetween_toValue, asBetween_toValue, asNameCase_toValue,
      asList_records Release.read_toValue, asList_records CustomRule.read_toValue,
      PathMarker.read_toValue]
    rfl
  rw [Data.toValue] at hread ⊢
  rw [ofValue, hread]
  rfl

end Settings

end MarkupNaming
