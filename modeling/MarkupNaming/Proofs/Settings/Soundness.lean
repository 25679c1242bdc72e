import Mathlib.Data.List.Nodup
import MarkupNaming.Proofs.Naming.Composition
import MarkupNaming.Proofs.Settings.Ordering

/-!
# Sound settings

What holds of settings that were only ever edited: no two rules have one identifier and none has
that of a preset, names have a character that is no blank, rules name known segments, and releases
have a last day and stand in order. Each edit keeps this. The rules of sound settings can be
listed, and each of them is the one that its identifier names.
-/
namespace MarkupNaming
open Text Naming

/-- A rule that commands may put into settings. -/
structure CustomRule.IsSound (r : CustomRule) : Prop where
  custom : Rule.preset? r.id = none
  named : trim r.name ≠ []
  known : ∀ option ∈ r.options, (Segment.ofId? option).isSome

/-- A release that commands may put into settings. -/
structure Release.IsSound (r : Release) : Prop where
  named : trim r.name ≠ []
  dated : r.expiryDate?.isSome

/-- Settings that commands may leave behind. -/
structure Settings.IsSound (s : Settings) : Prop where
  nodup : (s.customRules.map (·.id)).Nodup
  rules : ∀ r ∈ s.customRules, r.IsSound
  releases : ∀ r ∈ s.releases, r.IsSound
  inOrder : s.releases.Pairwise fun a b => a.noLater b = true

/-! ## Rules and segments -/

theorem Naming.Rule.exists_ofCustom_iff {record : CustomRule} :
    (∃ r, ofCustom record = .ok r) ↔ ∀ option ∈ record.options, (Segment.ofId? option).isSome := by
  simp only [Segment.isSome_ofId?_iff]
  rw [← Segment.exists_findAll_iff, ofCustom]
  cases Segment.findAll record.options <;> simp [Except.map]

theorem Naming.Rule.id_of_ofCustom {record : CustomRule} {r : Rule} (h : ofCustom record = .ok r) :
    r.id = record.id := by
  rw [ofCustom] at h
  cases hfind : Segment.findAll record.options with
  | error fault =>
    rw [hfind] at h
    cases h
  | ok segments =>
    rw [hfind] at h
    obtain rfl := Except.ok.inj h
    rfl

/-- Each preset rule is the one that its identifier names. -/
theorem Naming.Rule.preset?_id : ∀ r ∈ presets, preset? r.id = some r := by
  decide

namespace Settings
variable {s s' : Settings} {rule : CustomRule} {release : Release}

/-- The rules of records that all define one are made of these records. -/
theorem exists_rules {records : List CustomRule} (h : ∀ record ∈ records, record.IsSound) :
    ∃ rules, records.mapM Rule.ofCustom = .ok rules ∧
      ∀ r ∈ rules, ∃ record ∈ records, Rule.ofCustom record = .ok r := by
  induction records with
  | nil => exact ⟨[], rfl, by simp⟩
  | cons record records ih =>
    obtain ⟨hrecord, hrecords⟩ := List.forall_mem_cons.1 h
    obtain ⟨r, hr⟩ := Rule.exists_ofCustom_iff.2 hrecord.known
    obtain ⟨rules, hrules, hmade⟩ := ih hrecords
    refine ⟨r :: rules, by rw [List.mapM_cons, hr, hrules]; rfl, ?_⟩
    refine List.forall_mem_cons.2 ⟨⟨record, List.mem_cons_self, hr⟩, fun r' hr' => ?_⟩
    obtain ⟨record', hmem, hmade⟩ := hmade r' hr'
    exact ⟨record', List.mem_cons_of_mem _ hmem, hmade⟩

theorem find?_of_nodup {records : List CustomRule} (h : (records.map (·.id)).Nodup)
    (hmem : rule ∈ records) : records.find? (·.id == rule.id) = some rule := by
  induction records with
  | nil => cases hmem
  | cons record records ih =>
    obtain ⟨hnotin, hnodup⟩ := List.nodup_cons.1 h
    rcases List.mem_cons.1 hmem with rfl | hmem
    · exact List.find?_cons_of_pos (beq_self_eq_true _)
    · rw [List.find?_cons_of_neg, ih hnodup hmem]
      intro hid
      exact hnotin (List.mem_map.2 ⟨rule, hmem, (beq_iff_eq.1 hid).symm⟩)

/-- The rules of sound settings can be listed, and each is the one that its identifier names. -/
theorem IsSound.exists_available (h : s.IsSound) :
    ∃ rules, Rule.available s = .ok rules ∧ ∀ r ∈ rules, Rule.resolve r.id s = .ok r := by
  obtain ⟨rules, hrules, hmade⟩ := exists_rules h.rules
  refine ⟨Rule.presets ++ rules, by rw [Rule.available, hrules]; rfl, ?_⟩
  refine List.forall_mem_append.2 ⟨fun r hr => ?_, fun r hr => ?_⟩
  · rw [Rule.resolve, Rule.preset?_id r hr]
  · obtain ⟨record, hmem, hcustom⟩ := hmade r hr
    have hid := Rule.id_of_ofCustom hcustom
    have hfind : s.findRule? r.id = some record := hid ▸ find?_of_nodup h.nodup hmem
    have hpreset : Rule.preset? r.id = none := hid ▸ (h.rules record hmem).custom
    simp only [Rule.resolve, hpreset, hfind, hcustom]
    rfl

/-! ## Edits -/

theorem isSound_defaults : defaults.IsSound :=
  ⟨.nil, by simp [defaults], by simp [defaults], .nil⟩

theorem mem_of_mem_upsert {records : List CustomRule} {record : CustomRule}
    (h : record ∈ upsert rule records) : record = rule ∨ record ∈ records := by
  induction records with
  | nil => exact .inl (List.mem_singleton.1 h)
  | cons first records ih =>
    rw [upsert] at h
    split at h
    · exact (List.mem_cons.1 h).imp_right (List.mem_cons_of_mem _)
    · rcases List.mem_cons.1 h with rfl | h
      · exact .inr List.mem_cons_self
      · exact (ih h).imp_right (List.mem_cons_of_mem _)

/-- A rule is put in the place of the one with its identifier, or it brings a new one. -/
theorem map_id_upsert (rule : CustomRule) (records : List CustomRule) :
    (upsert rule records).map (·.id) =
      if rule.id ∈ records.map (·.id) then records.map (·.id)
      else records.map (·.id) ++ [rule.id] := by
  induction records with
  | nil => rfl
  | cons first records ih =>
    rw [upsert]
    by_cases hid : first.id = rule.id
    · simp [hid]
    · by_cases hmem : rule.id ∈ records.map (·.id)
      · simp [hid, hmem, ih]
      · simp [hid, hmem, ih, Ne.symm hid]

theorem IsSound.upsertRule (h : s.IsSound) (hrule : rule.IsSound) :
    (s.upsertRule rule).IsSound where
  nodup := by
    change ((upsert rule s.customRules).map (·.id)).Nodup
    rw [map_id_upsert]
    split
    · exact h.nodup
    · next hnew =>
      refine List.nodup_append.2 ⟨h.nodup, List.nodup_singleton _, fun id hid other hother => ?_⟩
      rintro rfl
      exact hnew (List.mem_singleton.1 hother ▸ hid)
  rules r hr := (mem_of_mem_upsert hr).elim (· ▸ hrule) (h.rules r)
  releases := h.releases
  inOrder := h.inOrder

theorem IsSound.removeRule (h : s.IsSound) (id : Text) : (s.removeRule id).IsSound where
  nodup := h.nodup.sublist (List.filter_sublist.map _)
  rules r hr := h.rules r (List.mem_filter.1 hr).1
  releases := h.releases
  inOrder := h.inOrder

theorem IsSound.addRelease (h : s.IsSound) (hnamed : trim release.name ≠ [])
    (hadd : s.addRelease release = .ok s') : s'.IsSound := by
  unfold Settings.addRelease at hadd
  split at hadd
  · next hdated =>
    obtain rfl := Except.ok.inj hadd
    refine ⟨h.nodup, h.rules, fun r hr => ?_, Release.pairwise_sorted _⟩
    rcases List.mem_append.1 ((Release.perm_sorted _).mem_iff.1 hr) with hr | hr
    · exact h.releases r hr
    · exact List.mem_singleton.1 hr ▸ ⟨hnamed, hdated⟩
  · cases hadd

theorem IsSound.removeRelease (h : s.IsSound) (name : Text) : (s.removeRelease name).IsSound where
  nodup := h.nodup
  rules := h.rules
  releases r hr := h.releases r (List.mem_filter.1 hr).1
  inOrder := h.inOrder.sublist List.filter_sublist

end Settings
end MarkupNaming
