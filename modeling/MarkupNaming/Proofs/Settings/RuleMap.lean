import Mathlib.Data.Finmap
import MarkupNaming.Proofs.Settings.Soundness

/-!
# Custom rules as a finite map

What identifiers name while the custom rules are edited. A list of rules stands for the finite map
from each identifier to the first rule that has it, also if identifiers repeat. Putting a rule in
replaces that first rule only, and removing an identifier takes away all rules that have it, so the
first is an insertion into the map and the second an erasure. A rule that is put in moves no other
rule, and no edit changes anything else of the settings. Settings are values: an edit makes new ones
and leaves those that it was given.
-/
namespace MarkupNaming.Settings
variable {rule : CustomRule} {rules : List CustomRule}

/-! ## Look-up -/

theorem find?_upsert (rule : CustomRule) (rules : List CustomRule) (id : Text) :
    (upsert rule rules).find? (·.id == id) =
      if id = rule.id then some rule else rules.find? (·.id == id) := by
  induction rules with
  | nil =>
    rw [upsert, List.find?_singleton, List.find?_nil]
    exact if_congr (beq_iff_eq.trans eq_comm) rfl rfl
  | cons first rules ih =>
    rw [upsert]
    by_cases hfirst : first.id = rule.id
    · rw [if_pos hfirst]
      by_cases hid : id = rule.id
      · simp [hid]
      · -- Neither the rule that goes nor the one that comes has the identifier.
        have hne : ¬ rule.id = id := Ne.symm hid
        simp [hid, hfirst, hne]
    · rw [if_neg hfirst]
      by_cases hid : first.id = id
      · have hne : ¬ id = rule.id := hid ▸ hfirst
        simp [hid, hne]
      · simpa [hid] using ih

theorem find?_remove (rules : List CustomRule) (gone id : Text) :
    (rules.filter (·.id != gone)).find? (·.id == id) =
      if id = gone then none else rules.find? (·.id == id) := by
  rw [List.find?_filter]
  by_cases hid : id = gone
  · simp +contextual [hid]
  · rw [if_neg hid]
    congr 1
    funext rule
    by_cases hrule : rule.id = id <;> simp [hrule, hid]

/-- A rule that was put into settings is the one that its identifier names, and other identifiers
name what they did. -/
theorem findRule?_upsertRule (s : Settings) (rule : CustomRule) (id : Text) :
    (s.upsertRule rule).findRule? id = if id = rule.id then some rule else s.findRule? id :=
  find?_upsert rule s.customRules id

/-- A removed identifier names nothing, and others name what they did. -/
theorem findRule?_removeRule (s : Settings) (gone id : Text) :
    (s.removeRule gone).findRule? id = if id = gone then none else s.findRule? id :=
  find?_remove s.customRules gone id

/-! ## Places -/

/-- A rule takes the place of the first one with its identifier. -/
theorem upsert_of_mem (h : rule.id ∈ rules.map (·.id)) :
    upsert rule rules = rules.set (rules.findIdx (·.id == rule.id)) rule := by
  induction rules with
  | nil => cases h
  | cons first rules ih =>
    rw [upsert, List.findIdx_cons]
    by_cases hfirst : first.id = rule.id
    · simp [hfirst]
    · have hrest : rule.id ∈ rules.map (·.id) :=
        (List.mem_cons.1 h).resolve_left (Ne.symm hfirst)
      rw [if_neg hfirst, ih hrest, beq_eq_false_iff_ne.2 hfirst, cond_false, List.set_cons_succ]

/-- A rule with a new identifier is appended. -/
theorem upsert_of_notMem (h : rule.id ∉ rules.map (·.id)) :
    upsert rule rules = rules ++ [rule] := by
  induction rules with
  | nil => rfl
  | cons first rules ih =>
    rw [List.map_cons, List.mem_cons, not_or] at h
    rw [upsert, if_neg (Ne.symm h.1), ih h.2, List.cons_append]

/-! ## The map -/

/-- The rules that identifiers name. Of several rules with one identifier, the first is put in
last. -/
def ruleMap (rules : List CustomRule) : Finmap fun _ : Text => CustomRule :=
  rules.foldr (fun rule named => named.insert rule.id rule) ∅

theorem lookup_ruleMap (rules : List CustomRule) (id : Text) :
    (ruleMap rules).lookup id = rules.find? (·.id == id) := by
  induction rules with
  | nil => exact Finmap.lookup_empty id
  | cons first rules ih =>
    rw [ruleMap, List.foldr_cons, ← ruleMap]
    by_cases hid : first.id = id
    · rw [List.find?_cons_of_pos (by simpa using hid), ← hid, Finmap.lookup_insert]
    · rw [List.find?_cons_of_neg (by simpa using hid),
      Finmap.lookup_insert_of_ne _ (Ne.symm hid), ih]

theorem ruleMap_upsert (rule : CustomRule) (rules : List CustomRule) :
    ruleMap (upsert rule rules) = (ruleMap rules).insert rule.id rule := by
  apply Finmap.ext_lookup
  intro id
  rw [lookup_ruleMap, find?_upsert]
  split
  · next hid => rw [hid, Finmap.lookup_insert]
  · next hid => rw [Finmap.lookup_insert_of_ne _ hid, lookup_ruleMap]

theorem ruleMap_remove (rules : List CustomRule) (gone : Text) :
    ruleMap (rules.filter (·.id != gone)) = (ruleMap rules).erase gone := by
  apply Finmap.ext_lookup
  intro id
  rw [lookup_ruleMap, find?_remove]
  split
  · next hid => rw [hid, Finmap.lookup_erase]
  · next hid => rw [Finmap.lookup_erase_ne hid, lookup_ruleMap]

/-! ## Edits -/

/-- An edit of the custom rules. -/
inductive RuleEdit
  | upsert (rule : CustomRule)
  | remove (id : Text)

namespace RuleEdit

/-- Settings behind an edit. -/
def apply (s : Settings) : RuleEdit → Settings
  | upsert rule => s.upsertRule rule
  | remove id => s.removeRule id

/-- What an edit is for a finite map. -/
def applyMap (named : Finmap fun _ : Text => CustomRule) :
    RuleEdit → Finmap fun _ : Text => CustomRule
  | upsert rule => named.insert rule.id rule
  | remove id => named.erase id

theorem ruleMap_apply (edit : RuleEdit) (s : Settings) :
    ruleMap (edit.apply s).customRules = edit.applyMap (ruleMap s.customRules) := by
  cases edit with
  | upsert rule => exact ruleMap_upsert rule s.customRules
  | remove id => exact ruleMap_remove s.customRules id

end RuleEdit

/-- Settings behind edits that are made one after the other. -/
def ruleEdited (s : Settings) (edits : List RuleEdit) : Settings := edits.foldl RuleEdit.apply s

theorem ruleMap_ruleEdited (s : Settings) (edits : List RuleEdit) :
    ruleMap (s.ruleEdited edits).customRules =
      edits.foldl RuleEdit.applyMap (ruleMap s.customRules) := by
  induction edits generalizing s with
  | nil => rfl
  | cons edit edits ih =>
    rw [List.foldl_cons, ← edit.ruleMap_apply]
    exact ih (edit.apply s)

/-- Edits change nothing but the rules. -/
theorem exists_ruleEdited_eq (s : Settings) (edits : List RuleEdit) :
    ∃ rules, s.ruleEdited edits = { s with customRules := rules } := by
  induction edits generalizing s with
  | nil => exact ⟨s.customRules, rfl⟩
  | cons edit edits ih =>
    obtain ⟨rules, hrules⟩ := ih (edit.apply s)
    refine ⟨rules, ?_⟩
    calc s.ruleEdited (edit :: edits) = (edit.apply s).ruleEdited edits := rfl
      _ = { edit.apply s with customRules := rules } := hrules
      _ = { s with customRules := rules } := by cases edit <;> rfl

/-- Behind any edits of the rules of any settings, identifiers name what they name in the finite map
behind the same edits, and all but the rules is as it was. A further rule is found under its
identifier and a removed one is not, and what other identifiers name does not change. The further
rule takes the place of the first one with its identifier, if there is one, and else it is
appended. -/
theorem findRule?_ruleEdited (s : Settings) (edits : List RuleEdit) :
    (∀ id, (s.ruleEdited edits).findRule? id =
      (edits.foldl RuleEdit.applyMap (ruleMap s.customRules)).lookup id) ∧
    s.ruleEdited edits = { s with customRules := (s.ruleEdited edits).customRules } ∧
    (∀ rule id, ((s.ruleEdited edits).upsertRule rule).findRule? id =
      if id = rule.id then some rule else (s.ruleEdited edits).findRule? id) ∧
    (∀ gone id, ((s.ruleEdited edits).removeRule gone).findRule? id =
      if id = gone then none else (s.ruleEdited edits).findRule? id) ∧
    ∀ rule, let rules := (s.ruleEdited edits).customRules
      let rules' := ((s.ruleEdited edits).upsertRule rule).customRules
      if rule.id ∈ rules.map (·.id) then
        rules'.length = rules.length ∧ rules'.map (·.id) = rules.map (·.id) ∧
          rules' = rules.set (rules.findIdx (·.id == rule.id)) rule
      else rules' = rules ++ [rule] := by
  refine ⟨?_, ?_, findRule?_upsertRule _, findRule?_removeRule _, ?_⟩
  · intro id
    rw [← ruleMap_ruleEdited, lookup_ruleMap]
    rfl
  · obtain ⟨rules, hrules⟩ := exists_ruleEdited_eq s edits
    rw [hrules]
  · intro rule
    dsimp only
    split
    · next hmem =>
      have hplace := upsert_of_mem hmem
      have hids := map_id_upsert rule (s.ruleEdited edits).customRules
      rw [if_pos hmem] at hids
      exact ⟨(congrArg List.length hplace).trans List.length_set, hids, hplace⟩
    · next hnew => exact upsert_of_notMem hnew

end MarkupNaming.Settings
