import MarkupNaming.Settings.Basic

/-!
# Custom rules

Custom rules as a map from identifiers. The first rule with an identifier is the one it names.
-/
namespace MarkupNaming.Settings

/-- The rule that an identifier names. -/
def findRule? (s : Settings) (id : Text) : Option CustomRule :=
  s.customRules.find? (·.id == id)

/-- Rules with one put in the place of the first rule of its identifier, or at the end. -/
def upsert (rule : CustomRule) : List CustomRule → List CustomRule
  | [] => [rule]
  | r :: rest => if r.id = rule.id then rule :: rest else r :: upsert rule rest

/-- Settings with a rule put in. -/
def upsertRule (s : Settings) (rule : CustomRule) : Settings :=
  { s with customRules := upsert rule s.customRules }

/-- Settings without the rules of an identifier. -/
def removeRule (s : Settings) (id : Text) : Settings :=
  { s with customRules := s.customRules.filter (·.id != id) }

end MarkupNaming.Settings
