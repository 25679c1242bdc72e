import MarkupNaming.Text.Alphanumeric

/-!
# Word characters

Word characters are letters, digits, other numerals and the underscore. Tag names are runs of
them.
-/
namespace MarkupNaming.Text

/-- An ASCII letter. -/
def isAsciiLetter (c : Code) : Bool :=
  ('a' ≤ c && c ≤ 'z') || ('A' ≤ c && c ≤ 'Z')

/-- An ASCII digit. -/
def isAsciiDigit (c : Code) : Bool := '0' ≤ c && c ≤ '9'

/-- A letter, digit or numeral of any script, or the underscore. -/
def isWord (c : Code) : Bool :=
  if c.toNat < 128 then isAsciiLetter c || isAsciiDigit c || c == '_'
  else CharSet.contains ⟨alphanumericRanges⟩ c

theorem isWord_of_isAsciiLetter {c : Code} (h : isAsciiLetter c = true) : isWord c = true := by
  have : c.toNat < 128 := by
    simp only [isAsciiLetter, Bool.or_eq_true, Bool.and_eq_true, decide_eq_true_eq] at h
    rcases h with ⟨_, h⟩ | ⟨_, h⟩ <;>
      exact Nat.lt_of_le_of_lt (Code.le_iff_toNat_le.1 h) (by decide)
  simp [isWord, this, h]

end MarkupNaming.Text
