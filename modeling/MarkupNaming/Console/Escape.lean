import MarkupNaming.Text.Word

/-!
# Escape sequences

The sequences that set colours and move the cursor of a terminal. They are left out of results,
which may go to a file.
-/
namespace MarkupNaming.Console
open Text

/-- A character between the bracket of an escape sequence and its last letter. -/
def isParameter (c : Code) : Bool := c == ';' || c == '?' || isAsciiDigit c

/-- The text behind an escape sequence that goes on at the start of a text. -/
def behindEscape? (t : Text) : Option Text :=
  match t.dropWhile isParameter with
  | last :: behind => if isAsciiLetter last then some behind else none
  | [] => none

theorem length_of_behindEscape? {t behind : Text} (h : behindEscape? t = some behind) :
    behind.length < t.length := by
  have shorter := (List.dropWhile_suffix isParameter (l := t)).length_le
  unfold behindEscape? at h
  split at h
  · next found =>
    split at h
    · cases h
      rw [found, List.length_cons] at shorter
      exact shorter
    · cases h
  · cases h

/-- A text without its escape sequences. -/
def withoutEscapes (t : Text) : Text :=
  match t with
  | [] => []
  | '\x1b' :: '[' :: inside =>
    match _h : behindEscape? inside with
    | some behind => withoutEscapes behind
    | none => '\x1b' :: '[' :: withoutEscapes inside
  | c :: rest => c :: withoutEscapes rest
termination_by t.length
decreasing_by
  · have := length_of_behindEscape? (by assumption)
    simp only [List.length_cons]
    omega
  · simp only [List.length_cons]; omega
  · simp

end MarkupNaming.Console
