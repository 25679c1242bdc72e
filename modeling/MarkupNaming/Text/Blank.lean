import MarkupNaming.Text.Basic

/-!
# Blanks

Blank characters, trimming and words. The blanks are the characters of the Unicode classes for
spaces and line boundaries together with the separators U+001C to U+001F. A word is a maximal
run without blanks.
-/
namespace MarkupNaming.Text

/-- Spaces, tabulators, line and paragraph boundaries, and the four information separators. -/
def isBlank (c : Code) : Bool :=
  let n := c.toNat
  (9 ≤ n && n ≤ 13) || (0x1C ≤ n && n ≤ 0x20) || n == 0x85 || n == 0xA0 || n == 0x1680 ||
    (0x2000 ≤ n && n ≤ 0x200A) || n == 0x2028 || n == 0x2029 || n == 0x202F || n == 0x205F ||
    n == 0x3000

/-- The text without the blanks at its start. -/
def trimStart (t : Text) : Text := t.dropWhile isBlank

/-- The text without the blanks at its end. -/
def trimEnd (t : Text) : Text := (t.reverse.dropWhile isBlank).reverse

/-- The text without the blanks at its two ends. -/
def trim (t : Text) : Text := trimEnd (trimStart t)

/-- A word put in front of others, unless it is empty. -/
def flush : Text → List Text → List Text
  | [], ws => ws
  | w, ws => w :: ws

/-- The run without blanks at the start of a text, and the words after it. -/
def leadingWord : Text → Text × List Text
  | [] => ([], [])
  | c :: t =>
    let (w, ws) := leadingWord t
    if isBlank c then ([], flush w ws) else (c :: w, ws)

/-- The words of a text in order. -/
def words (t : Text) : List Text := flush (leadingWord t).1 (leadingWord t).2

@[simp] theorem words_nil : words [] = [] := rfl

theorem words_cons_blank {c : Code} (h : isBlank c = true) (t : Text) :
    words (c :: t) = words t := by
  simp [words, leadingWord, h, flush]

/-- Every run of blanks replaced by one copy of `mark`. -/
def collapseBlanks (mark : Code) : Text → Text
  | [] => []
  | c :: t =>
    if isBlank c then
      match t with
      | [] => [mark]
      | d :: _ => if isBlank d then collapseBlanks mark t else mark :: collapseBlanks mark t
    else c :: collapseBlanks mark t

end MarkupNaming.Text
