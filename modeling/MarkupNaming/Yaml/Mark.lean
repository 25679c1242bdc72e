import MarkupNaming.Text.Basic

/-!
# Marks

Places in a text, and how a message shows one: by its line and column, and by the part of the line
around it with a caret below. Of a long line only the part near the place is shown.
-/
namespace MarkupNaming.Yaml
open Text

/-- A character that ends a line. -/
def isBreak (c : Code) : Bool :=
  c == '\n' || c == '\r' || c == '\x85' || c == '\u2028' || c == '\u2029'

/-- A place in a text. Lines and columns count from zero. -/
structure Mark where
  /-- Characters in front of the place. -/
  index : Nat := 0
  line : Nat := 0
  column : Nat := 0
deriving DecidableEq, Repr, Inhabited

namespace Mark

/-- The place behind one more character of the same line. -/
def right (m : Mark) : Mark := ⟨m.index + 1, m.line, m.column + 1⟩

/-- Whether two places have the same line and column. -/
def isAt (m other : Mark) : Bool := m.line == other.line && m.column == other.column

/-- The characters of a line that are shown on one side of a place, nearest first, and what stands
for those that are left out. -/
def side (chars : Text) : Text × Text :=
  if 36 < chars.length then (chars.take 32, " ... ") else (chars, [])

/-- The line of a place, with a caret below the place. -/
def excerpt (source : Text) (m : Mark) : Text :=
  let (before, head) := side ((source.take m.index).reverse.takeWhile (!isBreak ·))
  let (after, tail) := side ((source.drop m.index).takeWhile (!isBreak ·))
  let margin : Text := List.replicate 4 (Code.char ' ')
  let underline : Text := List.replicate (head.length + before.length) (Code.char ' ')
  margin ++ head ++ before.reverse ++ after ++ tail ++ .char '\n' :: margin ++ underline ++
    [Code.char '^']

/-- The name of a text in messages. -/
def sourceName : Text := "  in \"<unicode string>\", "

/-- A place in a message. -/
def text (source : Text) (m : Mark) : Text :=
  sourceName ++ "line " ++ ofNat (m.line + 1) ++ ", column " ++ ofNat (m.column + 1) ++ ":\n"
    ++ m.excerpt source

end Mark
end MarkupNaming.Yaml
