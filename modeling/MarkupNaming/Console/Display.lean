import MarkupNaming.Console.Cells
import MarkupNaming.Text.Blank

/-!
# Display

How a text appears on a console. Characters that would move the cursor are left out, and
tabulators become spaces up to the next tabulator stop.
-/
namespace MarkupNaming.Console
open Text

/-- A character that a console would act on: bell, backspace, vertical tabulator, form feed or
carriage return. -/
def isCursorControl (c : Code) : Bool :=
  c.toNat = 7 || c.toNat = 8 || c.toNat = 11 || c.toNat = 12 || c.toNat = 13

/-- A text without the characters that a console would act on. -/
def harmless (t : Text) : Text := t.filter (!isCursorControl ·)

/-- The distance of tabulator stops. -/
def tabDistance : Nat := 8

/-- A line that starts at a column, with its tabulators expanded. -/
def expandTabs (column : Nat) : Text → Text
  | [] => []
  | c :: rest =>
    if c = '\t' then
      let next := (column / tabDistance + 1) * tabDistance
      List.replicate (next - column) (Code.char ' ') ++ expandTabs next rest
    else c :: expandTabs (column + cellsOf c) rest

/-- The lines that a console shows for a text. -/
def displayLines (t : Text) : List Text :=
  (splitAll (· == .char '\n') (harmless t)).map (expandTabs 0)

/-- What a console writes for a text, with a line feed at the end. -/
def display (t : Text) : Text := join [.char '\n'] (displayLines t) ++ [Code.char '\n']

end MarkupNaming.Console
