import MarkupNaming.Text.Lines

/-!
# Positions

Cursors in a document: an offset, or a line and a column that count from one. The column may
point right behind the last character of its line.
-/
namespace MarkupNaming
open Text

/-- Why a position lies outside a document. -/
inductive PositionFault
  | notPositive (line column : Int)
  | lineTooLarge (line : Int) (count : Nat)
  | columnTooLarge (line column : Int)
  | offsetTooLarge (offset : Int)
deriving DecidableEq, Repr

namespace PositionFault

def message : PositionFault → Text
  | notPositive line column =>
    "Line and column are 1-based (got " ++ ofInt line ++ ":" ++ ofInt column ++ ")."
  | lineTooLarge line count =>
    "Line " ++ ofInt line ++ " is past the end of the document (" ++ ofNat count ++ " lines)."
  | columnTooLarge line column =>
    "Column " ++ ofInt column ++ " is past the end of line " ++ ofInt line ++ "."
  | offsetTooLarge offset => "Offset " ++ ofInt offset ++ " is past the end of the document."

end PositionFault

/-- The offset of a line and a column. -/
def offsetOfPosition (document : Text) (line column : Int) : Except PositionFault Nat :=
  if line < 1 ∨ column < 1 then .error (.notPositive line column)
  else
    match (lines document)[line.toNat - 1]? with
    | none => .error (.lineTooLarge line (lines document).length)
    | some found =>
      if column > found.stop - found.start + 1 then .error (.columnTooLarge line column)
      else .ok (found.start + column.toNat - 1)

/-- A cursor as it is given: an offset, or a line with a column. -/
structure Cursor where
  offset : Option Int
  line : Option Int
  column : Int
deriving DecidableEq, Repr

/-- Why a cursor names no offset. -/
inductive CursorFault
  | ambiguous
  | missing
  | outside (fault : PositionFault)
deriving DecidableEq, Repr

def CursorFault.message : CursorFault → Text
  | ambiguous => "Use either --offset or --line/--column, not both."
  | missing => "A position is required: pass --offset or --line/--column."
  | outside fault => fault.message

namespace Cursor

/-- The offset that a cursor names. -/
def resolve (document : Text) (c : Cursor) : Except CursorFault Int :=
  match c.offset, c.line with
  | some _, some _ => .error .ambiguous
  | some offset, none =>
    if offset > document.length then .error (.outside (.offsetTooLarge offset)) else .ok offset
  | none, some line =>
    match offsetOfPosition document line c.column with
    | .ok offset => .ok offset
    | .error fault => .error (.outside fault)
  | none, none => .error .missing

end Cursor
end MarkupNaming
