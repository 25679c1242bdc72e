import MarkupNaming.Console.Display

/-!
# Wrapping

Lines of bounded width. A line is broken in front of the first word that does not fit. A word
wider than a whole line is divided, or else put on a line of its own and cut.
-/
namespace MarkupNaming.Console
open Text

/-- The words of a line with the blanks behind them; the first word also has those in front. -/
def chunks (t : Text) : List Text :=
  match t.splitBy fun a b => !isBlank a || isBlank b with
  | [] => []
  | [piece] => if piece.all isBlank then [] else [piece]
  | piece :: next :: rest =>
    if piece.all isBlank then (piece ++ next) :: rest else piece :: next :: rest

/-- A text divided into pieces of at most `width` cells. -/
def divide (width : Nat) : (used : Nat) → (piece : Text) → Text → List Text
  | _, piece, [] => [piece]
  | used, piece, c :: rest =>
    if width < used + cellsOf c then piece :: divide width (cellsOf c) [c] rest
    else divide width (used + cellsOf c) (piece ++ [c]) rest

/-- Lines in the making: those that are complete, and the one that is not. -/
structure Wrapped where
  complete : List Text := []
  current : Text := []
  /-- Cells of the current line. -/
  used : Nat := 0

namespace Wrapped

/-- A new line is started unless the current one is empty. -/
def breakLine (w : Wrapped) : Wrapped :=
  if w.current.isEmpty then w else { complete := w.complete ++ [w.current] }

/-- Pieces on lines of their own, of which the last one is still open. -/
def addPieces (w : Wrapped) : List Text → Wrapped
  | [] => w
  | [piece] => { w with current := piece, used := cells piece }
  | piece :: rest => addPieces { complete := w.complete ++ [piece] } rest

/-- A word with its blanks put on the current line if it fits, else on a new one. -/
def add (width : Nat) (divides : Bool) (w : Wrapped) (chunk : Text) : Wrapped :=
  let size := cells (trimEnd chunk)
  if w.used + size ≤ width then
    { w with current := w.current ++ chunk, used := w.used + cells chunk }
  else if width < size ∧ divides = true then w.breakLine.addPieces (divide width 0 [] chunk)
  else { w.breakLine with current := w.breakLine.current ++ chunk, used := cells chunk }

/-- All lines, the one in the making included. -/
def lines (w : Wrapped) : List Text := w.complete ++ [w.current]

end Wrapped

/-- A line broken into lines of at most `width` cells. -/
def wrapLine (width : Nat) (divides : Bool) (line : Text) : List Text :=
  match chunks line with
  | [] => [line]
  | parts => (parts.foldl (Wrapped.add width divides) {}).lines

/-- A line without blanks at its end as far as it has more characters than `width`. -/
def trimBeyond (width : Nat) (line : Text) : Text :=
  let excess := line.length - width
  let blanks := (line.reverse.takeWhile isBlank).length
  line.take (line.length - min blanks excess)

/-- The characters of a line that fill at most `width` cells, and a space for half of a wide
character. -/
def takeCells : (width : Nat) → Text → Text
  | _, [] => []
  | width, c :: rest =>
    if cellsOf c ≤ width then c :: takeCells (width - cellsOf c) rest
    else List.replicate width (Code.char ' ')

/-- A line with spaces up to `width` cells. -/
def padTo (width : Nat) (line : Text) : Text :=
  line ++ List.replicate (width - cells line) (Code.char ' ')

/-- A line cut to `width` cells with an ellipsis, or filled up with spaces. -/
def fitLeft (width : Nat) (line : Text) : Text :=
  if width < cells line then padTo (width - 1) (takeCells (width - 1) line) ++ [Code.char '…']
  else padTo width line

/-- A line in the middle of `width` cells. -/
def center (width : Nat) (line : Text) : Text :=
  let shown := takeCells width (trimEnd line)
  padTo width (List.replicate ((width - cells shown) / 2) (Code.char ' ') ++ shown)

/-- The lines of a text on the left of a column. -/
def columnLines (width : Nat) (t : Text) : List Text :=
  (displayLines t).flatMap fun line =>
    (wrapLine width false line).map fun part => fitLeft width (trimBeyond width part)

/-- The lines of a text centred in a column. -/
def centeredLines (width : Nat) (t : Text) : List Text :=
  (displayLines t).flatMap fun line =>
    (wrapLine width true line).map fun part => center width (trimBeyond width part)

end MarkupNaming.Console
