import MarkupNaming.Text.Blank

/-!
# Lines

Three notions of a line break. Documents break after `\r\n`, `\r` and `\n`. A message breaks
at every character that Unicode counts as a line or paragraph boundary, and at the information
separators. Reading a settings file turns each break of a document into a line feed.
-/
namespace MarkupNaming.Text

/-- A character that ends a line of a message. -/
def isLineBoundary (c : Code) : Bool :=
  let n := c.toNat
  (0xA ≤ n && n ≤ 0xD) || (0x1C ≤ n && n ≤ 0x1E) || n == 0x85 || n == 0x2028 || n == 0x2029

/-- The first line of a message. -/
def firstLine (t : Text) : Text := t.takeWhile (!isLineBoundary ·)

/-- Every `\r\n` and every other `\r` turned into a line feed. -/
def normalizeBreaks : Text → Text
  | [] => []
  | '\r' :: '\n' :: rest => '\n' :: normalizeBreaks rest
  | '\r' :: rest => '\n' :: normalizeBreaks rest
  | c :: rest => c :: normalizeBreaks rest

/-- The line of a document that starts at `start` and ends before its break at `stop`. -/
structure Line where
  start : Nat
  stop : Nat
deriving DecidableEq, Repr

/-- The lines of the part of a document that starts at `pos`, whose current line began at
`start`. -/
def linesFrom (start pos : Nat) : Text → List Line
  | [] => [⟨start, pos⟩]
  | '\r' :: '\n' :: rest => ⟨start, pos⟩ :: linesFrom (pos + 2) (pos + 2) rest
  | '\r' :: rest => ⟨start, pos⟩ :: linesFrom (pos + 1) (pos + 1) rest
  | '\n' :: rest => ⟨start, pos⟩ :: linesFrom (pos + 1) (pos + 1) rest
  | _ :: rest => linesFrom start (pos + 1) rest

/-- The lines of a document. A break at its end opens an empty last line. -/
def lines (t : Text) : List Line := linesFrom 0 0 t

end MarkupNaming.Text
