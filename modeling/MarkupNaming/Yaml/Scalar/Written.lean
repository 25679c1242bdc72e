import MarkupNaming.Text.Quoted
import MarkupNaming.Yaml.Scalar.Style

/-!
# Written scalars

The layout of a scalar. A line that has passed the last column ends at the next single space
outside of double quotes, and at the next space or escape inside of them. A scalar that goes on
does so on an indented line.
-/
namespace MarkupNaming.Yaml
open Text

/-- The column behind which a line ends where it can. -/
def lastColumn : Nat := 80

/-- The start of an indented line. -/
def newLine (indent : Nat) : Text := '\n' :: List.replicate indent (Code.char ' ')

namespace Written

/-- The kinds of characters that a line of a scalar is made of. -/
inductive Kind
  | space
  | breaking
  | other
deriving DecidableEq

/-- The kind of a character. -/
def Kind.of (c : Code) : Kind :=
  if c = ' ' then .space else if Style.isWrittenBreak c then .breaking else .other

/-- The longest parts of a text whose characters are of one kind. -/
def runs (t : Text) : List Text := t.splitBy fun a b => Kind.of a = Kind.of b

/-- Line breaks as they are written: the first line feed of a run is doubled, since a single
one would read as a space. -/
def breaks (run : Text) : Text := if run.head? = some (.char '\n') then '\n' :: run else run

/-- Runs of characters from a column on. A single space between two words gives way to a new
line where the last column has been passed. -/
def folded (indent : Nat) (word : Text → Text) : (column : Nat) → (first : Bool) →
    List Text → Text
  | _, _, [] => []
  | column, first, run :: rest =>
    match run.head?.map Kind.of with
    | some .breaking =>
      breaks run ++ List.replicate indent (Code.char ' ') ++ folded indent word indent false rest
    | some .other =>
      word run ++ folded indent word (column + (word run).length) false rest
    | _ =>
      if run = [.char ' '] ∧ lastColumn < column ∧ first = false ∧ rest ≠ [] then
        newLine indent ++ folded indent word indent false rest
      else run ++ folded indent word (column + run.length) false rest

/-- A text without quotes. -/
def plain (indent column : Nat) (t : Text) : Text := folded indent id column true (runs t)

/-- A single quote inside single quotes is written twice. -/
def doubled (t : Text) : Text := t.flatMap fun c => if c = .char '\'' then ['\'', '\''] else [c]

/-- A text in single quotes. -/
def single (indent column : Nat) (t : Text) : Text :=
  .char '\'' :: folded indent doubled (column + 1) true (runs t) ++ [Code.char '\'']

/-- The letters of the escapes that have one. -/
def escapeLetters : List (Code × Code) :=
  [('\x00', '0'), ('\x07', 'a'), ('\x08', 'b'), ('\t', 't'), ('\n', 'n'), ('\x0b', 'v'),
    ('\x0c', 'f'), ('\r', 'r'), ('\x1b', 'e'), ('"', '"'), ('\\', '\\'), ('\x85', 'N'),
    ('\u2028', 'L'), ('\u2029', 'P')]

/-- Whether a character stands for itself inside double quotes. -/
def isBare (c : Code) : Bool :=
  let n := c.toNat
  c != '"' && c != '\\' && c != '\u2028' && c != '\u2029' && n != 0xFEFF &&
    ((0x20 ≤ n && n ≤ 0x7E) || (0xA0 ≤ n && n ≤ 0xD7FF) || (0xE000 ≤ n && n ≤ 0xFFFD))

/-- The escape of a character: a letter, or its code point in uppercase digits. -/
def escape (c : Code) : Text :=
  match escapeLetters.lookup c with
  | some letter => ['\\', letter]
  | none =>
    match codeEscape c with
    | backslash :: letter :: digits => backslash :: letter :: digits.map Code.toUpper
    | short => short

/-- The end of a line inside double quotes and the start of the next one, in front of `rest`: a
space at the start of a line is kept by a backslash. -/
def lineEnd (indent : Nat) (rest : Text) : Text :=
  .char '\\' :: newLine indent ++ if rest.head? = some (.char ' ') then (['\\'] : Text) else []

/-- The column behind the end of a line and the start of the next one. -/
def columnAfterEnd (indent : Nat) (rest : Text) : Nat :=
  if rest.head? = some (.char ' ') then indent + 1 else indent

/-- Characters inside double quotes from a column on. `fresh` tells that an escape or the start
of a line stands in front, `first` that nothing does. -/
def escaped (indent : Nat) : (column : Nat) → (fresh first : Bool) → Text → Text
  | _, _, _, [] => []
  | column, fresh, first, c :: rest =>
    let mayEnd := first = false ∧ rest ≠ []
    if isBare c then
      if mayEnd ∧ (c = ' ' ∨ fresh = true) ∧ lastColumn < column then
        lineEnd indent (c :: rest) ++
          c :: escaped indent (columnAfterEnd indent (c :: rest) + 1) false false rest
      else c :: escaped indent (column + 1) false false rest
    else
      let behind := column + (escape c).length
      if mayEnd ∧ lastColumn + 1 < behind then
        escape c ++ lineEnd indent rest ++
          escaped indent (columnAfterEnd indent rest) true false rest
      else escape c ++ escaped indent behind true false rest

/-- A text in double quotes. -/
def double (indent column : Nat) (t : Text) : Text :=
  .char '"' :: escaped indent (column + 1) true true t ++ [Code.char '"']

end Written

/-- A text as a scalar that starts at a column and goes on at an indentation. -/
def writtenText (indent column : Nat) (t : Text) : Text :=
  match Style.ofText t with
  | .plain => Written.plain indent column t
  | .single => Written.single indent column t
  | .double => Written.double indent column t

end MarkupNaming.Yaml
