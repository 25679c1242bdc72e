import MarkupNaming.Text.Number
import MarkupNaming.Yaml.Fault
import MarkupNaming.Yaml.Scalar.Plain

/-!
# Quoted scalars

Scalars in single or double quotes. Line breaks fold as in plain scalars. In single quotes the
quote is written twice; in double quotes a backslash starts an escape.
-/
namespace MarkupNaming.Yaml
open Text

/-- The character that an escape of one letter stands for. -/
def escapes : List (Code × Code) :=
  [('0', '\x00'), ('a', '\x07'), ('b', '\x08'), ('t', '\t'), ('\t', '\t'), ('n', '\n'),
    ('v', '\x0b'), ('f', '\x0c'), ('r', '\r'), ('e', '\x1b'), (' ', ' '), ('"', '"'),
    ('\\', '\\'), ('/', '/'), ('N', '\x85'), ('_', '\xa0'), ('L', '\u2028'), ('P', '\u2029')]

/-- How many digits follow the letter of a numeric escape. -/
def escapeWidth? (c : Code) : Option Nat :=
  ([('x', 2), ('u', 4), ('U', 8)] : List (Code × Nat)).lookup c

/-- The number written by `count` hexadecimal digits at the front. -/
def hexNumber? (count : Nat) (t : Text) : Option Nat :=
  if t.length < count then none
  else ((t.take count).mapM hexDigit?).map (numberOf 16)

/-- The code point of a number. -/
def charOf (n : Nat) : Except ScalarFault Code :=
  if 0x80000000 ≤ n then .error .largeCharacter
  else if 0x110000 ≤ n then .error .character
  else .ok (Code.ofNat n)

/-- The fault that one of the hexadecimal digits expected at a position is none. -/
def missingDigits {α : Type} (activity : Activity) (start : Mark) (what : Expectation)
    (s : Source) : Except Fault α :=
  let digits := s.rest.takeWhile fun c => (hexDigit? c).isSome
  broken activity start (.expected what (s.skip digits.length).found) s

/-- The line breaks at a position within quotes, with the blanks before and between them
skipped. The scalar starts at `start`. -/
def quotedBreaks (start : Mark) : Nat → Source → Except Fault (Text × Source)
  | 0, s => .ok ([], s)
  | fuel + 1, s =>
    if s.atSeparator then broken .quotedScalar start .separator s
    else
      let behind := s.skipWhile fun c => c == .char ' ' || c == .char '\t'
      match behind.lineBreak? with
      | none => .ok ([], behind)
      | some (char, s) => do
        let (more, final) ← quotedBreaks start fuel s
        return (char ++ more, final)

/-- What the escape at a position, behind its backslash, counts as. -/
def readEscape (start : Mark) (s : Source) : Except Fault (Text × Source) :=
  match s.rest with
  | [] => broken .escapes start (.unknownEscape s.found) s
  | c :: rest =>
    match escapes.lookup c, escapeWidth? c with
    | some char, _ => .ok ([char], s.next)
    | none, some width =>
      match hexNumber? width rest with
      | none => missingDigits .escapes start (.escapeDigits width) s.next
      | some n => do
        let char ← (charOf n).mapError .scalar
        return ([char], s.skip (width + 1))
    | none, none =>
      match s.lineBreak? with
      | some (_, behind) => quotedBreaks start (behind.rest.length + 1) behind
      | none => broken .escapes start (.unknownEscape s.found) s

/-- What the blanks and line breaks at a position count as within quotes. -/
def readBlanks (start : Mark) (s : Source) : Except Fault (Text × Source) :=
  let blanks := s.rest.takeWhile fun c => c == .char ' ' || c == .char '\t'
  let behind := s.skip blanks.length
  match behind.rest, behind.lineBreak? with
  | [], _ => broken .quotedScalar start .endOfText behind
  | _, none => .ok (blanks, behind)
  | _, some (first, s) => do
    let (rest, final) ← quotedBreaks start (s.rest.length + 1) s
    return (foldBreaks first rest, final)

/-- The rest of a scalar up to its closing quote, and the position behind that. -/
def readQuotedRest (start : Mark) (quote : Code) : Nat → Source → Except Fault (Text × Source)
  | 0, s => broken .quotedScalar start .endOfText s
  | fuel + 1, s =>
    match s.rest with
    | [] => broken .quotedScalar start .endOfText s
    | c :: rest =>
      if c = quote then
        if quote = '\'' ∧ rest.head? = some (.char '\'') then do
          let (more, final) ← readQuotedRest start quote fuel (s.skip 2)
          return (quote :: more, final)
        else .ok ([], s.next)
      else if isGap c then do
        let (gap, s) ← readBlanks start s
        let (more, final) ← readQuotedRest start quote fuel s
        return (gap ++ more, final)
      else if c = '\\' ∧ quote = '"' then do
        let (chars, s) ← readEscape start s.next
        let (more, final) ← readQuotedRest start quote fuel s
        return (chars ++ more, final)
      else do
        let (more, final) ← readQuotedRest start quote fuel s.next
        return (c :: more, final)

/-- The scalar whose opening quote is at a position. -/
def readQuoted (quote : Code) (s : Source) : Except Fault (Text × Source) :=
  readQuotedRest s.toMark quote s.rest.length s.next

end MarkupNaming.Yaml
