import MarkupNaming.Yaml.Fault
import MarkupNaming.Yaml.Source

/-!
# Block scalars

Scalars of whole lines behind `|` or `>`. The lines are indented by more than their parent; a
digit gives by how much, or else the first line with content does. In the folded form a line
break between two lines that start with no blank counts as a space. A sign tells whether the line
breaks at the end are dropped or kept; otherwise one of them is.
-/
namespace MarkupNaming.Yaml
open Text

/-- What becomes of the line breaks at the end. -/
inductive Chomping
  | clip
  | strip
  | keep
deriving DecidableEq, Repr

/-- The sign at a position. -/
def readChomping (s : Source) : Chomping × Source :=
  match s.rest with
  | '+' :: _ => (.keep, s.next)
  | '-' :: _ => (.strip, s.next)
  | _ => (.clip, s)

/-- The digit at a position, which is not zero. -/
def readIncrement (start : Mark) (s : Source) : Except Fault (Option Nat × Source) :=
  match s.rest with
  | c :: _ =>
    if c = '0' then broken .blockScalar start (.expected .indentation ['0']) s
    else if '1' ≤ c ∧ c ≤ '9' then .ok (some (c.toNat - '0'.toNat), s.next)
    else .ok (none, s)
  | [] => .ok (none, s)

/-- The sign and the digit at a position, in either order. -/
def readIndicators (start : Mark) (s : Source) : Except Fault (Chomping × Option Nat × Source) := do
  let (chomping, s) := readChomping s
  let (increment, s) ← readIncrement start s
  let (chomping, s) :=
    if chomping = .clip ∧ increment.isSome then readChomping s else (chomping, s)
  if atSpaceOrEnd s.rest then return (chomping, increment, s)
  else missing .blockScalar start .indicators s

/-- The position of the line behind a header, which holds at most a comment. -/
def skipHeaderLine (start : Mark) (s : Source) : Except Fault Source :=
  let s := s.skipSpaces.skipComment
  match s.rest, s.lineBreak? with
  | [], _ => .ok s
  | _, some (_, behind) => .ok behind
  | _, none => missing .blockScalar start .commentOrBreak s

/-- The line breaks before the first line with content, and the greatest indentation before
it. -/
def leadingBreaks : Nat → Nat → Source → Text × Nat × Source
  | 0, deepest, s => ([], deepest, s)
  | fuel + 1, deepest, s =>
    if s.rest.head? = some (.char ' ') then leadingBreaks fuel (max deepest s.next.column) s.next
    else
      match s.lineBreak? with
      | none => ([], deepest, s)
      | some (char, behind) =>
        let (more, deepest, final) := leadingBreaks fuel deepest behind
        (char ++ more, deepest, final)

/-- The position behind the spaces at the front, up to column `indent`. -/
def skipIndent (indent : Nat) (s : Source) : Source :=
  s.skip (min (indent - s.column) (s.rest.takeWhile (· == .char ' ')).length)

/-- The line breaks before a line with content, with their indentation skipped. -/
def innerBreaks (indent : Nat) : Nat → Source → Text × Source
  | 0, s => ([], s)
  | fuel + 1, s =>
    let s := skipIndent indent s
    match s.lineBreak? with
    | none => ([], s)
    | some (char, behind) =>
      let (more, final) := innerBreaks indent fuel behind
      (char ++ more, final)

/-- Whether a text starts with a space or a tabulator. -/
def startsBlank (t : Text) : Bool :=
  (t.head?.map fun c => c == .char ' ' || c == .char '\t').getD false

/-- The lines of a block scalar behind the line breaks `breaks`. -/
def blockLines (folded : Bool) (chomping : Chomping) (indent : Nat) :
    Nat → Text → Source → Text × Source
  | 0, _, s => ([], s)
  | fuel + 1, breaks, s =>
    let line := s.rest.takeWhile (!isBreak ·)
    let atEnd := s.skip line.length
    let (first, behind) := (atEnd.lineBreak?).getD ([], atEnd)
    let (next, final) := innerBreaks indent behind.rest.length behind
    if final.column = indent ∧ final.rest ≠ [] then
      let between :=
        if folded ∧ first = [.char '\n'] ∧ !startsBlank s.rest ∧ !startsBlank final.rest then
          if next.isEmpty then ([' '] : Text) else []
        else first
      let (more, final) := blockLines folded chomping indent fuel next final
      (breaks ++ line ++ between ++ more, final)
    else
      let tail := match chomping with
        | .strip => []
        | .clip => first
        | .keep => first ++ next
      (breaks ++ line ++ tail, final)

/-- The block scalar whose mark is at a position, in a block of the given indentation. -/
def readBlock (folded : Bool) (parent : Int) (s : Source) : Except Fault (Text × Source) := do
  let start := s.toMark
  let (chomping, increment, s) ← readIndicators start s.next
  let s ← skipHeaderLine start s
  let least := (max (parent + 1) 1).toNat
  let (breaks, indent, s) :=
    match increment with
    | none =>
      let (breaks, deepest, s) := leadingBreaks s.rest.length 0 s
      (breaks, max least deepest, s)
    | some n =>
      let (breaks, s) := innerBreaks (least + n - 1) s.rest.length s
      (breaks, least + n - 1, s)
  if s.column = indent ∧ s.rest ≠ [] then
    return blockLines folded chomping indent s.rest.length breaks s
  else
    return (if chomping = .keep then breaks else [], s)

end MarkupNaming.Yaml
