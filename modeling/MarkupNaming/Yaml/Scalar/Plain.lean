import MarkupNaming.Yaml.Source

/-!
# Plain scalars

Scalars without quotes. One ends at a colon before a gap, at a comment, at a line that is
indented too little, and within brackets at a comma or a bracket. A line break between two of its
lines counts as a space, and several count as one less than they are.
-/
namespace MarkupNaming.Yaml

/-- Characters that end a plain scalar within brackets. -/
def isFlowMark (c : Code) : Bool := ([',', '?', '[', ']', '\x7b', '\x7d'] : Text).contains c

/-- Whether the text behind a colon makes the colon a mark. -/
def endsAtColon (inFlow : Bool) (rest : Text) : Bool :=
  atGap rest || (inFlow && (rest.head?.map fun c =>
    ([',', '[', ']', '\x7b', '\x7d'] : Text).contains c).getD false)

/-- The characters at the front that belong to a plain scalar, up to a gap. -/
def plainRun (inFlow : Bool) : Text → Text
  | [] => []
  | c :: rest =>
    if isGap c || (c == ':' && endsAtColon inFlow rest) || (inFlow && isFlowMark c) then []
    else c :: plainRun inFlow rest

/-- The further line breaks behind a first one, with the spaces between them skipped. There are
none if the document ends there. -/
def plainBreaks : Nat → Source → Option Text × Source
  | 0, s => (some [], s)
  | fuel + 1, s =>
    if s.rest.head? = some (.char ' ') then plainBreaks fuel s.next
    else
      match s.lineBreak? with
      | none => (some [], s)
      | some (char, behind) =>
        if behind.atSeparator then (none, behind)
        else
          let (more, final) := plainBreaks fuel behind
          (more.map (char ++ ·), final)

/-- What line breaks count as in a value: the first one, and those behind it. -/
def foldBreaks (first rest : Text) : Text :=
  if first ≠ [.char '\n'] then first ++ rest else if rest.isEmpty then [.char ' '] else rest

/-- What the gap at a position counts as in a plain scalar, if the scalar can go on, the position
behind it, and whether a line break is in it. -/
def plainGap (s : Source) : Option Text × Source × Bool :=
  let spaces := s.rest.takeWhile (· == .char ' ')
  let behind := s.skipSpaces
  match behind.lineBreak? with
  | none => (if spaces.isEmpty then none else some spaces, behind, false)
  | some (first, s) =>
    if s.atSeparator then (none, s, true)
    else
      let (rest, final) := plainBreaks s.rest.length s
      (rest.map (foldBreaks first), final, true)

/-- The rest of a plain scalar behind a gap, the position behind it and whether that is behind a
line break. -/
def plainRest (inFlow : Bool) (indent : Nat) :
    Nat → Text → Source → Bool → Text × Source × Bool
  | 0, _, s, broken => ([], s, broken)
  | fuel + 1, gap, s, broken =>
    let run := if s.rest.head? = some (.char '#') then [] else plainRun inFlow s.rest
    if run.isEmpty then ([], s, broken)
    else
      let (next, behind, broken) := plainGap (s.skip run.length)
      match next with
      | none => (gap ++ run, behind, broken)
      | some next =>
        if behind.rest.head? = some (.char '#') ∨ (!inFlow ∧ behind.column < indent) then
          (gap ++ run, behind, broken)
        else
          let (more, final, broken) := plainRest inFlow indent fuel next behind broken
          (gap ++ run ++ more, final, broken)

/-- The plain scalar at a position. Lines behind the first one have at least `indent` columns in
front of them. -/
def readPlain (inFlow : Bool) (indent : Nat) (s : Source) : Text × Source × Bool :=
  plainRest inFlow indent s.rest.length [] s false

end MarkupNaming.Yaml
