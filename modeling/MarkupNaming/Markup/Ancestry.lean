import MarkupNaming.Markup.Element

/-!
# Ancestry

The tags that are open at an offset of a document. A document is read as a sequence of tokens:
opening tags, closing tags, and everything else, where a comment is one token and any other
character is a token of its own. A closing tag removes the innermost open tag of its name and
nothing else, so unbalanced markup is never an error. Tags of void elements and tags that close
themselves are never open.
-/
namespace MarkupNaming.Markup
open Text

/-- Names of the elements without content. -/
def voidElements : List Text :=
  ["area", "base", "br", "col", "embed", "hr", "img", "input", "link", "meta", "param", "source",
    "track", "wbr"]

/-- Whether a tag name belongs to an element without content. -/
def isVoid (name : Text) : Bool := voidElements.contains (lower name)

/-- A token of a document. Names are in lowercase. -/
inductive Token
  /-- An opening tag, which ends in `/>` if it closes itself. -/
  | opener (name : Text) (closesItself : Bool)
  | closer (name : Text)
  /-- Text, a comment, or a character that begins no tag. -/
  | other
deriving DecidableEq, Repr

/-- The text behind the first `-->`, empty if there is none. -/
def afterComment : Text → Text
  | [] => []
  | '-' :: '-' :: '>' :: rest => rest
  | _ :: rest => afterComment rest

theorem length_afterComment_le (t : Text) : (afterComment t).length ≤ t.length := by
  fun_induction afterComment t <;> simp_all <;> omega

/-- The name and the remaining text of a closing tag, behind its `</`. -/
def closing? : Text → Option (Text × Text)
  | c :: rest =>
    if isAsciiLetter c then
      match (rest.dropWhile isWord).dropWhile isBlank with
      | '>' :: after => some (c :: rest.takeWhile isWord, after)
      | _ => none
    else none
  | [] => none

theorem length_of_closing? {t name after : Text} (h : closing? t = some (name, after)) :
    after.length < t.length := by
  unfold closing? at h
  split at h
  · next c rest =>
    split at h
    · split at h
      · next found =>
        cases h
        have first := (List.dropWhile_suffix isBlank (l := rest.dropWhile isWord)).length_le
        have second := (List.dropWhile_suffix isWord (l := rest)).length_le
        rw [found] at first
        simp only [List.length_cons] at first ⊢
        omega
      · cases h
    · cases h
  · cases h

/-- Whether a tag, from its `<` to its `>`, ends in `/>`. -/
def endsWithSlash (tag : Text) : Bool := tag.dropLast.getLast? == some (.char '/')

/-- The opening tag at the start of a text and the text behind it. -/
def opening? (t : Text) : Option (Token × Text) := do
  let tag ← throughClose? t
  let name ← tagName? tag
  return (.opener (lower name) (endsWithSlash tag), t.drop tag.length)

theorem length_of_opening? {t after : Text} {token : Token}
    (h : opening? t = some (token, after)) : after.length < t.length := by
  simp only [opening?, Option.bind_eq_bind, Option.bind_eq_some_iff] at h
  obtain ⟨tag, tagged, name, named, done⟩ := h
  cases done
  unfold throughClose? at tagged
  split at tagged
  · next closes =>
    cases tagged
    have : t ≠ [] := List.ne_nil_of_mem closes
    have : 0 < t.length := List.length_pos_iff.2 this
    simp only [List.length_drop, List.length_append, List.length_cons, List.length_nil]
    omega
  · cases tagged

/-- The first token of a text and the text behind it. -/
def token? : Text → Option (Token × Text)
  | [] => none
  | '<' :: '!' :: '-' :: '-' :: rest => some (.other, afterComment rest)
  | '<' :: '/' :: rest =>
    match closing? rest with
    | some (name, after) => some (.closer (lower name), after)
    | none => some (.other, '/' :: rest)
  | '<' :: '!' :: rest => some (.other, '!' :: rest)
  | '<' :: rest => (opening? ('<' :: rest)).or (some (.other, rest))
  | _ :: rest => some (.other, rest)

theorem length_of_token? {t after : Text} {token : Token}
    (h : token? t = some (token, after)) : after.length < t.length := by
  unfold token? at h
  split at h
  · cases h
  · cases h
    have := length_afterComment_le
    rename_i rest
    have := this rest
    simp only [List.length_cons]; omega
  · split at h
    · next found =>
      cases h
      have := length_of_closing? found
      simp only [List.length_cons]; omega
    · cases h; simp
  · cases h; simp
  · rename_i rest _ _ _
    cases found : opening? ('<' :: rest) with
    | none => rw [found] at h; cases h; simp
    | some pair =>
      rw [found] at h; cases h
      exact length_of_opening? found
  · cases h; simp

/-- The tokens of a text that start within its first `count` characters. -/
def tokensWithin (count : Nat) (t : Text) : List Token :=
  if count = 0 then []
  else
    match _h : token? t with
    | none => []
    | some (token, after) =>
      token :: tokensWithin (count - (t.length - after.length)) after
termination_by t.length
decreasing_by exact length_of_token? (by assumption)

/-- The open tags after a token, innermost first. -/
def track (stack : List Text) : Token → List Text
  | .opener name closesItself => if closesItself || isVoid name then stack else name :: stack
  | .closer name => stack.erase name
  | .other => stack

/-- The names of the tags open at an offset, outermost first, and of the tag that starts there. -/
def ancestors (document : Text) (offset : Int) : List Text :=
  let limit := min offset.toNat document.length
  let enclosing := (tokensWithin limit document).foldl track []
  enclosing.reverse ++ ((tagName? (document.drop limit)).map lower).toList

/-- A chain of tag names as one text. -/
def chainText (chain : List Text) : Text := join ">" chain

end MarkupNaming.Markup
