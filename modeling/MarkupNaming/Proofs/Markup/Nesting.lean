import MarkupNaming.Proofs.Markup.Token
import MarkupNaming.Proofs.Text.Characters

/-!
# Nesting

Documents in which every tag with content is closed. Reading such a document leaves the same
names open as before, so at the start of a tag exactly the tags around it are open. Tags may
have any body, comments may contain any tags, and a closing tag may differ in case.
-/
namespace MarkupNaming.Markup
open Text

/-- Whether a tag has no content: it ends in `/>` or belongs to a void element. -/
def Tag.isChildless (tag : Tag) : Bool := tag.closesItself || isVoid tag.name.text

/-- A closing tag of an opening tag. -/
structure Closer (tag : Tag) where
  name : TagName
  /-- Blanks behind the name. -/
  gap : Text
  sameName : lower name.text = lower tag.name.text
  blank : ∀ c ∈ gap, isBlank c = true

/-- The closing tag as it is written. -/
def Closer.text {tag : Tag} (closer : Closer tag) : Text :=
  .char '<' :: .char '/' :: (closer.name.text ++ (closer.gap ++ [Code.char '>']))

/-- A list of well-nested nodes. -/
inductive Forest
  | nil
  | text (t : Text) (plain : .char '<' ∉ t) (rest : Forest)
  | comment (c : Text) (closed : ¬ ("-->" : Text) <:+: c) (rest : Forest)
  /-- A void element, or a tag that closes itself. -/
  | leaf (tag : Tag) (childless : tag.isChildless = true) (rest : Forest)
  | element (tag : Tag) (content : tag.isChildless = false) (children : Forest)
    (closer : Closer tag) (rest : Forest)

namespace Forest

/-- The nodes as they are written. -/
def render : Forest → Text
  | nil => []
  | text t _ rest => t ++ rest.render
  | comment c _ rest => ("<!--" : Text) ++ (c ++ (("-->" : Text) ++ rest.render))
  | leaf tag _ rest => tag.text ++ rest.render
  | element tag _ children closer rest =>
    tag.text ++ (children.render ++ (closer.text ++ rest.render))

/-- Every opening tag with its offset and the lowercase names on the path to it, where the nodes
start at an offset and stand below a path. -/
def places (start : Nat) (path : List Text) : Forest → List (Nat × List Text)
  | nil => []
  | text t _ rest => rest.places (start + t.length) path
  | comment c _ rest => rest.places (start + (c.length + 7)) path
  | leaf tag _ rest =>
    (start, path ++ [lower tag.name.text]) :: rest.places (start + tag.text.length) path
  | element tag _ children closer rest =>
    (start, path ++ [lower tag.name.text]) ::
      (children.places (start + tag.text.length) (path ++ [lower tag.name.text]) ++
        rest.places (start + (tag.text.length + (children.render.length + closer.text.length)))
          path)

end Forest

/-! ## One node -/

section Node
variable {stack : List Text} {tag : Tag}

theorem chain_comment {c : Text} (h : ¬ ("-->" : Text) <:+: c) (rest : Text) (k : Nat) :
    chain stack (c.length + 7 + k) (("<!--" : Text) ++ (c ++ (("-->" : Text) ++ rest))) =
      chain stack k rest := by
  have hsplit : ("<!--" : Text) ++ (c ++ (("-->" : Text) ++ rest)) =
      (("<!--" : Text) ++ (c ++ ("-->" : Text))) ++ rest := by simp
  have hlength : (("<!--" : Text) ++ (c ++ ("-->" : Text))).length = c.length + 7 := by
    simp
  have htoken := token?_comment h rest
  rw [hsplit] at htoken ⊢
  rw [← hlength, chain_append htoken]
  rfl

/-- A tag without content opens nothing. -/
theorem chain_childless (h : tag.isChildless = true) (rest : Text) (k : Nat) :
    chain stack (tag.text.length + k) (tag.text ++ rest) = chain stack k rest := by
  rw [chain_append (tag.token?_text_append rest), Tag.token, track, isVoid_lower]
  exact congrArg (chain · k rest) (if_pos h)

/-- A tag with content is open behind itself. -/
theorem chain_content (h : tag.isChildless = false) (rest : Text) (k : Nat) :
    chain stack (tag.text.length + k) (tag.text ++ rest) =
      chain (lower tag.name.text :: stack) k rest := by
  rw [chain_append (tag.token?_text_append rest), Tag.token, track, isVoid_lower]
  exact congrArg (chain · k rest) (if_neg (by simpa [Tag.isChildless] using h))

/-- The closing tag of the innermost open tag removes it. -/
theorem chain_closer (closer : Closer tag) (rest : Text) (k : Nat) :
    chain (lower tag.name.text :: stack) (closer.text.length + k) (closer.text ++ rest) =
      chain stack k rest := by
  have htoken : token? (closer.text ++ rest) = some (.closer (lower tag.name.text), rest) := by
    have hclosing := closing?_append closer.name closer.blank rest
    simp only [Closer.text, List.cons_append, List.append_assoc, List.nil_append, token?,
      hclosing, closer.sameName]
  rw [chain_append htoken, track, List.erase_cons_head]

/-- At its start, a tag is the innermost of the chain. -/
theorem chain_zero (tag : Tag) (rest : Text) :
    chain stack 0 (tag.text ++ rest) = stack.reverse ++ [lower tag.name.text] := by
  rw [chain, tokensWithin_zero, List.drop_zero, tag.tagName?_text_append]
  rfl

end Node

/-! ## Whole documents -/

namespace Forest

/-- Well-nested nodes leave everything open and nothing else. -/
theorem chain_render (f : Forest) (stack : List Text) (back : Text) (k : Nat) :
    chain stack (f.render.length + k) (f.render ++ back) = chain stack k back := by
  induction f generalizing stack back k with
  | nil => rw [render, List.length_nil, Nat.zero_add, List.nil_append]
  | text t plain rest ih =>
    rw [render, List.length_append, Nat.add_assoc, List.append_assoc,
      chain_append_of_not_mem plain, ih]
  | comment c closed rest ih =>
    have hlength : (comment c closed rest).render.length + k =
        c.length + 7 + (rest.render.length + k) := by
      simp [render]
      omega
    rw [hlength, render, List.append_assoc, List.append_assoc, List.append_assoc,
      chain_comment closed, ih]
  | leaf tag childless rest ih =>
    rw [render, List.length_append, Nat.add_assoc, List.append_assoc, chain_childless childless,
      ih]
  | element tag content children closer rest ihChildren ih =>
    have hlength : (element tag content children closer rest).render.length + k =
        tag.text.length + (children.render.length +
          (closer.text.length + (rest.render.length + k))) := by
      simp only [render, List.length_append]
      omega
    rw [hlength, render, List.append_assoc, List.append_assoc, List.append_assoc,
      chain_content content, ihChildren, chain_closer, ih]

/-- The chain at a place is its path. -/
theorem chain_of_mem_places {f : Forest} {start offset : Nat} {stack path : List Text}
    (h : (offset, path) ∈ f.places start stack.reverse) (back : Text) :
    ∃ k, offset = start + k ∧ k ≤ f.render.length ∧ chain stack k (f.render ++ back) = path := by
  induction f generalizing start stack back with
  | nil => cases h
  | text t plain rest ih =>
    obtain ⟨k, rfl, hk, hchain⟩ := ih h back
    refine ⟨t.length + k, by omega, ?_, ?_⟩
    · rw [render, List.length_append]
      omega
    · rw [render, List.append_assoc, chain_append_of_not_mem plain, hchain]
  | comment c closed rest ih =>
    obtain ⟨k, rfl, hk, hchain⟩ := ih h back
    refine ⟨c.length + 7 + k, by omega, ?_, ?_⟩
    · simp [render]
      omega
    · rw [render, List.append_assoc, List.append_assoc, List.append_assoc, chain_comment closed,
        hchain]
  | leaf tag childless rest ih =>
    rcases List.mem_cons.1 h with heq | h
    · cases heq
      refine ⟨0, rfl, Nat.zero_le _, ?_⟩
      rw [render, List.append_assoc, chain_zero]
    · obtain ⟨k, rfl, hk, hchain⟩ := ih h back
      refine ⟨tag.text.length + k, by omega, ?_, ?_⟩
      · rw [render, List.length_append]
        omega
      · rw [render, List.append_assoc, chain_childless childless, hchain]
  | element tag content children closer rest ihChildren ih =>
    have hrender : (element tag content children closer rest).render ++ back =
        tag.text ++ (children.render ++ (closer.text ++ (rest.render ++ back))) := by
      simp only [render, List.append_assoc]
    have hlength : (element tag content children closer rest).render.length =
        tag.text.length + (children.render.length +
          (closer.text.length + rest.render.length)) := by
      simp only [render, List.length_append]
    rw [hrender, hlength]
    rcases List.mem_cons.1 h with heq | h
    · cases heq
      exact ⟨0, rfl, Nat.zero_le _, chain_zero tag _⟩
    · rcases List.mem_append.1 h with h | h
      · rw [← List.reverse_cons] at h
        obtain ⟨k, rfl, hk, hchain⟩ := ihChildren h (closer.text ++ (rest.render ++ back))
        refine ⟨tag.text.length + k, by omega, by omega, ?_⟩
        rw [chain_content content, hchain]
      · obtain ⟨k, rfl, hk, hchain⟩ := ih h back
        refine ⟨tag.text.length + (children.render.length + (closer.text.length + k)),
          by omega, by omega, ?_⟩
        rw [chain_content content, chain_render, chain_closer, hchain]

/-- In a document of well-nested nodes, the ancestors at the start of a tag are the names on the
path to it, from the outermost to its own. -/
theorem ancestors_render {f : Forest} {offset : Nat} {path : List Text}
    (h : (offset, path) ∈ f.places 0 []) : ancestors f.render offset = path := by
  rw [← List.reverse_nil] at h
  obtain ⟨k, rfl, hk, hchain⟩ := chain_of_mem_places h []
  rw [List.append_nil] at hchain
  rw [ancestors_eq_chain, Nat.zero_add, Int.toNat_natCast, Nat.min_eq_left hk, hchain]

theorem ancestors_render_paragraph :
    ancestors ("<Div><!--<i>--><p a=b>x</p></DIV>" : Text) 15 = [("div" : Text), ("p" : Text)] := by
  let p : Forest :=
    .element ⟨⟨"p", rfl⟩, " a=b", by decide, startsOutside_cons.2 (by decide)⟩ (by decide)
      (.text "x" (by decide) .nil) ⟨⟨"p", rfl⟩, [], rfl, nofun⟩ .nil
  let f : Forest :=
    .element ⟨⟨"Div", rfl⟩, [], by decide, startsOutside_nil⟩ (by decide)
      (.comment "<i>" (by decide) p) ⟨⟨"DIV", rfl⟩, [], by decide, nofun⟩ .nil
  have hrender : f.render = ("<Div><!--<i>--><p a=b>x</p></DIV>" : Text) := by decide
  have hplace : (15, [("div" : Text), ("p" : Text)]) ∈ f.places 0 [] := by decide
  rw [← hrender]
  exact ancestors_render hplace

end Forest
end MarkupNaming.Markup
