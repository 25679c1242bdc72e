import MarkupNaming.Proofs.Markup.Token
import MarkupNaming.Proofs.Text.Characters
import Mathlib.Data.List.TakeWhile

/-!
# Opening and closing tags of one name

What is open behind an opening tag and the closing tag of the same name. An opening tag is known by
the word characters its name starts with, but a closing tag is one only if its name has no other
characters. So an element whose name has a hyphen stays open behind its closing tag, unless the part
of the name that counts is that of a void element.
-/
namespace MarkupNaming.Markup
open Text

/-- The name of an element: an ASCII letter, and characters that do not end a name in markup. -/
structure ElementName where
  first : Code
  rest : Text
  letter : isAsciiLetter first = true
  unbroken : ∀ c ∈ rest, isBlank c = false ∧ c ∉ ("/<>" : Text)

namespace ElementName
variable (n : ElementName)

/-- The name as it is written. -/
def text : Text := n.first :: n.rest

/-- The part of the name by which an opening tag is known. -/
def word : TagName where
  text := n.first :: n.rest.takeWhile isWord
  isName := by
    simp only [isTagName, n.letter, Bool.true_and, List.all_eq_true]
    exact forall_mem_takeWhile

/-- An opening tag and the closing tag behind it. -/
def pair : Text := .char '<' ::
    (n.text ++ .char '>' :: .char '<' :: .char '/' :: (n.text ++ [Code.char '>']))

/-- Whether the closing tag removes what the opening tag opened: the name has word characters only,
or nothing was opened. -/
def Closes : Prop := (∀ c ∈ n.rest, isWord c = true) ∨ isVoid n.word.text = true

instance : Decidable n.Closes := inferInstanceAs (Decidable (_ ∨ _))

theorem not_mem_rest {c : Code} (h : c ∈ ("/<>" : Text)) : c ∉ n.rest :=
  fun hc => (n.unbroken c hc).2 h

theorem not_mem_text {c : Code} (h : c ∈ ("/<>" : Text)) : c ∉ n.text := by
  rw [text, List.mem_cons, not_or]
  refine ⟨?_, n.not_mem_rest h⟩
  rintro rfl
  have hmarks : ∀ c ∈ ("/<>" : Text), (!isAsciiLetter c) = true := List.all_eq_true.1 (by decide)
  have hmark := hmarks _ h
  rw [n.letter] at hmark
  cases hmark

/-! ## The opening tag -/

/-- The opening tag: the word, and the rest of the name as its body. -/
def tag : Tag where
  name := n.word
  body := n.rest.dropWhile isWord
  notClosed := fun h => n.not_mem_rest (by decide) ((List.dropWhile_suffix _).subset h)
  nameEnds := startsOutside_dropWhile

theorem text_tag : n.tag.text = .char '<' :: (n.text ++ [Code.char '>']) := by
  change .char '<' :: ((n.first :: n.rest.takeWhile isWord) ++
      (n.rest.dropWhile isWord ++ [Code.char '>'])) = _
  rw [List.cons_append, ← List.append_assoc, List.takeWhile_append_dropWhile]
  rfl

theorem closesItself_tag : n.tag.closesItself = false := by
  rw [Tag.closesItself, beq_eq_false_iff_ne]
  intro hslash
  exact n.not_mem_rest (by decide) ((List.dropWhile_suffix _).subset (List.mem_of_getLast? hslash))

/-- The names that the opening tag leaves open. -/
def opened : List Text := if isVoid n.word.text then [] else [lower n.word.text]

theorem chain_tag (rest : Text) (k : Nat) :
    chain [] (n.tag.text.length + k) (n.tag.text ++ rest) = chain n.opened k rest := by
  rw [chain_append (n.tag.token?_text_append rest), Tag.token, track, closesItself_tag,
    isVoid_lower]
  rfl

/-! ## The closing tag -/

/-- The closing tag as it is written. -/
def closer : Text := .char '<' :: .char '/' :: (n.text ++ [Code.char '>'])

theorem token?_closer (h : ∀ c ∈ n.rest, isWord c = true) (rest : Text) :
    token? (n.closer ++ rest) = some (.closer (lower n.word.text), rest) := by
  have hword : n.text = n.word.text := by
    change n.first :: n.rest = n.first :: n.rest.takeWhile isWord
    rw [List.takeWhile_eq_self_iff.2 h]
  have hclosing : closing? (n.word.text ++ ([] ++ .char '>' :: rest)) = some (n.word.text, rest) :=
    closing?_append n.word (by simp) rest
  rw [List.nil_append] at hclosing
  simp only [closer, hword, List.cons_append, List.append_assoc, List.nil_append, token?, hclosing]

/-- A name with other characters closes nothing. -/
theorem token?_closer_of_not_word (h : ¬ ∀ c ∈ n.rest, isWord c = true) (rest : Text) :
    token? (n.closer ++ rest) = some (.other, .char '/' :: (n.text ++ .char '>' :: rest)) := by
  have hclosing : closing? (n.text ++ .char '>' :: rest) = none := by
    obtain ⟨d, more, hmore⟩ : ∃ d more, n.rest.dropWhile isWord = d :: more := by
      refine List.exists_cons_of_ne_nil fun hnil => h ?_
      exact List.dropWhile_eq_nil_iff.1 hnil
    have hd : d ∈ n.rest := (List.dropWhile_suffix isWord).subset (by rw [hmore]; simp)
    obtain ⟨hblank, hmark⟩ := n.unbroken d hd
    have hclose : d ≠ '>' := by
      rintro rfl
      exact hmark (by decide)
    have hdrop : ((n.rest ++ .char '>' :: rest).dropWhile isWord).dropWhile isBlank =
        d :: (more ++ .char '>' :: rest) := by
      rw [dropWhile_append _ (startsOutside_cons.2 (by decide)), hmore]
      exact dropWhile_append_of_startsOutside (t := []) (by simp) (startsOutside_cons.2 hblank)
    rw [text, List.cons_append, closing?, if_pos n.letter, hdrop]
    split
    · next heq => exact absurd (List.cons.inj heq).1 hclose
    · rfl
  simp only [closer, List.cons_append, List.append_assoc, List.nil_append, token?, hclosing]

theorem chain_closer_of_not_word (h : ¬ ∀ c ∈ n.rest, isWord c = true) (stack : List Text)
    (rest : Text) (k : Nat) :
    chain stack (n.closer.length + k) (n.closer ++ rest) = chain stack k rest := by
  have hplain : .char '<' ∉ .char '/' :: (n.text ++ [Code.char '>']) := by
    simp [n.not_mem_text (c := '<') (by decide)]
  have htoken : token? ([.char '<'] ++ (.char '/' :: (n.text ++ [Code.char '>']) ++ rest)) =
      some (.other, .char '/' :: (n.text ++ [Code.char '>']) ++ rest) := by
    simpa [closer] using n.token?_closer_of_not_word h rest
  have hlength : n.closer.length + k =
      [Code.char '<'].length + ((.char '/' :: (n.text ++ [Code.char '>'])).length + k) := by
    simp [closer]
    omega
  have hsplit : n.closer ++ rest =
      [.char '<'] ++ (.char '/' :: (n.text ++ [Code.char '>']) ++ rest) := rfl
  rw [hlength, hsplit, chain_append htoken, track, chain_append_of_not_mem hplain]

/-! ## Both tags -/

theorem pair_eq : n.pair = n.tag.text ++ n.closer := by
  simp [pair, text_tag, closer]

theorem chain_pair (back : Text) (k : Nat) :
    chain [] (n.pair.length + k) (n.pair ++ back) =
      chain (if n.Closes then [] else [lower n.word.text]) k back := by
  rw [pair_eq, List.length_append, Nat.add_assoc, List.append_assoc, chain_tag]
  by_cases hword : ∀ c ∈ n.rest, isWord c = true
  · rw [chain_append (n.token?_closer hword back), if_pos (.inl hword), opened, track]
    split <;> simp
  · rw [n.chain_closer_of_not_word hword, opened]
    simp [Closes, hword]

end ElementName

/-- An element that is opened and closed leaves the ancestors of everything behind it as they were
exactly if its name has word characters only or its word is that of a void element. Otherwise the
word of its name stays open. -/
theorem ancestors_pair_iff (n : ElementName) :
    ((∀ (back : Text) (k : Nat),
        ancestors (n.pair ++ back) (n.pair.length + k) = ancestors back k) ↔ n.Closes) ∧
      (¬ n.Closes → ∀ (back : Text) (k : Nat), k ≤ back.length →
        ancestors (n.pair ++ back) (n.pair.length + k) = chain [lower n.word.text] k back) := by
  have hpair (back : Text) (k : Nat) : ancestors (n.pair ++ back) (n.pair.length + k) =
      chain (if n.Closes then [] else [lower n.word.text]) (min k back.length) back := by
    have hlimit : min ((n.pair.length : Int) + k).toNat (n.pair ++ back).length =
        n.pair.length + min k back.length := by
      rw [List.length_append]
      omega
    rw [ancestors_eq_chain, hlimit, ElementName.chain_pair]
  refine ⟨⟨fun h => ?_, fun h back k => ?_⟩, fun h back k hk => ?_⟩
  · have hnil := h [] 0
    rw [hpair] at hnil
    refine Decidable.byContradiction fun hcloses => ?_
    simp [hcloses, ancestors, chain] at hnil
  · rw [hpair, if_pos h, ancestors_eq_chain, Int.toNat_natCast]
  · rw [hpair, if_neg h, Nat.min_eq_left hk]

/-- A name with a hyphen stays open. -/
theorem ancestors_hyphen :
    ancestors "<x-y></x-y><p>" 11 = [("x" : Text), ("p" : Text)] ∧
      ancestors "<p>" 0 = [("p" : Text)] := by
  decide +kernel

end MarkupNaming.Markup
