import MarkupNaming.Markup.Ancestry
import MarkupNaming.Markup.Edit
import MarkupNaming.Proofs.Markup.Attribute.Scanning

/-!
# Opening tags

An opening tag as data: its name and what stands between the name and the `>`. Locating finds
exactly such tags, wherever they stand, and reads the same attributes in a document as in the
text of the tag alone. As a token, a tag is its name in lowercase and whether it ends in `/>`.
-/
namespace MarkupNaming.Markup
open Text

/-! ## Names -/

/-- Whether a text can name a tag: an ASCII letter and word characters. -/
def isTagName : Text → Bool
  | [] => false
  | c :: rest => isAsciiLetter c && rest.all isWord

/-- The name of a tag. -/
structure TagName where
  text : Text
  isName : isTagName text = true
deriving DecidableEq

namespace TagName
variable (n : TagName)

theorem exists_cons :
    ∃ c rest, n.text = c :: rest ∧ isAsciiLetter c = true ∧ ∀ d ∈ rest, isWord d = true := by
  have := n.isName
  cases h : n.text with
  | nil => simp [h, isTagName] at this
  | cons c rest =>
    simp only [h, isTagName, Bool.and_eq_true, List.all_eq_true] at this
    exact ⟨c, rest, rfl, this⟩

theorem ne_nil : n.text ≠ [] := by
  obtain ⟨c, rest, h, -⟩ := n.exists_cons
  simp [h]

theorem isWord_of_mem {c : Code} (h : c ∈ n.text) : isWord c = true := by
  obtain ⟨d, rest, heq, hd, hrest⟩ := n.exists_cons
  rw [heq] at h
  rcases List.mem_cons.1 h with rfl | h
  · exact isWord_of_isAsciiLetter hd
  · exact hrest c h

theorem not_mem {c : Code} (h : isWord c = false) : c ∉ n.text := by
  intro hc
  rw [n.isWord_of_mem hc] at h
  cases h

theorem isWord_of_getLast? {c : Code} (h : (.char '<' :: n.text).getLast? = some c) :
    isWord c = true := by
  rw [List.getLast?_cons, List.getLast?_eq_some_getLast n.ne_nil] at h
  exact n.isWord_of_mem (by rw [← Option.some.inj h]; exact List.getLast_mem n.ne_nil)

/-- A name is read off a text in which it stands behind `<` and is not continued. -/
theorem tagName?_append {rest : Text} (h : StartsOutside isWord rest) :
    tagName? (.char '<' :: (n.text ++ rest)) = some n.text := by
  obtain ⟨c, name, heq, hc, hname⟩ := n.exists_cons
  rw [heq, List.cons_append, tagName?, if_pos hc, takeWhile_append_of_startsOutside hname h]

/-- Where a name is read, it stands behind `<` and is not continued. -/
theorem exists_of_tagName? {t name : Text} (h : tagName? t = some name) :
    ∃ n : TagName, n.text = name ∧
      ∃ rest, t = .char '<' :: (n.text ++ rest) ∧ StartsOutside isWord rest := by
  unfold tagName? at h
  split at h
  · next c rest =>
    split at h
    · next hc =>
      cases h
      refine ⟨⟨c :: rest.takeWhile isWord, ?_⟩, rfl, rest.dropWhile isWord, ?_,
        startsOutside_dropWhile⟩
      · simp only [isTagName, Bool.and_eq_true, List.all_eq_true]
        exact ⟨hc, forall_mem_takeWhile⟩
      · rw [List.cons_append, List.takeWhile_append_dropWhile]
    · cases h
  · cases h

end TagName

/-! ## Tags -/

theorem throughClose?_append {front : Text} (h : .char '>' ∉ front) (rest : Text) :
    throughClose? (front ++ .char '>' :: rest) = some (front ++ [Code.char '>']) := by
  rw [throughClose?, if_pos (by simp), takeWhile_ne h]

theorem exists_of_throughClose? {t tag : Text} (h : throughClose? t = some tag) :
    ∃ front rest, .char '>' ∉ front ∧ tag = front ++ [Code.char '>'] ∧
      t = front ++ .char '>' :: rest := by
  unfold throughClose? at h
  split at h
  · next hmem =>
    cases h
    obtain ⟨hfront, rest, heq⟩ := exists_takeWhile_ne hmem
    exact ⟨_, rest, hfront, rfl, heq⟩
  · cases h

/-- An element is located where the last opening is, and its parts are read there. -/
theorem locate?_eq_some_iff {document marker : Text} {offset : Int} {e : Element} :
    locate? document offset marker = some e ↔
      lastOpening? document offset.toNat = some e.start ∧
        ∃ u, throughClose? (document.drop e.start) = some u ∧ tagName? u = some e.tagName ∧
          e.stop = e.start + u.length ∧ e.markerAttribute = marker ∧
          e.attributes = attributesBetween document (e.start + 1 + e.tagName.length) e.stop := by
  simp only [locate?, Option.bind_eq_bind, Option.bind_eq_some_iff]
  constructor
  · rintro ⟨start, hopening, u, hu, name, hname, he⟩
    obtain rfl := Option.some.inj he
    exact ⟨hopening, u, hu, hname, rfl, rfl, rfl⟩
  · rintro ⟨hopening, u, hu, hname, hstop, hmarker, hattributes⟩
    refine ⟨e.start, hopening, u, hu, e.tagName, hname, congrArg some ?_⟩
    rw [← hstop, ← hattributes, ← hmarker]

/-- An opening tag. -/
structure Tag where
  name : TagName
  /-- What stands between the name and the `>`. -/
  body : Text
  notClosed : .char '>' ∉ body
  nameEnds : StartsOutside isWord body

namespace Tag
variable (tag : Tag)

/-- The tag as it is written. -/
def text : Text := .char '<' :: (tag.name.text ++ (tag.body ++ [Code.char '>']))

/-- The offset in the tag at which its body starts. -/
def bodyOffset : Nat := 1 + tag.name.text.length

/-- Whether the tag ends in `/>`. -/
def closesItself : Bool := tag.body.getLast? == some (.char '/')

theorem text_eq_append :
    tag.text = (.char '<' :: (tag.name.text ++ tag.body)) ++ [Code.char '>'] := by
  simp [text]

@[simp] theorem length_text : tag.text.length = tag.bodyOffset + tag.body.length + 1 := by
  simp [text, bodyOffset]
  omega

theorem not_mem_front : .char '>' ∉ .char '<' :: (tag.name.text ++ tag.body) := by
  have := tag.name.not_mem (c := '>') (by decide)
  simp [this, tag.notClosed]

theorem text_append (rest : Text) :
    tag.text ++ rest = .char '<' :: (tag.name.text ++ (tag.body ++ .char '>' :: rest)) := by
  simp [text]

theorem startsOutside_body (rest : Text) :
    StartsOutside isWord (tag.body ++ .char '>' :: rest) := by
  cases hbody : tag.body with
  | nil => exact startsOutside_cons.2 (by decide)
  | cons c body =>
    have := tag.nameEnds
    rw [hbody, startsOutside_cons] at this
    exact startsOutside_cons.2 this

theorem throughClose?_text_append (rest : Text) :
    throughClose? (tag.text ++ rest) = some tag.text := by
  rw [text_eq_append, List.append_assoc]
  exact throughClose?_append tag.not_mem_front rest

theorem tagName?_text_append (rest : Text) :
    tagName? (tag.text ++ rest) = some tag.name.text := by
  rw [text_append]
  exact tag.name.tagName?_append (tag.startsOutside_body rest)

/-- Every text that ends at its first `>` and starts with a tag name is an opening tag. -/
theorem exists_of_throughClose? {t u name : Text} (ht : throughClose? t = some u)
    (hname : tagName? u = some name) :
    ∃ tag : Tag, tag.text = u ∧ tag.name.text = name ∧ ∃ rest, t = tag.text ++ rest := by
  obtain ⟨front, rest, hfront, rfl, rfl⟩ := Markup.exists_of_throughClose? ht
  obtain ⟨n, rfl, tail, heq, htail⟩ := TagName.exists_of_tagName? hname
  -- The `>` stands behind the name, so it ends the tail.
  have hne : tail ≠ [] := by
    rintro rfl
    have hlast : .char '>' ∈ .char '<' :: (n.text ++ []) := by rw [← heq]; simp
    simp [n.not_mem (c := '>') (by decide)] at hlast
  have hsplit := List.dropLast_concat_getLast hne
  have hinit : front ++ [Code.char '>'] =
      (.char '<' :: (n.text ++ tail.dropLast)) ++ [tail.getLast hne] := by
    rw [heq, List.cons_append, List.append_assoc, hsplit]
  obtain ⟨rfl, hclose⟩ := List.append_inj' hinit rfl
  rw [List.cons.injEq] at hclose
  refine ⟨⟨n, tail.dropLast, ?_, ?_⟩, ?_, rfl, rest, ?_⟩
  · intro hmem
    exact hfront (by simp [hmem])
  · intro c hc
    refine htail c ?_
    rw [← hsplit, List.head?_append, Option.mem_def.1 hc]
    rfl
  · simp [text]
  · simp [text]

/-! ## Attributes of a tag -/

/-- The attributes written in a tag, with their offsets in its body. -/
def entries : List (Nat × Attribute) :=
  attributesFrom tag.name.text.getLast? 0 (tag.body ++ [Code.char '>'])

/-- The spans of the attributes that count, in the text of the tag. -/
def spans : List (AttributeSpan Nat) :=
  firstOfName [] (tag.entries.map fun e => e.2.span (e.1 + tag.bodyOffset))

theorem slice_text : tag.text.slice tag.bodyOffset tag.text.length =
    tag.body ++ [Code.char '>'] := by
  have hsplit : tag.text = (.char '<' :: tag.name.text) ++ (tag.body ++ [Code.char '>']) := rfl
  have hlen : tag.bodyOffset = (.char '<' :: tag.name.text).length := by
    simp [bodyOffset, Nat.add_comm]
  rw [slice, List.take_length, hlen, hsplit, List.drop_left]

/-- The last character of the name stands in front of the body. -/
theorem getElem?_text : tag.text[tag.name.text.length]? = tag.name.text.getLast? := by
  have hpos := List.length_pos_iff.2 tag.name.ne_nil
  rw [text, List.getElem?_cons, if_neg (by omega), List.getElem?_append_left (by omega),
    ← List.getLast?_eq_getElem?]

theorem attributesBetween_text :
    attributesBetween tag.text tag.bodyOffset tag.text.length = tag.spans := by
  have hbefore : tag.text[tag.bodyOffset - 1]? = tag.name.text.getLast? := by
    rw [bodyOffset, Nat.add_sub_cancel_left, getElem?_text]
  have hscan : attributesFrom tag.name.text.getLast? tag.bodyOffset (tag.body ++ [Code.char '>']) =
      tag.entries.map fun e => (e.1 + tag.bodyOffset, e.2) := by
    rw [entries, ← attributesFrom_add, Nat.zero_add]
  rw [attributesBetween_eq, slice_text, hbefore, if_neg (by unfold bodyOffset; omega), hscan,
    List.map_map]
  rfl

/-- An attribute found in a tag stands in its body, apart from the name. -/
theorem exists_of_mem_entries {e : Nat × Attribute} (h : e ∈ tag.entries) :
    ∃ front back, tag.body = front ++ (e.2.text ++ back) ∧ e.1 = front.length ∧ front ≠ [] ∧
      attributeAt? front.getLast? (e.2.text ++ (back ++ [Code.char '>'])) = some e.2 := by
  obtain ⟨front, rest, heq, hpos, hread⟩ := exists_of_mem_attributesFrom h
  have hne : front ≠ [] := by
    rintro rfl
    have hlast := List.getLast_mem tag.name.ne_nil
    rw [List.getLast?_nil, Option.none_or, attributeAt?_eq_none_of_isNameChar] at hread
    · cases hread
    · rw [List.getLast?_eq_some_getLast tag.name.ne_nil, Option.any_some]
      simp [isNameChar, tag.name.isWord_of_mem hlast]
  rw [List.getLast?_eq_some_getLast hne, Option.some_or,
    ← List.getLast?_eq_some_getLast hne] at hread
  -- The attribute does not end in `>`, so the `>` of the tag stands behind it.
  rcases List.eq_nil_or_concat rest with rfl | ⟨back, c, rfl⟩
  · have hwritten := (attributeAt?_append_eq_some_iff.1 hread).2.1
    have htext := List.length_pos_iff.1 e.2.text_length_pos
    have hlast := congrArg List.getLast? heq
    rw [List.getLast?_concat, List.append_nil, List.getLast?_append,
      List.getLast?_eq_some_getLast htext, Option.some_or,
      ← List.getLast?_eq_some_getLast htext] at hlast
    exact absurd hlast.symm (Attribute.getLast?_text_ne_close hwritten)
  · rw [List.concat_eq_append, ← List.append_assoc, ← List.append_assoc] at heq
    obtain ⟨hbody, hclose⟩ := List.append_inj' heq rfl
    obtain rfl : '>' = c := by simpa using hclose
    rw [List.concat_eq_append] at hread
    exact ⟨front, back, by rw [hbody, List.append_assoc], by omega, hne, hread⟩

/-! ## Locating -/

/-- The element that a tag is at an offset of a document. -/
def element (start : Nat) (marker : Text) : Element where
  tagName := tag.name.text
  start := start
  stop := start + tag.text.length
  attributes := tag.spans.map (·.map (· + start))
  markerAttribute := marker

theorem attributesBetween_append (front back : Text) :
    attributesBetween (front ++ (tag.text ++ back)) (front.length + tag.bodyOffset)
        (front.length + tag.text.length) = tag.spans.map (·.map (· + front.length)) := by
  rw [Markup.attributesBetween_append front tag.text back (by unfold bodyOffset; omega)
    (by rw [length_text]; omega), attributesBetween_text]

theorem lastOpening?_append {t : Text} (h : opensTag t = true) (front : Text) :
    lastOpening? (front ++ t) front.length = some front.length := by
  induction front with
  | nil =>
    cases t with
    | nil => cases h
    | cons c t => simp [lastOpening?, h]
  | cons c front ih =>
    rw [List.cons_append, List.length_cons, lastOpening?, ih]
    rfl

theorem opensTag_text_append (rest : Text) : opensTag (tag.text ++ rest) = true := by
  obtain ⟨c, name, heq, hc, -⟩ := tag.name.exists_cons
  rw [text_append, heq]
  unfold opensTag
  split
  · next hslash =>
    simp only [List.cons_append, List.cons.injEq] at hslash
    rw [hslash.2.1] at hc
    exact absurd hc (by decide)
  · rfl
  · next hnot => exact absurd rfl (hnot _)

/-- A tag is located from its own start. -/
theorem locate?_append (front back marker : Text) :
    locate? (front ++ (tag.text ++ back)) front.length marker =
      some (tag.element front.length marker) := by
  refine locate?_eq_some_iff.2
    ⟨lastOpening?_append (tag.opensTag_text_append back) front, tag.text, ?_, ?_, rfl, rfl, ?_⟩
  · change throughClose? (List.drop front.length _) = _
    rw [List.drop_left, tag.throughClose?_text_append]
  · have hname := tag.tagName?_text_append []
    rwa [List.append_nil] at hname
  · change _ = attributesBetween _ (front.length + 1 + tag.name.text.length) _
    rw [Nat.add_assoc]
    exact (tag.attributesBetween_append front back).symm

/-- What is located is a tag that stands in the document at its offset. -/
theorem exists_of_locate? {document marker : Text} {offset : Int} {e : Element}
    (h : locate? document offset marker = some e) :
    ∃ (front : Text) (tag : Tag) (back : Text),
      document = front ++ (tag.text ++ back) ∧ e = tag.element front.length marker := by
  obtain ⟨-, u, hu, hname, hstop, hmarker, hattributes⟩ := locate?_eq_some_iff.1 h
  obtain ⟨tag, rfl, hname, back, hdrop⟩ := exists_of_throughClose? hu hname
  have hlen : (document.take e.start).length = e.start := by
    have := congrArg List.length hdrop
    rw [List.length_drop, List.length_append, length_text] at this
    rw [List.length_take]
    omega
  have hdocument : document = document.take e.start ++ (tag.text ++ back) := by
    rw [← hdrop, List.take_append_drop]
  refine ⟨document.take e.start, tag, back, hdocument, ?_⟩
  have hspans := tag.attributesBetween_append (document.take e.start) back
  rw [← hdocument, hlen, bodyOffset, hname, ← Nat.add_assoc, ← hstop, ← hattributes] at hspans
  rw [hlen, element, hname, ← hstop, ← hspans, ← hmarker]

/-- The text of a located tag is read off its document. -/
theorem tagText_element (front back marker : Text) :
    (tag.element front.length marker).tagText (front ++ (tag.text ++ back)) = tag.text := by
  simp [Element.tagText, element, slice, List.take_append, List.take_of_length_le]

theorem relocate_element {tag tag' : Tag} (h : tag'.name = tag.name) (start : Nat)
    (marker : Text) :
    relocate (tag.element start marker) tag'.text = tag'.element start marker := by
  rw [relocate, element, ← h]
  change ({ tagName := _, start := _, stop := _, markerAttribute := _,
            attributes := (attributesBetween tag'.text tag'.bodyOffset _).map _ } : Element) = _
  rw [attributesBetween_text]
  rfl

/-- The first attribute of a lowercase name, with its offset in the body. -/
def written? (name : Text) : Option (Nat × Attribute) :=
  tag.entries.find? fun e => lower e.2.name == name

theorem lower_name_of_written? {name : Text} {e : Nat × Attribute}
    (h : tag.written? name = some e) : lower e.2.name = name := by
  have := List.find?_some h
  exact eq_of_beq this

/-- The attribute of a name in an element is the first one of that name written in its tag. -/
theorem attribute?_element (start : Nat) (marker name : Text) :
    (tag.element start marker).attribute? name = (tag.written? name).map fun e =>
      (e.2.span (e.1 + tag.bodyOffset)).map (· + start) := by
  rw [Element.attribute?, element, List.find?_map]
  change Option.map _ (tag.spans.find? (·.name == name)) = _
  rw [spans, find?_firstOfName List.not_mem_nil, List.find?_map, Option.map_map]
  rfl

end Tag
end MarkupNaming.Markup
