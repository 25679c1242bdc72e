import MarkupNaming.Proofs.Markup.Rewriting

/-!
# Insertions

What is put into a tag stands right before its ending. The place is found from the end of the tag
alone, so a text that was put there moves it by its length, unless the end of that text is taken for
a part of the ending. Texts that are put in one after the other keep their order.
-/
namespace MarkupNaming.Markup
open Text
variable {front ending t : Text}

/-! ## Texts one after the other -/

/-- A tag with a text put in at the place of a new attribute. -/
def insertText (tag written : Text) : Text :=
  tag.take (insertOffset tag) ++ written ++ tag.drop (insertOffset tag)

theorem insertAttribute_eq (tag name value : Text) :
    insertAttribute tag name value =
      insertText tag (.char ' ' :: (Tag.newAttribute name value).text) := by
  simp [insertAttribute, insertText, Tag.newAttribute, Attribute.text, Attribute.opening,
    Quote.mark]

/-- A new attribute ends in its quote. -/
theorem isClearOf_newAttribute (name value ending : Text) :
    IsClearOf (.char ' ' :: (Tag.newAttribute name value).text) ending := by
  refine isClearOf_of_solid fun c hc => ?_
  have hquote : (.char ' ' :: (Tag.newAttribute name value).text).getLast? = some (.char '"') := by
    rw [Attribute.text, ← List.cons_append]
    exact List.getLast?_concat
  obtain rfl := Option.some.inj (hquote.symm.trans hc)
  decide

/-- A text is put in between the front of a tag and its ending. -/
theorem insertText_append (hending : IsEnding ending) (hfront : IsClearOf front ending)
    (written : Text) : insertText (front ++ ending) written = front ++ written ++ ending := by
  rw [insertText, (insertOffset_append_iff hending).2 hfront, List.take_left, List.drop_left]

/-- Texts that are put in one after the other stand in this order, and the ending behind them. -/
theorem foldl_insertText {texts : List Text} (hending : IsEnding ending)
    (hfront : IsClearOf front ending) (htexts : ∀ t ∈ texts, IsClearOf t ending) :
    texts.foldl insertText (front ++ ending) = front ++ texts.flatten ++ ending := by
  induction texts generalizing front with
  | nil => simp
  | cons t texts ih =>
    obtain ⟨ht, htexts⟩ := List.forall_mem_cons.1 htexts
    rw [List.foldl_cons, insertText_append hending hfront, ih (hfront.append ht) htexts,
      List.flatten_cons, List.append_assoc front]

/-! ## Tags in documents -/

/-- A tag is a text that is clear of the ending behind it. -/
theorem Tag.exists_insertOffset_eq (tag : Tag) :
    ∃ front ending, tag.text = front ++ ending ∧ insertOffset tag.text = front.length ∧
      .char '<' :: tag.name.text <+: front ∧ IsEnding ending ∧ IsClearOf front ending := by
  have hclear : IsClearOf (.char '<' :: (tag.name.text ++ tag.stem)) (tag.ending ++
      [Code.char '>']) :=
    isClearOf_stem.behindName tag.name
  refine ⟨_, _, tag.text_eq_stem_append, ?_, ⟨tag.stem, rfl⟩, isEnding_ending, hclear⟩
  rw [tag.text_eq_stem_append]
  exact (insertOffset_append_iff isEnding_ending).2 hclear

/-- In the tag of an element that is located in a document, a new attribute belongs behind the name
and in front of blanks, at most one slash and the `>`, and there is no blank before it. A text put
there behind a blank moves the place by its length exactly if its end is no part of what follows.
Texts without a blank or a slash at their ends, and new attributes, stand in the order in which they
are put in. -/
theorem insertOffset_tagText {document marker : Text} {offset : Int} {e : Element}
    (h : locate? document offset marker = some e) :
    let tag := e.tagText document
    let place := insertOffset tag
    (1 + e.tagName.length ≤ place ∧ place ≤ tag.length - 1 ∧
      .char '<' :: e.tagName <+: tag.take place) ∧
    IsEnding (tag.drop place) ∧
    (∃ c, tag[place - 1]? = some c ∧ isBlank c = false) ∧
    (∀ written, insertOffset (tag.take place ++ .char ' ' :: written ++ tag.drop place) =
        place + (.char ' ' :: written).length ↔ IsClearOf (.char ' ' :: written) (tag.drop place)) ∧
    (∀ texts : List Text, (∀ t ∈ texts, ∀ c ∈ t.getLast?, isBlank c = false ∧ c ≠ '/') →
      texts.foldl insertText tag = tag.take place ++ texts.flatten ++ tag.drop place) ∧
    ∀ attributes : List (Text × Text),
      attributes.foldl (fun tag a => insertAttribute tag a.1 a.2) tag = tag.take place ++
        attributes.flatMap (fun a => .char ' ' :: (Tag.newAttribute a.1 a.2).text) ++
          tag.drop place := by
  obtain ⟨before, tag, after, rfl, rfl⟩ := Tag.exists_of_locate? h
  obtain ⟨front, ending, htext, hoffset, hname, hending, hclear⟩ := tag.exists_insertOffset_eq
  have htag := tag.tagText_element before after marker
  intro text place
  have htext : text = front ++ ending := htag.trans htext
  have hplace : place = front.length := (congrArg insertOffset htag).trans hoffset
  have htake : text.take place = front := by rw [htext, hplace, List.take_left]
  have hdrop : text.drop place = ending := by rw [htext, hplace, List.drop_left]
  rw [htake, hdrop]
  refine ⟨⟨?_, ?_, hname⟩, hending, ?_, ?_, ?_, ?_⟩
  · have hle := hname.length_le
    rw [List.length_cons] at hle
    change 1 + tag.name.text.length ≤ place
    omega
  · have hpos := List.length_pos_iff.2 hending.ne_nil
    rw [htext, hplace, List.length_append]
    omega
  · have hne : front ≠ [] := List.ne_nil_of_mem (hname.mem List.mem_cons_self)
    refine ⟨front.getLast hne, ?_, (hclear _ (List.getLast?_eq_some_getLast hne)).1⟩
    rw [htext, hplace, List.getElem?_append_left (by have := List.length_pos_iff.2 hne; omega),
      ← List.getLast?_eq_getElem?, List.getLast?_eq_some_getLast hne]
  · intro written
    rw [hplace, ← List.length_append, insertOffset_append_iff hending,
      isClearOf_append_iff (List.cons_ne_nil _ _)]
  · intro texts htexts
    rw [htext]
    exact foldl_insertText hending hclear fun t ht => isClearOf_of_solid (htexts t ht)
  · intro attributes
    have hclears : ∀ t ∈ attributes.map (fun a => .char ' ' :: (Tag.newAttribute a.1 a.2).text),
        IsClearOf t ending := by
      intro t ht
      obtain ⟨a, -, rfl⟩ := List.mem_map.1 ht
      exact isClearOf_newAttribute a.1 a.2 ending
    have hfold := foldl_insertText hending hclear hclears
    rw [List.foldl_map, ← List.flatMap_def, ← htext] at hfold
    simpa only [insertAttribute_eq] using hfold

/-- Of two slashes only the second one belongs to the ending, and so do the blanks before it: a
further slash may stand there. -/
theorem insertOffset_tagText_slashes : ∃ e,
    locate? ("a<input / />b" : Text) 3 = some e ∧
      e.tagText "a<input / />b" = ("<input / />" : Text) ∧
    insertOffset "<input / />" = 8 ∧ insertOffset "<input / checked/ />" = 17 ∧
    [(" a" : Text), (" b" : Text)].foldl insertText "<input / />" = ("<input / a b />" : Text) := by
  have located : locate? ("a<input / />b" : Text) 3 =
      some ⟨"input", 1, 12, [], defaultPathMarker⟩ := by decide +kernel
  have htag : Element.tagText ⟨"input", 1, 12, [], defaultPathMarker⟩ "a<input / />b" =
      ("<input / />" : Text) := rfl
  have hplace : insertOffset "<input / />" = 8 := by decide +kernel
  obtain ⟨-, -, -, hnext, htexts, -⟩ := insertOffset_tagText located
  rw [htag, hplace] at hnext htexts
  refine ⟨_, located, htag, hplace, (hnext "checked/").2 ?_, htexts _ ?_⟩
  · intro c hc
    obtain rfl : '/' = c := Option.some.inj hc
    exact ⟨by decide, fun _ => by decide⟩
  · refine List.forall_mem_cons.2 ⟨fun c hc => ?_, List.forall_mem_singleton.2 fun c hc => ?_⟩
    · obtain rfl : 'a' = c := Option.some.inj hc
      decide
    · obtain rfl : 'b' = c := Option.some.inj hc
      decide

end MarkupNaming.Markup
