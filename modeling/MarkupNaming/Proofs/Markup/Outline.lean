import MarkupNaming.Proofs.Markup.Relocation

/-!
# Outlines of tags

A class or a path marker may hold any character. With a `>` in it the rewritten tag is no opening
tag any more, but its outline is left: it starts with `<` and the name and ends in `>`, and every
change is made between the two.
-/
namespace MarkupNaming.Markup
open Text

namespace TagName
variable (n : TagName) {body front part back : Text}

/-- A text behind `<` and the name and in front of a `>`. -/
def around (body : Text) : Text := .char '<' :: (n.text ++ (body ++ [Code.char '>']))

/-- The offset of the text behind the name. -/
def offset : Nat := 1 + n.text.length

theorem around_append (front back : Text) :
    n.around (front ++ back) = (.char '<' :: (n.text ++ front)) ++ (back ++ [Code.char '>']) := by
  simp [around]

theorem append_eq_around (front written back : Text) :
    (.char '<' :: (n.text ++ front)) ++ written ++ (back ++ [Code.char '>']) =
      n.around (front ++ (written ++ back)) := by
  simp [around]

theorem length_name_append (front : Text) :
    (.char '<' :: (n.text ++ front)).length = n.offset + front.length := by
  simp [offset]
  omega

theorem take_around (h : body = front ++ back) :
    (n.around body).take (n.offset + front.length) = .char '<' :: (n.text ++ front) := by
  rw [h, around_append]
  exact List.take_left' (n.length_name_append front)

theorem drop_around (h : body = front ++ back) :
    (n.around body).drop (n.offset + front.length) = back ++ [Code.char '>'] := by
  rw [h, around_append]
  exact List.drop_left' (n.length_name_append front)

/-! ## A new attribute -/

/-- A new attribute belongs behind the name. -/
theorem exists_insertOffset_around (body : Text) :
    ∃ front back, body = front ++ back ∧
      insertOffset (n.around body) = n.offset + front.length := by
  obtain ⟨front, back, hbody, hclear, hending⟩ := exists_clear_append body
  refine ⟨front, back, hbody, ?_⟩
  rw [hbody, around_append, insertOffset_behindName hclear hending, offset]

theorem exists_insertAttribute_around (body name value : Text) :
    ∃ front back, body = front ++ back ∧
      insertAttribute (n.around body) name value =
        n.around (front ++ (.char ' ' :: (Tag.newAttribute name value).text ++ back)) := by
  obtain ⟨front, back, hbody, hoffset⟩ := n.exists_insertOffset_around body
  refine ⟨front, back, hbody, ?_⟩
  unfold insertAttribute
  dsimp only
  rw [hoffset, n.take_around hbody, n.drop_around hbody, append_eq_around]
  simp [Tag.newAttribute, Attribute.text, Attribute.opening, Quote.mark]

/-! ## A new value -/

variable {e : Element} {name : Text} {span : AttributeSpan Nat}

/-- The value of an attribute that is read behind the name stands between the name and the `>`. -/
theorem exists_value_around (he : e.tagName = n.text)
    (h : (relocate e (n.around body)).attribute? name = some span) :
    ∃ front part back, body = front ++ (part ++ back) ∧
      span.valueStart = e.start + (n.offset + front.length) ∧
      span.valueStop = e.start + (n.offset + (front ++ part).length) := by
  obtain ⟨found, hfound, rfl⟩ := List.mem_map.1 (List.mem_of_find?_eq_some h)
  have hslice : (n.around body).slice n.offset (n.around body).length =
      body ++ [Code.char '>'] := by
    rw [slice, List.take_length]
    exact n.drop_around (List.nil_append body).symm
  rw [he, attributesBetween_eq, show 1 + n.text.length = n.offset from rfl, hslice] at hfound
  obtain ⟨a, ha, rfl⟩ : ∃ a, a ∈ attributesFrom _ n.offset (body ++ [Code.char '>']) ∧
      a.2.span a.1 = found := List.mem_map.1 ((firstOfName_sublist _ _).subset hfound)
  obtain ⟨front, rest, heq, hpos, hread⟩ := exists_of_mem_attributesFrom ha
  -- The attribute does not end in `>`, so the last `>` stands behind it.
  have hne : rest ≠ [] := by
    rintro rfl
    have hlast := congrArg List.getLast? heq
    have htext := List.length_pos_iff.1 a.2.text_length_pos
    rw [List.getLast?_concat, List.append_nil, List.getLast?_append,
      List.getLast?_eq_some_getLast htext, Option.some_or,
      ← List.getLast?_eq_some_getLast htext] at hlast
    exact Attribute.getLast?_text_ne_close (isWritten_of_mem_attributesFrom ha) hlast.symm
  rw [← List.dropLast_concat_getLast hne, ← List.append_assoc, ← List.append_assoc] at heq
  obtain ⟨hbody, -⟩ := List.append_inj' heq rfl
  refine ⟨front ++ a.2.opening, a.2.value, a.2.quote.mark ++ rest.dropLast, ?_, ?_, ?_⟩
  · rw [hbody]
    simp [Attribute.text]
  · simp [AttributeSpan.map, Attribute.span, hpos]
    omega
  · simp [AttributeSpan.map, Attribute.span, hpos]
    omega

theorem exists_replaceValue_around (he : e.tagName = n.text)
    (h : (relocate e (n.around body)).attribute? name = some span) (value : Text) :
    ∃ body', replaceValue (n.around body) (relocate e (n.around body)) span value =
      n.around body' := by
  obtain ⟨front, part, back, hbody, hstart, hstop⟩ := n.exists_value_around he h
  have hbody' : body = (front ++ part) ++ back := by rw [hbody, List.append_assoc]
  have hlocal : span.valueStart - (relocate e (n.around body)).start =
      n.offset + front.length := by
    rw [hstart]
    exact Nat.add_sub_cancel_left ..
  have hlocal' : span.valueStop - (relocate e (n.around body)).start =
      n.offset + (front ++ part).length := by
    rw [hstop]
    exact Nat.add_sub_cancel_left ..
  rw [replaceValue, hlocal, hlocal', n.take_around hbody, n.drop_around hbody']
  exact ⟨_, n.append_eq_around front _ back⟩

/-! ## Rewriting -/

theorem exists_applyClass_around (he : e.tagName = n.text) (body newClass : Text) :
    ∃ body', applyClass (n.around body) (relocate e (n.around body)) newClass =
      n.around body' := by
  unfold applyClass
  split
  · exact ⟨body, rfl⟩
  · split
    · obtain ⟨front, back, -, heq⟩ := n.exists_insertAttribute_around body classAttribute newClass
      exact ⟨_, heq⟩
    · next span hspan =>
      split
      · exact ⟨body, rfl⟩
      · exact n.exists_replaceValue_around he hspan _

theorem exists_applyMarker_around (he : e.tagName = n.text) (body value : Text)
    (chosen : Option Text) :
    ∃ body', applyMarker (n.around body) (relocate e (n.around body)) value chosen =
      n.around body' := by
  unfold applyMarker
  dsimp only
  split
  · obtain ⟨front, back, -, heq⟩ := n.exists_insertAttribute_around body _ value
    exact ⟨_, heq⟩
  · next span hspan =>
    split
    · exact ⟨body, rfl⟩
    · exact n.exists_replaceValue_around he hspan _

end TagName

namespace Tag
variable (tag : Tag) (front back marker newClass : Text)

/-- An edit of a tag keeps its outline, whatever the class and the path marker are. -/
theorem exists_replacement_eq_around (value chosen : Option Text) :
    ∃ body, (buildEdit (front ++ (tag.text ++ back)) (tag.element front.length marker) newClass
      value chosen).replacement = tag.name.around body := by
  obtain ⟨body, hclassed⟩ :=
    tag.name.exists_applyClass_around (e := tag.element front.length marker) rfl tag.body newClass
  have hself : relocate (tag.element front.length marker) (tag.name.around tag.body) =
      tag.element front.length marker := relocate_self marker front.length
  rw [hself] at hclassed
  change applyClass tag.text _ _ = _ at hclassed
  cases hvalue : value.filter (!List.isEmpty ·) with
  | none =>
    rw [replacement_buildEdit_nil front back marker newClass chosen hvalue]
    exact ⟨body, hclassed⟩
  | some v =>
    obtain ⟨rfl, hne⟩ := Option.filter_eq_some_iff.1 hvalue
    rw [replacement_buildEdit front back marker newClass (by simpa using hne), hclassed]
    exact tag.name.exists_applyMarker_around rfl body v chosen

/-- A new attribute is one insertion behind the name and in front of the `>`. -/
theorem exists_insertAttribute_text (name value : Text) :
    ∃ head written rest, tag.text = head ++ rest ∧
      insertAttribute tag.text name value = head ++ (written ++ rest) ∧ written ≠ [] ∧
      0 < head.length ∧ head.length < tag.text.length := by
  obtain ⟨first, last, hbody, heq⟩ := tag.name.exists_insertAttribute_around tag.body name value
  change insertAttribute tag.text name value = _ at heq
  refine ⟨.char '<' :: (tag.name.text ++ first), .char ' ' :: (newAttribute name value).text,
    last ++ [Code.char '>'],
    ?_, ?_, by simp, by simp, ?_⟩
  · change tag.name.around tag.body = _
    rw [hbody, TagName.around_append]
  · rw [heq, TagName.around_append]
    simp
  · rw [length_text, hbody]
    simp [bodyOffset]
    omega

variable {tag front back marker newClass} {value chosen : Option Text}

/-- An edit leaves a document as it is exactly if it leaves the tag as it is. -/
theorem apply_buildEdit_eq_self_iff {document : Text}
    (hdocument : document = front ++ (tag.text ++ back)) :
    (buildEdit document (tag.element front.length marker) newClass value chosen).apply document =
        document ↔
      (buildEdit document (tag.element front.length marker) newClass value chosen).changes =
        false := by
  subst hdocument
  have hreplaced := tag.tagText_element front back marker
  rw [apply_buildEdit, splice_element, List.append_cancel_left_eq, List.append_cancel_right_eq,
    TextEdit.changes, bne_eq_false_iff_eq]
  simp only [buildEdit, hreplaced]

/-- An edit with a new class only is one insertion inside the tag. -/
theorem exists_insertion {document : Text} (hdocument : document = front ++ (tag.text ++ back))
    (hclass : newClass ≠ []) (absent : (tag.element front.length marker).classSpan? = none)
    (hvalue : value.filter (!List.isEmpty ·) = none) :
    ∃ before written behind, document = before ++ behind ∧
      (buildEdit document (tag.element front.length marker) newClass value chosen).apply document =
        before ++ (written ++ behind) ∧ written ≠ [] ∧
      front.length < before.length ∧ before.length < front.length + tag.text.length := by
  subst hdocument
  obtain ⟨head, written, rest, htext, hinsert, hne, hpos, hlt⟩ :=
    tag.exists_insertAttribute_text classAttribute newClass
  have happlied : applyClass tag.text (tag.element front.length marker) newClass =
      head ++ (written ++ rest) := by
    rw [applyClass, if_neg (by simpa using hclass), absent]
    exact hinsert
  refine ⟨front ++ head, written, rest ++ back, by simp [htext], ?_, hne, ?_, ?_⟩
  · rw [apply_buildEdit, splice_element, replacement_buildEdit_nil front back marker newClass
      chosen hvalue, happlied]
    simp
  · rw [List.length_append]
    omega
  · rw [List.length_append]
    omega

end Tag
end MarkupNaming.Markup
