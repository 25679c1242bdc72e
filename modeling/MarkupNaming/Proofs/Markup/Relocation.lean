import MarkupNaming.Proofs.Markup.Rewriting

/-!
# Relocation

After its tag has been rewritten, an element need not be searched again: its spans are read off
the new text of the tag. This gives the element that locating finds in the new document at the
old offset, so a class and a path marker set in one edit are the two set one after the other.
-/
namespace MarkupNaming.Markup
open Text

/-- A document with the tag of an element replaced. -/
def Element.splice (e : Element) (document tag : Text) : Text :=
  document.take e.start ++ (tag ++ document.drop e.stop)

/-- An edit replaces the tag of its element. -/
theorem apply_buildEdit (document : Text) (e : Element) (newClass : Text)
    (value chosen : Option Text) :
    (buildEdit document e newClass value chosen).apply document =
      e.splice document (buildEdit document e newClass value chosen).replacement := by
  simp [TextEdit.apply, buildEdit, Element.splice]

namespace Tag
variable {tag tag' : Tag} (front back marker : Text)

@[simp] theorem splice_element (u : Text) :
    (tag.element front.length marker).splice (front ++ (tag.text ++ back)) u =
      front ++ (u ++ back) := by
  have hdrop : (front ++ (tag.text ++ back)).drop (front.length + tag.text.length) = back := by
    rw [← List.append_assoc]
    exact List.drop_left' List.length_append
  change List.take front.length _ ++ (u ++ List.drop (front.length + tag.text.length) _) = _
  rw [List.take_left, hdrop]

/-- A rewritten tag of the same name is located where the tag was. -/
theorem locate?_splice (h : tag'.name = tag.name) :
    locate? ((tag.element front.length marker).splice (front ++ (tag.text ++ back)) tag'.text)
        front.length marker =
      some (relocate (tag.element front.length marker) tag'.text) := by
  rw [splice_element, locate?_append, relocate_element h]

/-- Reading the attributes again from an unchanged tag changes nothing. -/
theorem relocate_self (start : Nat) : relocate (tag.element start marker) tag.text =
    tag.element start marker := relocate_element rfl start marker

/-- The tag of an edit with a class and a path marker. -/
theorem replacement_buildEdit (newClass : Text) {value : Text} (hvalue : value ≠ [])
    (chosen : Option Text) :
    (buildEdit (front ++ (tag.text ++ back)) (tag.element front.length marker) newClass
        (some value) chosen).replacement =
      applyMarker (applyClass tag.text (tag.element front.length marker) newClass)
        (relocate (tag.element front.length marker)
          (applyClass tag.text (tag.element front.length marker) newClass)) value chosen := by
  have hfilter : (some value).filter (!List.isEmpty ·) = some value := by
    simp [Option.filter, hvalue]
  unfold buildEdit
  simp only [hfilter, tagText_element]
  split
  · next heq => rw [heq, relocate_self]
  · rfl

/-- The tag of an edit with a class only. -/
theorem replacement_buildEdit_nil (newClass : Text) (chosen : Option Text) {value : Option Text}
    (hvalue : value.filter (!List.isEmpty ·) = none) :
    (buildEdit (front ++ (tag.text ++ back)) (tag.element front.length marker) newClass
        value chosen).replacement =
      applyClass tag.text (tag.element front.length marker) newClass := by
  unfold buildEdit
  simp only [hvalue, tagText_element]

end Tag

/-- Relocating an element agrees with locating it in the document with the new tag. Hence an edit
that sets a class and a path marker gives the document of the class alone, edited once more at
the element located there. -/
theorem locate?_splice_eq_relocate {document marker : Text} {offset : Int} {e : Element}
    (located : locate? document offset marker = some e) :
    (∀ newClass : Text, .char '>' ∉ newClass →
      locate? (e.splice document (applyClass (e.tagText document) e newClass)) e.start marker =
        some (relocate e (applyClass (e.tagText document) e newClass))) ∧
    (∀ (value : Text) (chosen : Option Text), .char '>' ∉ value →
      .char '>' ∉ (chosen.filter (!List.isEmpty ·)).getD marker →
      locate? (e.splice document (applyMarker (e.tagText document) e value chosen))
          e.start marker =
        some (relocate e (applyMarker (e.tagText document) e value chosen))) ∧
    (∀ (newClass value : Text) (chosen : Option Text), .char '>' ∉ newClass →
      ∃ e', locate? ((buildEdit document e newClass).apply document) e.start marker = some e' ∧
        (buildEdit document e newClass (some value) chosen).apply document =
          (buildEdit ((buildEdit document e newClass).apply document) e' [] (some value)
            chosen).apply ((buildEdit document e newClass).apply document) ∧
        (value ≠ [] →
          (buildEdit document e newClass (some value) chosen).apply document =
            e'.splice ((buildEdit document e newClass).apply document)
              (applyMarker (e'.tagText ((buildEdit document e newClass).apply document)) e'
                value chosen))) := by
  obtain ⟨front, tag, back, rfl, rfl⟩ := Tag.exists_of_locate? located
  rw [Tag.tagText_element]
  refine ⟨?_, ?_, ?_⟩
  · intro newClass hclass
    obtain ⟨tag', hsets, heq⟩ := Tag.exists_sets_applyClass tag front.length marker hclass
    rw [heq]
    exact Tag.locate?_splice front back marker hsets.name_eq
  · intro value chosen hvalue hchosen
    have hname : .char '>' ∉ markerName (tag.element front.length marker) chosen := by
      intro hmem
      exact hchosen (mem_of_mem_lower (by decide) hmem)
    obtain ⟨tag', hsets, heq⟩ :=
      Tag.exists_sets_applyMarker tag front.length marker hname hvalue
    rw [heq]
    exact Tag.locate?_splice front back marker hsets.name_eq
  · intro newClass value chosen hclass
    obtain ⟨tag', hsets, heq⟩ := Tag.exists_sets_applyClass tag front.length marker hclass
    have hclassed : (buildEdit (front ++ (tag.text ++ back)) (tag.element front.length marker)
        newClass).apply (front ++ (tag.text ++ back)) = front ++ (tag'.text ++ back) := by
      rw [apply_buildEdit, Tag.replacement_buildEdit_nil front back marker newClass none rfl, heq,
        Tag.splice_element]
    have hrelocate := Tag.relocate_element hsets.name_eq front.length marker
    have hempty : applyClass tag'.text (tag'.element front.length marker) [] = tag'.text := rfl
    rw [hclassed]
    refine ⟨tag'.element front.length marker, tag'.locate?_append front back marker, ?_, ?_⟩
    · rw [apply_buildEdit, apply_buildEdit, Tag.splice_element, Tag.splice_element]
      by_cases hvalue : value = []
      · subst hvalue
        rw [Tag.replacement_buildEdit_nil front back marker newClass chosen rfl,
          Tag.replacement_buildEdit_nil front back marker [] chosen rfl, heq, hempty]
      · rw [Tag.replacement_buildEdit front back marker newClass hvalue,
          Tag.replacement_buildEdit front back marker [] hvalue, heq, hempty, hrelocate,
          Tag.relocate_self]
    · intro hvalue
      rw [apply_buildEdit, Tag.splice_element, Tag.splice_element,
        Tag.replacement_buildEdit front back marker newClass hvalue, heq, hrelocate,
        Tag.tagText_element]

theorem locate?_splice_eq_relocate_heading :
    ∃ e, locate? ("x<h1 id=a>" : Text) 4 = some e ∧
      locate? ("x<h1 id=a class=\"b\">" : Text) 1 =
        some (relocate e ("<h1 id=a class=\"b\">" : Text)) := by
  have located : locate? ("x<h1 id=a>" : Text) 4 =
      some ⟨"h1", 1, 10, [⟨"id", "a", 5, 9, 8, 9, .bare⟩], defaultPathMarker⟩ := by
    decide +kernel
  refine ⟨_, located, ?_⟩
  have rewritten := (locate?_splice_eq_relocate located).1 "b" (by decide)
  rw [show applyClass (Element.tagText _ _) _ _ = ("<h1 id=a class=\"b\">" : Text) by
    decide] at rewritten
  exact rewritten

end MarkupNaming.Markup
