import MarkupNaming.Proofs.Markup.Relocation
import MarkupNaming.Proofs.Markup.Repetition

/-!
# Retention

What adding a class does to the other attributes of an element. Unless a stray quote reaches into
the class, they are found again as they were, with one exception: a bare value that is the slash in
front of the `>`. A new class attribute is put in front of that slash, which then closes the tag
and is no value any more.
-/
namespace MarkupNaming.Markup
open Text

namespace Tag
variable {tag tag' : Tag} {newClass name : Text} {e : Nat × Attribute} {start : Nat}
  {marker : Text} {span : AttributeSpan Nat}

/-! ## Attributes by their names -/

/-- An attribute of an element is the first one of its name written in the tag. -/
theorem mem_attributes_iff : span ∈ (tag.element start marker).attributes ↔
    ∃ e, tag.written? span.name = some e ∧
      (e.2.span (e.1 + tag.bodyOffset)).map (· + start) = span := by
  constructor
  · intro h
    obtain ⟨s, hs, rfl⟩ := List.mem_map.1 h
    have hfind := (find?_firstOfName List.not_mem_nil _).symm.trans (find?_of_mem_firstOfName hs)
    rw [List.find?_map, Option.map_eq_some_iff] at hfind
    obtain ⟨e, he, hspan⟩ := hfind
    exact ⟨e, he, by rw [hspan]⟩
  · rintro ⟨e, he, hspan⟩
    have hfound := tag.attribute?_element start marker span.name
    rw [he, Option.map_some, hspan] at hfound
    exact List.mem_of_find?_eq_some hfound

/-! ## The slash in front of the `>` -/

/-- A slash in front of the `>` lies behind the stem. -/
theorem IsClosingSlash.stem_lt (h : tag.IsClosingSlash e) (hmem : e ∈ tag.entries) :
    tag.stem.length < e.1 + e.2.text.length := by
  obtain ⟨hbare, hvalue, hpos⟩ := h
  obtain ⟨front, back, hbody, hfront, -⟩ := tag.exists_of_mem_entries hmem
  obtain rfl : back = [] := by
    have hlength := congrArg List.length hbody
    simp only [List.length_append] at hlength
    exact List.length_eq_zero_iff.1 (by omega)
  have hcloses : tag.closesItself = true := by
    rw [closesItself, hbody, Attribute.text, hbare, hvalue]
    simp [Quote.mark]
  obtain ⟨gap, -, hending⟩ := tag.exists_ending_eq
  rw [hcloses, if_pos rfl] at hending
  have hsplit := congrArg List.length tag.stem_append_ending
  rw [hending] at hsplit
  simp only [List.length_append, List.length_singleton] at hsplit
  omega

/-! ## Other attributes of a tag that takes a class -/

theorem newAttribute_ne (hname : name ≠ classAttribute) (value : Text) :
    (lower (newAttribute classAttribute value).name == name) = false := by
  have hlower : lower (newAttribute classAttribute value).name = classAttribute := by
    change lower classAttribute = classAttribute
    decide
  rw [hlower]
  exact beq_eq_false_iff_ne.2 hname.symm

/-- With a new attribute, those that were there are as they were, but for a closing slash. -/
theorem written?_insert {new value : Text} (hnew : IsWritableName new) (hquotes : tag.QuotesCovered)
    (h : .char '>' ∉ (newAttribute new value).text) (found : tag.written? name = some e)
    (hslash : ¬ tag.IsClosingSlash e) :
    (tag.insert (newAttribute new value).text h).written? name = some e := by
  obtain ⟨kept, lost, -, hlost, heq, heq'⟩ := exists_entries_insert_append hnew hquotes h
  rw [written?, heq, List.find?_append] at found
  rw [written?, heq', List.find?_append]
  cases hfind : kept.find? fun e => lower e.2.name == name with
  | some d => rwa [hfind] at found
  | none =>
    rw [hfind, Option.none_or] at found
    exact absurd (hlost e (List.mem_of_find?_eq_some found)) hslash

/-- With a new class attribute, a closing slash is none any more. -/
theorem written?_insert_eq_none (hquotes : tag.QuotesCovered)
    (h : .char '>' ∉ (newAttribute classAttribute newClass).text) (hname : name ≠ classAttribute)
    (found : tag.written? name = some e) (hslash : tag.IsClosingSlash e) :
    (tag.insert (newAttribute classAttribute newClass).text h).written? name = none := by
  obtain ⟨kept, lost, hkept, -, heq, heq'⟩ := exists_entries_insert (by decide) hquotes h
  have hmem := List.mem_of_find?_eq_some found
  rw [written?, heq, List.find?_append] at found
  rw [written?, heq', List.find?_append, List.find?_cons, newAttribute_ne hname]
  cases hfind : kept.find? fun e => lower e.2.name == name with
  | some d =>
    rw [hfind, Option.some_or] at found
    obtain rfl := Option.some.inj found
    have := hkept d (List.mem_of_find?_eq_some hfind)
    have := hslash.stem_lt hmem
    omega
  | none => simp

/-- An attribute other than the class is found again in a tag that took a class, unless the class
attribute is new and the attribute is a closing slash. -/
theorem Takes.exists_written?_iff (htakes : tag.Takes newClass tag') (hclass : IsClassName newClass)
    (haccepts : tag.AcceptsClass) (hname : name ≠ classAttribute)
    (found : tag.written? name = some e) :
    (∃ e', tag'.written? name = some e' ∧ e'.2.value = e.2.value ∧ e'.2.quote = e.2.quote) ↔
      ¬ (tag.written? classAttribute = none ∧ tag.IsClosingSlash e) := by
  cases htakes with
  | listed listed =>
    refine iff_of_true ⟨e, found, rfl, rfl⟩ ?_
    rintro ⟨absent, -⟩
    rw [listed] at absent
    cases absent
  | added absent h =>
    have hquotes := haccepts.quotesCovered absent
    constructor
    · rintro ⟨e', he', -⟩ ⟨-, hslash⟩
      rw [written?_insert_eq_none hquotes h hname found hslash] at he'
      cases he'
    · intro hslash
      exact ⟨e, written?_insert (isWritableName_of_isAttributeName (by decide)) hquotes h found
        fun hclosing => hslash ⟨absent, hclosing⟩, rfl, rfl⟩
  | appended listed hbody hfront h =>
    have hsame := map_snd_written?_replace listed hbody hfront (haccepts.covers hclass listed) h
      hname
    rw [found, Option.map_some, Option.map_eq_some_iff] at hsame
    obtain ⟨e', he', heq⟩ := hsame
    refine iff_of_true ⟨e', he', by rw [heq], by rw [heq]⟩ ?_
    rintro ⟨absent, -⟩
    rw [listed] at absent
    cases absent

end Tag

/-! ## Other attributes of an element -/

namespace Element

/-- Whether an element has an attribute with the name, the value and the quotes of another one. -/
def Retains (e : Element) (span : AttributeSpan Nat) : Prop :=
  ∃ span' ∈ e.attributes,
    span'.name = span.name ∧ span'.value = span.value ∧ span'.quote = span.quote

/-- Whether an attribute is bare and its value is the slash in front of the `>`. -/
def IsClosingSlash (e : Element) (span : AttributeSpan Nat) : Prop :=
  span.quote = .bare ∧ span.value = [.char '/'] ∧ span.valueStop + 1 = e.stop

/-- Whether a class can be added to an element without enclosing what it should not: the class
attribute is in quotes, or there are no stray quotes. -/
def AcceptsClass (e : Element) (document : Text) : Prop :=
  (∃ span, e.classSpan? = some span ∧ span.isQuoted = true) ∨ e.QuotesCovered document

end Element

namespace Tag
variable {tag : Tag} {e : Nat × Attribute} {start : Nat} {marker : Text}

theorem isClosingSlash_element : (tag.element start marker).IsClosingSlash
    ((e.2.span (e.1 + tag.bodyOffset)).map (· + start)) ↔ tag.IsClosingSlash e := by
  refine and_congr_right fun hbare => and_congr_right fun _ => ?_
  have hbare : e.2.quote = .bare := hbare
  have hlength : e.2.text.length = e.2.opening.length + e.2.value.length := by
    simp [Attribute.text, hbare, Quote.mark]
  change e.1 + tag.bodyOffset + e.2.opening.length + e.2.value.length + start + 1 =
    start + tag.text.length ↔ _
  rw [length_text, hlength]
  omega

theorem acceptsClass_of_element {front back : Text}
    (h : (tag.element front.length marker).AcceptsClass (front ++ (tag.text ++ back))) :
    tag.AcceptsClass := by
  refine h.imp ?_ quotesCovered_of_element
  rintro ⟨span, hspan, hquoted⟩
  rw [Element.classSpan?, attribute?_element, Option.map_eq_some_iff] at hspan
  obtain ⟨e, he, rfl⟩ := hspan
  exact ⟨e, he, by simpa [AttributeSpan.isQuoted, AttributeSpan.map, Attribute.span] using hquoted⟩

end Tag

/-- After a class has been added to an element, an attribute other than the class is found in it
again, unless the class attribute is new and the attribute is a closing slash. -/
theorem retains_relocate_applyClass_iff {document marker newClass : Text} {offset : Int}
    {e : Element} {span : AttributeSpan Nat} (located : locate? document offset marker = some e)
    (hclass : IsClassName newClass) (haccepts : e.AcceptsClass document)
    (hspan : span ∈ e.attributes) (hname : span.name ≠ classAttribute) :
    (relocate e (applyClass (e.tagText document) e newClass)).Retains span ↔
      ¬ (e.classSpan? = none ∧ e.IsClosingSlash span) := by
  obtain ⟨front, tag, back, rfl, rfl⟩ := Tag.exists_of_locate? located
  obtain ⟨tag', htakes, heq⟩ := tag.exists_takes_applyClass front.length marker
    (hclass.not_mem (c := '>') (by decide)) hclass.1
  obtain ⟨a, hfound, rfl⟩ := Tag.mem_attributes_iff.1 hspan
  rw [Tag.tagText_element, heq, Tag.relocate_element htakes.sets.name_eq, Element.classSpan?,
    Tag.attribute?_element, Option.map_eq_none_iff, Tag.isClosingSlash_element,
    ← htakes.exists_written?_iff hclass (Tag.acceptsClass_of_element haccepts) hname hfound]
  constructor
  · rintro ⟨span', hspan', hsame, hvalue, hquote⟩
    obtain ⟨a', hfound', rfl⟩ := Tag.mem_attributes_iff.1 hspan'
    exact ⟨a', by rw [← hfound', hsame], hvalue, hquote⟩
  · rintro ⟨a', hfound', hvalue, hquote⟩
    have hlower := tag'.lower_name_of_written? hfound'
    refine ⟨(a'.2.span (a'.1 + tag'.bodyOffset)).map (· + front.length),
      Tag.mem_attributes_iff.2 ⟨a', ?_, rfl⟩, hlower, hvalue, hquote⟩
    change tag'.written? (lower a'.2.name) = _
    rw [hlower, hfound']

/-- A link whose bare value ends in a slash of its own keeps it. -/
theorem retains_relocate_applyClass_iff_link :
    ∃ e span, locate? ("<a href=b/ id='i'>" : Text) 3 = some e ∧ span ∈ e.attributes ∧
      span.value = ("b/" : Text) ∧
      (relocate e (applyClass (e.tagText "<a href=b/ id='i'>") e "c")).Retains span := by
  have located : locate? ("<a href=b/ id='i'>" : Text) 3 = some
      ⟨"a", 0, 18, [⟨"href", "b/", 3, 10, 8, 10, .bare⟩, ⟨"id", "i", 11, 17, 15, 16, .single⟩],
        defaultPathMarker⟩ := by
    decide +kernel
  have haccepts : Element.AcceptsClass
      ⟨"a", 0, 18, [⟨"href", "b/", 3, 10, 8, 10, .bare⟩, ⟨"id", "i", 11, 17, 15, 16, .single⟩],
        defaultPathMarker⟩ "<a href=b/ id='i'>" := by
    have inside : ∀ i < 18, (("<a href=b/ id='i'>" : Text)[i]?).any isQuote = true →
        11 ≤ i ∧ i < 17 := by
      decide
    refine .inr fun i q _ hi hget hq => ⟨(11, ⟨"id", [], [], .single, "i"⟩), by decide +kernel, ?_⟩
    exact inside i hi (by rw [hget]; exact hq)
  refine ⟨_, ⟨"href", "b/", 3, 10, 8, 10, .bare⟩, located, List.mem_cons_self, rfl, ?_⟩
  have hclass : IsClassName "c" := ⟨by decide, List.all_eq_true.1 (by decide)⟩
  refine (retains_relocate_applyClass_iff located hclass haccepts List.mem_cons_self
    (by decide)).2 ?_
  rintro ⟨-, -, hvalue, -⟩
  exact absurd hvalue (by decide)

/-- A closing slash is lost. -/
theorem not_retains_slash :
    ∃ e span, locate? ("<a href=/>" : Text) 0 = some e ∧ span ∈ e.attributes ∧
      span.value = ("/" : Text) ∧
      applyClass (e.tagText "<a href=/>") e "c" = ("<a href= class=\"c\"/>" : Text) ∧
      ¬ (relocate e (applyClass (e.tagText "<a href=/>") e "c")).Retains span := by
  have located : locate? ("<a href=/>" : Text) 0 = some
      ⟨"a", 0, 10, [⟨"href", "/", 3, 9, 8, 9, .bare⟩], defaultPathMarker⟩ := by
    decide +kernel
  refine ⟨_, _, located, List.mem_cons_self, rfl, by decide, ?_⟩
  rintro ⟨span', hspan', hsame, -⟩
  have hnames : ∀ span' ∈ (relocate ⟨"a", 0, 10, [⟨"href", "/", 3, 9, 8, 9, .bare⟩],
      defaultPathMarker⟩ "<a href= class=\"c\"/>").attributes, span'.name ≠ ("href" : Text) := by
    decide +kernel
  exact hnames span' hspan' hsame

end MarkupNaming.Markup
