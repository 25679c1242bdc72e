import MarkupNaming.Proofs.Markup.Repetition
import MarkupNaming.Settings.Basic

/-!
# Path markers

The names that settings accept for the attribute that records paths, compared with the names that
a scan reads. Settings refuse blanks, quotes, `<`, `>`, `=` and `/`; a scan wants a letter, `_` or
`:` first and name characters behind it. A marker under a name of the first kind only is written
but never found, so it is written once more every time. A marker that is found has its value in
quotes, and those among its own characters are escaped, so it is written no more than once.
-/
namespace MarkupNaming.Markup
open Text

/-! ## Accepted names -/

/-- An accepted name can be written, in lowercase too. -/
theorem isWritableName_lower (n : MarkerName) : IsWritableName (lower n.text) := by
  have haccepted := n.accepted
  simp only [isMarkerName, Bool.and_eq_true, Bool.not_eq_true', List.all_eq_true] at haccepted
  obtain ⟨⟨hne, -⟩, hall⟩ := haccepted
  refine ⟨lower_ne_nil (List.isEmpty_eq_false_iff.1 hne), fun c hc => ?_, fun c hc hmark => ?_⟩
  · cases hblank : isBlank c with
    | false => rfl
    | true =>
      have hmem := mem_of_mem_lower (by simp [isPlain, hblank]) hc
      rw [(hall c hmem).1] at hblank
      cases hblank
  · have himages : ∀ d ∈ ("\"'<>=/" : Text), (!lowercaseImages.contains d) = true :=
      List.all_eq_true.1 (by decide)
    have hmem := mem_of_mem_lower_of_not_image (by simpa using himages c hmark) hc
    have hrefused := (hall c hmem).2
    rw [List.contains_iff_mem.2 hmark] at hrefused
    cases hrefused

/-! ## The value of a new attribute -/

theorem escapeFor_of_no_quote {value : Text} (h : ∀ c ∈ value, isQuote c = false)
    (quote : Quote) : escapeFor quote value = value := by
  have hnot {q : Code} (hq : isQuote q = true) : q ∉ value := by
    intro hmem
    rw [h q hmem] at hq
    cases hq
  cases quote with
  | double => exact escapeFor_eq_self (q := '"') rfl (hnot (by decide))
  | single => exact escapeFor_eq_self (q := '\'') rfl (hnot (by decide))
  | bare => exact escapeFor_eq_self (q := '"') rfl (hnot (by decide))

/-- An attribute with the value that it has, as it is escaped, is the same attribute. -/
theorem Attribute.withValue_eq_self {a : Attribute} {value : Text} (hquote : a.quote ≠ .bare)
    (h : a.value = escapeFor a.quote value) : a.withValue value = a := by
  obtain ⟨-, -, henclosing, -⟩ := Quote.exists_mark_eq hquote
  rw [withValue, henclosing, ← h]

/-- A new value changes nothing if it is the value already and stands in quotes. -/
theorem Attribute.text_withValue_eq_iff {a : Attribute} {value : Text} (ha : a.IsWritten)
    (hvalue : ∀ c ∈ value, isQuote c = false) :
    (a.withValue value).text = a.text ↔ a.value = value ∧ a.quote ≠ .bare := by
  have hhead : (a.withValue value).head = a.head := rfl
  have hquotes : (a.withValue value).quote = a.quote.enclosing := rfl
  have hescaped : (a.withValue value).value = value := escapeFor_of_no_quote hvalue _
  rw [text, text, opening_eq, opening_eq, hhead, hquotes, hescaped, List.append_assoc,
    List.append_assoc, List.append_assoc, List.append_assoc, List.append_cancel_left_eq]
  have hread := ha.value
  cases hquote : a.quote with
  | double => simp [Quote.enclosing, Quote.mark, eq_comm]
  | single => simp [Quote.enclosing, Quote.mark, eq_comm]
  | bare =>
    rw [hquote] at hread
    refine iff_of_false ?_ fun h => h.2 rfl
    intro heq
    -- A bare value holds no quotes.
    have hmem : .char '"' ∈ a.value := by
      have heq : .char '"' :: (value ++ [Code.char '"']) = a.value := by
        simpa [Quote.enclosing, Quote.mark] using heq
      rw [← heq]
      exact List.mem_cons_self
    exact absurd (hread.2 _ hmem) (by decide)

namespace Tag
variable {tag tag' : Tag} {start : Nat} {marker name value : Text} {chosen : Option Text}

/-- What is read in a new attribute with its value is the end of its name. -/
theorem name_eq_append {ending front rest : Text} {a : Attribute}
    (hname : IsWritableName name) (hvalue : .char '"' ∉ value) (hending : IsEnding ending)
    (ha : a.IsWritten) (hsame : a.value = value)
    (heq : (newAttribute name value).text ++ ending = front ++ (a.text ++ rest)) :
    name = front ++ a.name := by
  have hsign : .char '=' ∉ name := hname.not_mem (by decide)
  have hquote : .char '"' ∉ ending := by
    intro hmem
    exact absurd (hending.of_mem hmem).2.2 (by decide)
  have hequals : .char '=' ∉ ending := fun hmem => (hending.of_mem hmem).2.1 rfl
  have hcut : name ++ .char '=' :: .char '"' :: (value ++ .char '"' :: ending) =
      (front ++ (a.name ++ a.gapBefore)) ++
      .char '=' :: (a.gapAfter ++ (a.quote.mark ++ (a.value ++ (a.quote.mark ++ rest)))) := by
    rw [text_newAttribute_append, escapeFor_eq_self (q := '"') rfl hvalue, a.text_append] at heq
    simpa using heq
  rcases append_eq_append_cons_iff.1 hcut with ⟨y, hy, -⟩ | ⟨x, hx, htail⟩
  · exact absurd (hy ▸ List.mem_append_right _ List.mem_cons_self) hsign
  match x, htail with
  | [], _ =>
    -- The equals signs are the same one, and there is no blank in front of it.
    rw [List.append_nil] at hx
    have hgap : a.gapBefore = [] := by
      refine List.eq_nil_iff_forall_not_mem.2 fun c hc => ?_
      have hmem : c ∈ name := by
        rw [← hx]
        exact List.mem_append_right _ (List.mem_append_right _ hc)
      have hblank := ha.gapBefore c hc
      rw [hname.isBlank_eq_false c hmem] at hblank
      cases hblank
    rw [← hx, hgap, List.append_nil]
  | [_], htail => simp at htail
  | _ :: _ :: x, htail =>
    -- An equals sign in the value would leave too little of the value behind it.
    obtain ⟨-, htail⟩ := List.cons.inj htail
    obtain ⟨-, htail⟩ := List.cons.inj htail
    have hlast : .char '=' ∉ .char '"' :: ending := by simp [hequals]
    rcases append_eq_append_cons_iff.1 htail with ⟨y, hy, hback⟩ | ⟨z, -, hz⟩
    · have hlength := congrArg List.length hy
      rw [← hsame, List.length_append, List.length_cons] at hlength
      have hsplit : (a.gapAfter ++ (a.quote.mark ++ a.value)) ++ (a.quote.mark ++ rest) =
          y ++ .char '"' :: ending := by
        rw [← hback]
        simp
      rcases append_eq_append_cons_iff.1 hsplit with ⟨z, hz, htail⟩ | ⟨z, hz, -⟩
      · have hmem : .char '"' ∈ a.gapAfter ++ (a.quote.mark ++ a.value) := by
          rw [hz]
          exact List.mem_append_right _ List.mem_cons_self
        rw [List.mem_append, List.mem_append, hsame] at hmem
        rcases hmem with hmem | hmem | hmem
        · exact absurd (ha.gapAfter _ hmem) (by decide)
        · refine absurd ?_ hquote
          rw [htail]
          exact List.mem_append_right _ (List.mem_append_left _ hmem)
        · exact absurd hmem hvalue
      · have hshort := congrArg List.length hz
        simp only [List.length_append] at hshort
        omega
    · exact absurd (hz ▸ List.mem_append_right _ List.mem_cons_self) hlast

/-! ## Setting a marker -/

theorem text_insert_ne {written : Text} (h : .char '>' ∉ written) :
    (tag.insert written h).text ≠ tag.text := by
  intro heq
  have hlength := congrArg List.length heq
  have hbody := congrArg List.length tag.stem_append_ending
  rw [length_text, length_text] at hlength
  simp only [insert, withBody, bodyOffset, List.length_append, List.length_cons] at hlength hbody
  omega

/-- A marker that a tag lacks is a new attribute. -/
theorem Marks.exists_eq_insert (hmarks : tag.Marks name value tag')
    (absent : tag.written? name = none) :
    ∃ h, tag' = tag.insert (newAttribute name value).text h := by
  cases hmarks with
  | marked found => simp [absent] at found
  | added absent h => exact ⟨h, rfl⟩
  | updated found => simp [absent] at found

/-- Setting a marker leaves a tag as it is if the tag has the marker with that value in quotes. -/
theorem applyMarker_eq_text_iff (hname : .char '>' ∉ markerName (tag.element start marker) chosen)
    (hvalue : ∀ c ∈ value, c ≠ '>' ∧ isQuote c = false) :
    applyMarker tag.text (tag.element start marker) value chosen = tag.text ↔
      ∃ e, tag.written? (markerName (tag.element start marker) chosen) = some e ∧
        e.2.value = value ∧ e.2.quote ≠ .bare := by
  obtain ⟨tag', hmarks, heq⟩ :=
    tag.exists_marks_applyMarker start marker hname fun hmem => (hvalue _ hmem).1 rfl
  rw [heq]
  cases hmarks with
  | marked found same quoted => exact iff_of_true rfl ⟨_, found, same, quoted⟩
  | added absent h =>
    refine iff_of_false (text_insert_ne h) ?_
    rintro ⟨e, he, -⟩
    rw [absent] at he
    cases he
  | @updated front back a found hbody hfront h =>
    have ha : a.IsWritten := isWritten_of_mem_attributesFrom (List.mem_of_find?_eq_some found)
    simp only [found, Option.some.injEq, exists_eq_left']
    rw [← Attribute.text_withValue_eq_iff ha fun c hc => (hvalue c hc).2]
    simp [text, replace, withBody, hbody]

/-- A new attribute whose name can be read is the one that its name finds. -/
theorem written?_insert_self (hname : isAttributeName name = true) (hlower : lower name = name)
    (hquotes : tag.QuotesCovered) (absent : tag.written? name = none)
    (h : .char '>' ∉ (newAttribute name value).text) :
    (tag.insert (newAttribute name value).text h).written? name =
      some (tag.stem.length + 1, newAttribute name value) := by
  obtain ⟨kept, lost, -, -, heq, heq'⟩ := exists_entries_insert hname hquotes h
  rw [written?, heq, List.find?_append, Option.or_eq_none_iff] at absent
  have hself : (lower (newAttribute name value).name == name) = true := beq_iff_eq.2 hlower
  rw [written?, heq', List.find?_append, absent.1, Option.none_or, List.find?_cons, hself]

/-- If the name of a marker can be read, it finds the marker. The value stands in the quotes that it
had, else in double quotes, and those among its own characters are escaped. -/
theorem Marks.exists_escaped (hmarks : tag.Marks name value tag')
    (hname : isAttributeName name = true) (hlower : lower name = name)
    (hquotes : tag.QuotesCovered) :
    ∃ e, tag'.written? name = some e ∧
      e.2.quote = Quote.enclosing (((tag.written? name).map fun e => e.2.quote).getD .double) ∧
      e.2.value = escapeFor e.2.quote value := by
  cases hmarks with
  | @marked e found same quoted =>
    have ha : e.2.IsWritten := isWritten_of_mem_attributesFrom (List.mem_of_find?_eq_some found)
    obtain ⟨q, hmark, -, hq⟩ := Attribute.exists_enclosing_mark ha
    obtain ⟨-, -, henclosing, -⟩ := Quote.exists_mark_eq quoted
    refine ⟨e, found, ?_, ?_⟩
    · rw [found]
      exact henclosing.symm
    · rw [← same, escapeFor_eq_self hmark hq]
  | added absent h =>
    refine ⟨_, written?_insert_self hname hlower hquotes absent h, ?_, rfl⟩
    rw [absent]
    rfl
  | @updated front back a found hbody hfront h =>
    refine ⟨_, written?_replace_self found hbody hfront (.inl hquotes) h, ?_, ?_⟩
    · rw [found]
      rfl
    · exact escapeFor_enclosing a.quote value

/-- If the name of a marker can be read, it finds the marker with its value. -/
theorem Marks.exists_written? (hmarks : tag.Marks name value tag')
    (hname : isAttributeName name = true) (hlower : lower name = name)
    (hquotes : tag.QuotesCovered) (hvalue : ∀ c ∈ value, isQuote c = false) :
    ∃ e, tag'.written? name = some e ∧ e.2.value = value ∧ e.2.quote ≠ .bare := by
  obtain ⟨e, found, hquote, hescaped⟩ := hmarks.exists_escaped hname hlower hquotes
  refine ⟨e, found, ?_, ?_⟩
  · rw [hescaped, escapeFor_of_no_quote hvalue]
  · rw [hquote]
    exact Quote.enclosing_ne_bare _

/-- A marker that stands in quotes as it would be written is not written again. -/
theorem applyMarker_of_written? {e : Nat × Attribute}
    (hname : .char '>' ∉ markerName (tag.element start marker) chosen) (hvalue : .char '>' ∉ value)
    (found : tag.written? (markerName (tag.element start marker) chosen) = some e)
    (hquote : e.2.quote ≠ .bare) (hescaped : e.2.value = escapeFor e.2.quote value) :
    applyMarker tag.text (tag.element start marker) value chosen = tag.text := by
  obtain ⟨tag', hmarks, heq⟩ := tag.exists_marks_applyMarker start marker hname hvalue
  rw [heq]
  cases hmarks with
  | marked => rfl
  | added absent h =>
    rw [absent] at found
    cases found
  | @updated front back a written hbody hfront h =>
    rw [written] at found
    obtain rfl := Option.some.inj found
    have hsame : a.withValue value = a := Attribute.withValue_eq_self hquote hescaped
    simp [text, replace, withBody, hbody, hsame]

/-- If its name finds a new attribute with its value, the name can be read. -/
theorem isAttributeName_of_written?_insert {e : Nat × Attribute} (hname : IsWritableName name)
    (hlower : lower name = name) (hquotes : tag.QuotesCovered)
    (absent : tag.written? name = none) (hvalue : .char '"' ∉ value)
    (h : .char '>' ∉ (newAttribute name value).text)
    (found : (tag.insert (newAttribute name value).text h).written? name = some e)
    (hsame : e.2.value = value) : isAttributeName name = true := by
  have hread := (tag.insert (newAttribute name value).text h).lower_name_of_written? found
  obtain ⟨kept, lost, -, -, heq, heq'⟩ := exists_entries_insert_append hname hquotes h
  rw [written?, heq, List.find?_append, Option.or_eq_none_iff] at absent
  rw [written?, heq', List.find?_append, absent.1, Option.none_or] at found
  have hmem := List.mem_of_find?_eq_some found
  have ha := isWritten_of_mem_attributesFrom hmem
  obtain ⟨front, rest, hsplit, -, -⟩ := exists_of_mem_attributesFrom hmem
  have hcut := name_eq_append hname hvalue isEnding_ending ha hsame hsplit
  have hsubset : e.2.name ⊆ lower name := by
    rw [hlower, hcut]
    exact List.subset_append_right _ _
  rw [lower_eq_self_of_subset hsubset] at hread
  rw [← hread]
  exact ha.name

end Tag

/-! ## Finding a marker again -/

/-- A path marker that an element lacked is found with its value once it has been set, and setting
it again changes nothing, exactly if the lowercase of its name is a name that is read. -/
theorem pathMarker?_relocate_applyMarker_iff {document value : Text} {offset : Int}
    {n : MarkerName} {e : Element} (located : locate? document offset n.text = some e)
    (hquotes : e.QuotesCovered document) (absent : e.pathMarker? = none)
    (hvalue : ∀ c ∈ value, c ≠ '>' ∧ isQuote c = false) :
    ((relocate e (applyMarker (e.tagText document) e value)).pathMarker?.map (·.value) =
        some value ↔ isAttributeName (lower n.text) = true) ∧
    (applyMarker (applyMarker (e.tagText document) e value)
        (relocate e (applyMarker (e.tagText document) e value)) value =
      applyMarker (e.tagText document) e value ↔ isAttributeName (lower n.text) = true) := by
  obtain ⟨front, tag, back, rfl, rfl⟩ := Tag.exists_of_locate? located
  have hname := isWritableName_lower n
  have hcovered := Tag.quotesCovered_of_element hquotes
  have hclose : .char '>' ∉ value := fun hmem => (hvalue _ hmem).1 rfl
  have hquote : .char '"' ∉ value := fun hmem => absurd (hvalue _ hmem).2 (by decide)
  have hfree : tag.written? (lower n.text) = none := by
    rwa [Element.pathMarker?, Tag.attribute?_element, Option.map_eq_none_iff] at absent
  have hchosen : .char '>' ∉ markerName (tag.element front.length n.text) none :=
    hname.not_mem (by decide)
  obtain ⟨tag', hmarks, hmarked⟩ :=
    tag.exists_marks_applyMarker front.length n.text hchosen hclose
  rw [Tag.tagText_element, hmarked, Tag.relocate_element hmarks.sets.name_eq]
  have hset (h : isAttributeName (lower n.text) = true) :=
    hmarks.exists_written? h (lower_lower n.text) hcovered fun c hc => (hvalue c hc).2
  obtain ⟨hnew, rfl⟩ := hmarks.exists_eq_insert hfree
  have hread {a : Nat × Attribute} :=
    Tag.isAttributeName_of_written?_insert (e := a) hname (lower_lower n.text) hcovered hfree
      hquote hnew
  constructor
  · rw [Element.pathMarker?, Tag.attribute?_element, Option.map_map, Option.map_eq_some_iff]
    constructor
    · rintro ⟨a, ha, hsame⟩
      exact hread ha hsame
    · intro h
      obtain ⟨a, ha, hsame, -⟩ := hset h
      exact ⟨a, ha, hsame⟩
  · rw [Tag.applyMarker_eq_text_iff (hname.not_mem (by decide)) hvalue]
    constructor
    · rintro ⟨a, ha, hsame, -⟩
      exact hread ha hsame
    · exact hset

theorem quotesCovered_paragraph (marker : Text) :
    Element.QuotesCovered ⟨"p", 0, 3, [], marker⟩ "<p>" := by
  have outside : ∀ i < 3, (("<p>" : Text)[i]?).any isQuote = false := by decide
  intro i q _ hi hget hq
  have := outside i hi
  rw [hget, Option.any_some, hq] at this
  cases this

/-- A marker with a capital is found under its lowercase. -/
theorem pathMarker?_relocate_applyMarker_iff_capital :
    ∃ n e, MarkerName.ofText? "data-Ä" = some n ∧ locate? ("<p>" : Text) 0 n.text = some e ∧
      applyMarker (e.tagText "<p>") e "v" = ("<p data-ä=\"v\">" : Text) ∧
      (relocate e "<p data-ä=\"v\">").pathMarker?.map (·.value) = some ("v" : Text) ∧
      applyMarker "<p data-ä=\"v\">" (relocate e "<p data-ä=\"v\">") "v" =
        ("<p data-ä=\"v\">" : Text) := by
  have located : locate? ("<p>" : Text) 0 (⟨"data-Ä", by decide⟩ : MarkerName).text =
      some ⟨"p", 0, 3, [], "data-Ä"⟩ := by
    decide +kernel
  have hmarked : applyMarker (Element.tagText ⟨"p", 0, 3, [], "data-Ä"⟩ "<p>")
      ⟨"p", 0, 3, [], "data-Ä"⟩ "v" = ("<p data-ä=\"v\">" : Text) := by
    decide +kernel
  have hvalue : ∀ c ∈ ("v" : Text), c ≠ '>' ∧ isQuote c = false := by
    intro c hc
    obtain rfl : c = 'v' := by simpa using hc
    decide
  have hread := pathMarker?_relocate_applyMarker_iff located (quotesCovered_paragraph _)
    (by decide) hvalue
  rw [hmarked] at hread
  exact ⟨_, _, by decide, located, hmarked, hread.1.2 (by decide),
    hread.2.2 (by decide)⟩

/-- A name that starts with a sign is accepted, but an attribute of that name is not read. -/
theorem pathMarker?_relocate_applyMarker_sign :
    ∃ n e, MarkerName.ofText? "@path" = some n ∧ locate? ("<p>" : Text) 0 n.text = some e ∧
      e.QuotesCovered "<p>" ∧ e.pathMarker? = none ∧
      applyMarker (e.tagText "<p>") e "v" = ("<p @path=\"v\">" : Text) ∧
      (relocate e "<p @path=\"v\">").pathMarker? = none ∧
      applyMarker "<p @path=\"v\">" (relocate e "<p @path=\"v\">") "v" =
        ("<p @path=\"v\" @path=\"v\">" : Text) :=
  ⟨⟨"@path", by decide⟩, ⟨"p", 0, 3, [], "@path"⟩, by decide, by decide +kernel,
    quotesCovered_paragraph _, by decide, by decide, by decide +kernel,
    by decide +kernel⟩

/-! ## The value of a marker -/

/-- A path marker that has been set stands in the quotes that it had, else in double quotes. Its
value is the one that was asked for, with each such quote written as an entity, and setting it to
that value again changes nothing. -/
theorem pathMarker?_relocate_applyMarker {document value : Text} {offset : Int} {e : Element}
    (located : locate? document offset = some e) (hquotes : e.QuotesCovered document)
    (hvalue : .char '>' ∉ value) :
    (∃ span, (relocate e (applyMarker (e.tagText document) e value)).pathMarker? = some span ∧
      span.quote = Quote.enclosing ((e.pathMarker?.map fun span => span.quote).getD .double) ∧
      (span.quote = .double ∧
          span.value = value.flatMap (fun c : Code => if c = '"' then ("&quot;" : Text) else [c]) ∨
        span.quote = .single ∧
          span.value = value.flatMap fun c : Code => if c = '\'' then ("&#39;" : Text) else [c])) ∧
    applyMarker (applyMarker (e.tagText document) e value)
        (relocate e (applyMarker (e.tagText document) e value)) value =
      applyMarker (e.tagText document) e value := by
  obtain ⟨front, tag, back, rfl, rfl⟩ := Tag.exists_of_locate? located
  have hlower : lower defaultPathMarker = defaultPathMarker := by decide
  have hname (tag : Tag) :
      markerName (tag.element front.length defaultPathMarker) none = defaultPathMarker := hlower
  have hclose (tag : Tag) :
      .char '>' ∉ markerName (tag.element front.length defaultPathMarker) none := by
    rw [hname]
    decide
  obtain ⟨tag', hmarks, hmarked⟩ :=
    tag.exists_marks_applyMarker front.length defaultPathMarker (hclose tag) hvalue
  rw [hname] at hmarks
  obtain ⟨a, found, hquote, hescaped⟩ :=
    hmarks.exists_escaped (by decide) hlower (Tag.quotesCovered_of_element hquotes)
  have hquoted : a.2.quote ≠ .bare := hquote ▸ Quote.enclosing_ne_bare _
  have hmarker (tag : Tag) : (tag.element front.length defaultPathMarker).pathMarker? =
      (tag.written? defaultPathMarker).map fun e =>
        (e.2.span (e.1 + tag.bodyOffset)).map (· + front.length) := by
    rw [← tag.attribute?_element front.length defaultPathMarker]
    exact congrArg (tag.element front.length defaultPathMarker).attribute? hlower
  rw [Tag.tagText_element, hmarked, Tag.relocate_element hmarks.sets.name_eq, hmarker, hmarker,
    found, Option.map_some, Option.map_map]
  refine ⟨⟨_, rfl, hquote, ?_⟩, ?_⟩
  · change a.2.quote = .double ∧ a.2.value = _ ∨ a.2.quote = .single ∧ a.2.value = _
    rw [hescaped]
    cases hkind : a.2.quote with
    | double => exact .inl ⟨rfl, rfl⟩
    | single => exact .inr ⟨rfl, rfl⟩
    | bare => exact absurd hkind hquoted
  · refine Tag.applyMarker_of_written? (hclose tag') hvalue ?_ hquoted hescaped
    rw [hname]
    exact found

/-- A bare value is replaced by one with both quotes and an entity, of which the double quote is
escaped. -/
theorem pathMarker?_relocate_applyMarker_bare : ∃ e,
    locate? ("<p data-css-gps=x id='i'>" : Text) 3 = some e ∧
    e.QuotesCovered "<p data-css-gps=x id='i'>" ∧
    applyMarker (e.tagText "<p data-css-gps=x id='i'>") e "a\"b'&quot;" =
      ("<p data-css-gps=\"a&quot;b'&quot;\" id='i'>" : Text) ∧
    applyMarker "<p data-css-gps=\"a&quot;b'&quot;\" id='i'>"
        (relocate e "<p data-css-gps=\"a&quot;b'&quot;\" id='i'>") "a\"b'&quot;" =
      ("<p data-css-gps=\"a&quot;b'&quot;\" id='i'>" : Text) := by
  have located : locate? ("<p data-css-gps=x id='i'>" : Text) 3 = some ⟨"p", 0, 25,
      [⟨"data-css-gps", "x", 3, 17, 16, 17, .bare⟩, ⟨"id", "i", 18, 24, 22, 23, .single⟩],
      defaultPathMarker⟩ := by
    decide +kernel
  have again := (pathMarker?_relocate_applyMarker located (by decide +kernel)
    (by decide : .char '>' ∉ ("a\"b'&quot;" : Text))).2
  rw [show applyMarker (Element.tagText _ _) _ _ =
    ("<p data-css-gps=\"a&quot;b'&quot;\" id='i'>" : Text) by decide +kernel] at again
  exact ⟨_, located, by decide +kernel, by decide +kernel, again⟩

end MarkupNaming.Markup
