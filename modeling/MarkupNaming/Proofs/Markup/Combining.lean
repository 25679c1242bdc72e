import MarkupNaming.Proofs.Markup.Marking
import MarkupNaming.Proofs.Markup.Retention

/-!
# A class and a path marker in one edit

An edit adds a class to a tag and then sets the path marker of the tag that this gives. The second
step finds the classes as the first one left them, since a tag without stray quotes takes a class
without getting any. It leaves them there, unless the path marker is configured to be the class
attribute: then its value replaces them.
-/
namespace MarkupNaming.Markup
open Text

/-! ## Counting quotes -/

section
variable {before : Option Code} {pos : Nat} {t : Text} {a : Attribute}

/-- The number of quotes in the written forms of attributes. -/
def quotesIn (entries : List (Nat × Attribute)) : Nat :=
  (entries.flatMap (·.2.text)).countP isQuote

@[simp] theorem quotesIn_nil : quotesIn [] = 0 := rfl

@[simp] theorem quotesIn_cons (e : Nat × Attribute) (entries : List (Nat × Attribute)) :
    quotesIn (e :: entries) = e.2.text.countP isQuote + quotesIn entries := by
  simp [quotesIn]

@[simp] theorem quotesIn_append (entries later : List (Nat × Attribute)) :
    quotesIn (entries ++ later) = quotesIn entries + quotesIn later := by
  simp [quotesIn]

theorem quotesIn_congr {entries entries' : List (Nat × Attribute)}
    (h : entries'.map Prod.snd = entries.map Prod.snd) : quotesIn entries' = quotesIn entries := by
  have htexts (entries : List (Nat × Attribute)) :
      entries.flatMap (·.2.text) = (entries.map Prod.snd).flatMap Attribute.text := by
    rw [List.flatMap_map]
  rw [quotesIn, htexts, h, ← htexts, quotesIn]

theorem quotesIn_attributesFrom_le (before : Option Code) (pos : Nat) (t : Text) :
    quotesIn (attributesFrom before pos t) ≤ t.countP isQuote := by
  induction before, pos, t using attributesFrom_induction with
  | nil => simp
  | found before pos a rest ha ih =>
    rw [attributesFrom_of_some ha, quotesIn_cons, List.countP_append]
    exact Nat.add_le_add_left ih _
  | skipped before pos c rest hc ih =>
    rw [attributesFrom_of_none hc, List.countP_cons]
    exact Nat.le_trans ih (Nat.le_add_right _ _)

/-- There are no stray quotes in a text if the attributes found in it have as many quotes as the
text. -/
theorem quotesCovered_iff : QuotesCovered before pos t ↔
    quotesIn (attributesFrom before pos t) = t.countP isQuote := by
  induction before, pos, t using attributesFrom_induction with
  | nil =>
    refine iff_of_true (fun front q back heq => ?_) (by simp)
    simp at heq
  | found before pos a rest ha ih =>
    rw [attributesFrom_of_some ha, quotesIn_cons, List.countP_append, Nat.add_left_cancel_iff, ← ih]
    refine ⟨.of_some ha, fun hquotes front q back heq hq => ?_⟩
    rw [attributesFrom_of_some ha]
    rcases append_eq_append_cons_iff.1 heq with ⟨y, hy, -⟩ | ⟨x, rfl, hx⟩
    · have hlength := congrArg List.length hy
      rw [List.length_append, List.length_cons] at hlength
      exact ⟨_, List.mem_cons_self, Nat.le_add_right _ _, by dsimp only; omega⟩
    · obtain ⟨e, hmem, hle, hlt⟩ := hquotes x q back hx hq
      rw [List.length_append]
      exact ⟨e, List.mem_cons_of_mem _ hmem, by omega, by omega⟩
  | skipped before pos c rest hc ih =>
    rw [attributesFrom_of_none hc, List.countP_cons]
    cases hquote : isQuote c with
    | true =>
      -- A quote that is skipped lies in front of all that is found.
      have hle := quotesIn_attributesFrom_le (some c) (pos + 1) rest
      refine iff_of_false (fun hquotes => ?_) (by rw [if_pos rfl]; omega)
      obtain ⟨e, hmem, hle, -⟩ := hquotes [] c rest rfl hquote
      rw [attributesFrom_of_none hc] at hmem
      have := le_of_mem_attributesFrom hmem
      rw [List.length_nil] at hle
      omega
    | false =>
      rw [if_neg Bool.false_ne_true]
      refine Iff.trans ?_ ih
      refine ⟨.of_none hc, fun hquotes front q back heq hq => ?_⟩
      rw [attributesFrom_of_none hc]
      match front, heq with
      | [], heq =>
        rw [(List.cons.inj heq).1, hq] at hquote
        cases hquote
      | _ :: front, heq =>
        obtain ⟨e, hmem, hle, hlt⟩ := hquotes front q back (List.cons.inj heq).2 hq
        rw [List.length_cons]
        exact ⟨e, hmem, by omega, by omega⟩

/-- A bare attribute has no quotes. -/
theorem Attribute.isQuote_eq_false_of_bare (ha : a.IsWritten) (hbare : a.quote = .bare) {c : Code}
    (hc : c ∈ a.text) : isQuote c = false := by
  have hvalue := ha.value
  rw [hbare] at hvalue
  rw [text, opening_eq, hbare, Quote.mark, List.append_nil, List.append_nil, List.mem_append] at hc
  rcases hc with hc | hc
  · exact isQuote_eq_false_of_front ha (List.append_nil _).symm hc
  · exact isQuote_eq_false_of (by decide) (by decide) (hvalue.2 c hc)

end

namespace Tag
variable {tag tag' : Tag} {newClass name value marker : Text} {e : Nat × Attribute}

theorem quotesCovered_iff : tag.QuotesCovered ↔
    quotesIn tag.entries = tag.body.countP isQuote := by
  have hclose : (tag.body ++ [Code.char '>']).countP isQuote = tag.body.countP isQuote := by
    rw [List.countP_append]
    rfl
  rw [QuotesCovered, Markup.quotesCovered_iff, hclose]
  rfl

/-- A tag that took a class has no stray quotes if it had none. -/
theorem Takes.quotesCovered (htakes : tag.Takes newClass tag') (hquotes : tag.QuotesCovered) :
    tag'.QuotesCovered := by
  have hcount := Tag.quotesCovered_iff.1 hquotes
  cases htakes with
  | listed => exact hquotes
  | added absent h =>
    obtain ⟨found, lost, -, hlost, heq, heq'⟩ := exists_entries_insert (by decide) hquotes h
    have hnone : quotesIn lost = 0 := by
      refine List.countP_eq_zero.2 fun c hc => ?_
      obtain ⟨e, he, hc⟩ := List.mem_flatMap.1 hc
      have ha : e.2.IsWritten :=
        isWritten_of_mem_attributesFrom (heq ▸ List.mem_append_right _ he)
      simp [Attribute.isQuote_eq_false_of_bare ha (hlost e he).1 hc]
    have hblank : isQuote ' ' = false := by decide
    rw [heq, ← stem_append_ending] at hcount
    rw [Tag.quotesCovered_iff, heq']
    simp only [insert, withBody, quotesIn_append, quotesIn_cons, quotesIn_nil, List.countP_append,
      List.countP_cons, hblank] at hcount ⊢
    simp only [Bool.false_eq_true, if_false]
    omega
  | appended found hbody hfront h =>
    obtain ⟨before, later, later', -, heq, heq', hlater⟩ := exists_entries_replace
      (List.mem_of_find?_eq_some found) hbody hfront (.inl hquotes) h
    rw [heq, hbody] at hcount
    rw [Tag.quotesCovered_iff, heq']
    simp only [replace, withBody, quotesIn_append, quotesIn_cons, List.countP_append,
      quotesIn_congr hlater] at hcount ⊢
    omega

/-! ## Classes that are kept -/

/-- A tag that took a class lists it, along with the classes that were there before. -/
theorem Takes.subset_classes (htakes : tag.Takes newClass tag') (hclass : IsClassName newClass)
    (hquotes : tag.QuotesCovered) : newClass :: tag.classes ⊆ tag'.classes := by
  obtain ⟨e, hwritten, hmem, heq⟩ := htakes.exists_written_words hclass (.inr hquotes)
  rw [← classes_eq_words hwritten] at hmem heq
  refine List.cons_subset.2 ⟨hmem, ?_⟩
  rcases heq with rfl | heq
  · exact List.Subset.refl _
  · rw [heq]
    exact List.subset_append_left _ _

/-- Under another name than that of the class attribute, a marker leaves the classes, unless the
only one is a closing slash. -/
theorem Marks.subset_classes (hmarks : tag.Marks name value tag') (hname : IsWritableName name)
    (hother : name ≠ classAttribute) (hquotes : tag.QuotesCovered)
    (hslash : tag.classes ≠ [("/" : Text)]) : tag.classes ⊆ tag'.classes := by
  cases hfound : tag.written? classAttribute with
  | none =>
    rw [classes, hfound]
    exact List.nil_subset _
  | some e =>
    rw [classes_eq_words hfound] at hslash ⊢
    have hkept : ¬ tag.IsClosingSlash e := by
      rintro ⟨-, hvalue, -⟩
      have hclass : IsClassName "/" := ⟨by decide, List.all_eq_true.1 (by decide)⟩
      rw [hvalue] at hslash
      exact hslash hclass.words_eq
    cases hmarks with
    | marked =>
      rw [classes_eq_words hfound]
      exact List.Subset.refl _
    | added absent h =>
      rw [classes_eq_words (written?_insert hname hquotes h hfound hkept)]
      exact List.Subset.refl _
    | updated found hbody hfront h =>
      have hsame := map_snd_written?_replace found hbody hfront (.inl hquotes) h hother.symm
      rw [hfound, Option.map_some, Option.map_eq_some_iff] at hsame
      obtain ⟨e', hwritten, heq⟩ := hsame
      rw [classes_eq_words hwritten, heq]
      exact List.Subset.refl _

/-- A marker in the class attribute is the only class. -/
theorem Marks.classes_eq (hmarks : tag.Marks classAttribute value tag')
    (hquotes : tag.QuotesCovered) (hvalue : IsClassName value) : tag'.classes = [value] := by
  have hplain : ∀ c ∈ value, isQuote c = false :=
    fun c hc => isQuote_eq_false_of (by decide) (by decide) (hvalue.2 c hc)
  obtain ⟨e, hwritten, hsame, -⟩ :=
    hmarks.exists_written? (by decide) (by decide) hquotes hplain
  rw [classes_eq_words hwritten, hsame, hvalue.words_eq]

end Tag

/-! ## Both in one edit -/

/-- An edit with a class and a path marker gives a tag that takes the class and then the marker. -/
theorem Tag.exists_takes_marks (tag : Tag) (front back marker : Text) (n : MarkerName)
    {newClass value : Text} (hclass : IsClassName newClass) (hvalue : IsClassName value) :
    ∃ tag' tag'', tag.Takes newClass tag' ∧ tag'.Marks (lower n.text) value tag'' ∧
      (buildEdit (front ++ (tag.text ++ back)) (tag.element front.length marker) newClass
          (some value) (some n.text)).apply (front ++ (tag.text ++ back)) =
        front ++ (tag''.text ++ back) := by
  obtain ⟨tag', htakes, hclassed⟩ := tag.exists_takes_applyClass front.length marker
    (hclass.not_mem (c := '>') (by decide)) hclass.1
  have hname := isWritableName_lower n
  have hne : n.text ≠ [] := by
    intro hnil
    exact hname.ne_nil (by rw [hnil]; rfl)
  have hchosen : markerName (tag'.element front.length marker) (some n.text) = lower n.text := by
    rw [markerName, Option.filter_some_pos (by simpa using hne)]
    rfl
  have hclose : .char '>' ∉ markerName (tag'.element front.length marker) (some n.text) := by
    rw [hchosen]
    exact hname.not_mem (by decide)
  obtain ⟨tag'', hmarks, hmarked⟩ := tag'.exists_marks_applyMarker front.length marker hclose
    (hvalue.not_mem (c := '>') (by decide))
  rw [hchosen] at hmarks
  refine ⟨tag', tag'', htakes, hmarks, ?_⟩
  rw [apply_buildEdit, replacement_buildEdit front back marker newClass hvalue.1, hclassed,
    relocate_element htakes.sets.name_eq, hmarked, splice_element]

/-- After an edit with a class and a path marker, the element lists the class and those that it
listed before, unless the marker has a value and the name of the class attribute up to case: then
that value is the only class. A slash is no class here, since as a bare value in front of the `>`
it would be lost to a marker behind it. -/
theorem subset_classTokens_buildEdit_iff {document newClass value marker : Text} {offset : Int}
    {n : MarkerName} {e : Element} (located : locate? document offset marker = some e)
    (hquotes : e.QuotesCovered document) (hclass : IsClassName newClass) (hslash : newClass ≠ "/")
    (hvalue : ∀ c ∈ value, isPlain c = true) :
    ∃ e', locate? ((buildEdit document e newClass (some value) (some n.text)).apply document)
        e.start marker = some e' ∧
      (newClass :: classTokens e.classValue? ⊆ classTokens e'.classValue? ↔
        lower n.text ≠ classAttribute ∨ value = [] ∨
          ∀ c ∈ newClass :: classTokens e.classValue?, c = value) := by
  obtain ⟨front, tag, back, rfl, rfl⟩ := Tag.exists_of_locate? located
  have hcovered := Tag.quotesCovered_of_element hquotes
  by_cases hempty : value = []
  · subst hempty
    obtain ⟨tag', htakes, hclassed⟩ := tag.exists_takes_applyClass front.length marker
      (hclass.not_mem (c := '>') (by decide)) hclass.1
    rw [apply_buildEdit, Tag.replacement_buildEdit_nil front back marker newClass _ rfl, hclassed,
      Tag.splice_element]
    refine ⟨_, tag'.locate?_append front back marker, iff_of_true ?_ (.inr (.inl rfl))⟩
    rw [Tag.classTokens_element, Tag.classTokens_element]
    exact htakes.subset_classes hclass hcovered
  have hvalue : IsClassName value := ⟨hempty, hvalue⟩
  obtain ⟨tag', tag'', htakes, hmarks, happlied⟩ :=
    tag.exists_takes_marks front back marker n hclass hvalue
  have hlisted := htakes.subset_classes hclass hcovered
  rw [happlied]
  refine ⟨_, tag''.locate?_append front back marker, ?_⟩
  rw [Tag.classTokens_element, Tag.classTokens_element]
  by_cases hname : lower n.text = classAttribute
  · rw [hname] at hmarks
    rw [hmarks.classes_eq (htakes.quotesCovered hcovered) hvalue, List.subset_def]
    simp only [List.mem_singleton, hname, hempty, ne_eq, not_true, false_or]
  · have hslashed : tag'.classes ≠ [("/" : Text)] := by
      intro heq
      rw [heq] at hlisted
      exact hslash (List.mem_singleton.1 (hlisted List.mem_cons_self))
    have hretained := hmarks.subset_classes (isWritableName_lower n) hname
      (htakes.quotesCovered hcovered) hslashed
    exact iff_of_true (List.Subset.trans hlisted hretained) (.inl hname)

/-- A class goes into the class attribute, and the path marker into one of its own. -/
theorem subset_classTokens_buildEdit_iff_paragraph : ∃ e e',
    locate? ("<p>" : Text) 0 = some e ∧
    (buildEdit "<p>" e "c" (some "v") (some MarkerName.default.text)).apply "<p>" =
      ("<p class=\"c\" data-css-gps=\"v\">" : Text) ∧
    locate? ("<p class=\"c\" data-css-gps=\"v\">" : Text) e.start = some e' ∧
    ("c" : Text) ∈ classTokens e'.classValue? := by
  have located : locate? ("<p>" : Text) 0 = some ⟨"p", 0, 3, [], defaultPathMarker⟩ := by
    decide +kernel
  have hclass : IsClassName "c" := ⟨by decide, List.all_eq_true.1 (by decide)⟩
  have hvalue : ∀ c ∈ ("v" : Text), isPlain c = true := List.all_eq_true.1 (by decide)
  have hedited : (buildEdit "<p>" ⟨"p", 0, 3, [], defaultPathMarker⟩ "c" (some "v")
      (some MarkerName.default.text)).apply "<p>" =
        ("<p class=\"c\" data-css-gps=\"v\">" : Text) := by
    decide +kernel
  obtain ⟨e', located', hlisted⟩ := subset_classTokens_buildEdit_iff (n := MarkerName.default)
    located (quotesCovered_paragraph _) hclass (by decide) hvalue
  rw [hedited] at located'
  exact ⟨_, e', located, hedited, located',
    hlisted.2 (.inl (by decide)) List.mem_cons_self⟩

/-- A path marker under the name of the class attribute replaces the class. -/
theorem not_mem_classTokens_buildEdit : ∃ n e e', MarkerName.ofText? "class" = some n ∧
    locate? ("<p>" : Text) 0 = some e ∧ e.QuotesCovered "<p>" ∧
    (buildEdit "<p>" e "c" (some "v") (some n.text)).apply "<p>" = ("<p class=\"v\">" : Text) ∧
    locate? ("<p class=\"v\">" : Text) e.start = some e' ∧
    ("c" : Text) ∉ classTokens e'.classValue? := by
  have located : locate? ("<p class=\"v\">" : Text) 0 = some
      ⟨"p", 0, 13, [⟨"class", "v", 3, 12, 10, 11, .double⟩], defaultPathMarker⟩ := by
    decide +kernel
  exact ⟨⟨"class", by decide⟩, ⟨"p", 0, 3, [], defaultPathMarker⟩, _, by decide,
    by decide +kernel, quotesCovered_paragraph _, by decide +kernel, located, by decide +kernel⟩

end MarkupNaming.Markup
