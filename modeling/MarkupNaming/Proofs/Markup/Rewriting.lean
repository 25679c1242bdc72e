import MarkupNaming.Proofs.Markup.Ending

/-!
# Rewriting a tag

A class or a path marker turns an opening tag into an opening tag of the same name. A new
attribute is put behind the stem of the body, which is the body less a closing slash and the
blanks before it. A new value is put in place of the old one, and a bare value gets quotes.
-/
namespace MarkupNaming.Markup
open Text

/-! ## Values -/

theorem mem_escapeFor {quote : Quote} {value : Text} {c : Code} (h : c ∈ escapeFor quote value) :
    c ∈ value ∨ c ∈ ("&quot;" : Text) ∨ c ∈ ("&#39;" : Text) := by
  unfold escapeFor at h
  split at h <;>
  · rw [List.mem_flatMap] at h
    obtain ⟨d, hd, hc⟩ := h
    split at hc
    · simp only [hc, true_or, or_true]
    · rw [List.mem_singleton] at hc
      exact .inl (hc ▸ hd)

theorem not_mem_escapeFor {quote : Quote} {value : Text} (h : .char '>' ∉ value) :
    .char '>' ∉ escapeFor quote value := by
  intro hmem
  rcases mem_escapeFor hmem with hmem | hmem | hmem
  · exact h hmem
  · exact absurd hmem (by decide)
  · exact absurd hmem (by decide)

theorem escapeFor_append (quote : Quote) (t u : Text) :
    escapeFor quote (t ++ u) = escapeFor quote t ++ escapeFor quote u := by
  cases quote <;> exact List.flatMap_append

theorem escapeFor_ne_nil {quote : Quote} {value : Text} (h : value ≠ []) :
    escapeFor quote value ≠ [] := by
  obtain ⟨c, t, rfl⟩ := List.exists_cons_of_ne_nil h
  unfold escapeFor
  split <;>
  · rw [List.flatMap_cons]
    refine List.append_ne_nil_of_left_ne_nil ?_ _
    split
    · decide
    · exact List.cons_ne_nil _ _

/-- Escaping makes no blanks. -/
theorem isBlank_eq_false_of_mem_escapeFor {quote : Quote} {value : Text}
    (hsolid : ∀ c ∈ value, isBlank c = false) {c : Code} (hc : c ∈ escapeFor quote value) :
    isBlank c = false := by
  have hentities : ∀ c ∈ ("&quot;" : Text) ++ ("&#39;" : Text), (!isBlank c) = true :=
    List.all_eq_true.1 (by decide)
  rcases mem_escapeFor hc with hc | hc | hc
  · exact hsolid c hc
  · simpa using hentities c (List.mem_append_left _ hc)
  · simpa using hentities c (List.mem_append_right _ hc)

/-- The quote in which a new value is enclosed. -/
def Quote.enclosing : Quote → Quote
  | .single => .single
  | _ => .double

/-- A value is escaped for the quotes that will enclose it. -/
theorem escapeFor_enclosing (quote : Quote) (value : Text) :
    escapeFor quote value = escapeFor quote.enclosing value := by
  cases quote <;> rfl

theorem Quote.exists_mark_eq {quote : Quote} (h : quote ≠ .bare) :
    ∃ q, quote.mark = [q] ∧ quote.enclosing = quote ∧ q ≠ '/' ∧ q ≠ '-' := by
  cases quote with
  | double => exact ⟨'"', rfl, rfl, by decide, by decide⟩
  | single => exact ⟨'\'', rfl, rfl, by decide, by decide⟩
  | bare => exact absurd rfl h

/-- An attribute with a new value, which is escaped and enclosed in quotes. -/
def Attribute.withValue (a : Attribute) (value : Text) : Attribute :=
  { a with quote := a.quote.enclosing, value := escapeFor a.quote value }

/-- A new value takes the place of the old one, wherever the attribute stands. -/
theorem replaceValue_append (front back value : Text) (a : Attribute) (element : Element) :
    replaceValue (front ++ (a.text ++ back)) element
        ((a.span front.length).map (· + element.start)) value =
      front ++ ((a.withValue value).text ++ back) := by
  have hstart : ((a.span front.length).map (· + element.start)).valueStart - element.start =
      (front ++ a.opening).length := by
    simp [Attribute.span, AttributeSpan.map]
  have hstop : ((a.span front.length).map (· + element.start)).valueStop - element.start =
      (front ++ (a.opening ++ a.value)).length := by
    simp [Attribute.span, AttributeSpan.map]
    omega
  have htake : (front ++ (a.text ++ back)).take (front ++ a.opening).length =
      front ++ a.opening := by
    have hsplit : front ++ (a.text ++ back) =
        (front ++ a.opening) ++ (a.value ++ (a.quote.mark ++ back)) := by simp [Attribute.text]
    rw [hsplit, List.take_left]
  have hdrop : (front ++ (a.text ++ back)).drop (front ++ (a.opening ++ a.value)).length =
      a.quote.mark ++ back := by
    have hsplit : front ++ (a.text ++ back) =
        (front ++ (a.opening ++ a.value)) ++ (a.quote.mark ++ back) := by simp [Attribute.text]
    rw [hsplit, List.drop_left]
  rw [replaceValue, hstart, hstop, htake, hdrop]
  cases hquote : a.quote <;>
    simp [AttributeSpan.map, Attribute.span, hquote, Attribute.withValue, Attribute.text,
      Attribute.opening, Quote.mark, Quote.enclosing]

theorem not_mem_appendClass {value newClass : Text} (hvalue : .char '>' ∉ value)
    (hclass : .char '>' ∉ newClass) : .char '>' ∉ appendClass value newClass := by
  obtain ⟨gap, -, heq⟩ := exists_trimEnd_append value
  have htrim : .char '>' ∉ trimEnd value :=
    fun h => hvalue (by rw [heq]; exact List.mem_append_left _ h)
  unfold appendClass
  dsimp only
  split
  · exact hclass
  · simp [htrim, hclass]

namespace Tag
variable (tag : Tag)

/-- The tag with another body. -/
def withBody (body : Text) (h : .char '>' ∉ body) (hname : StartsOutside isWord body) : Tag :=
  ⟨tag.name, body, h, hname⟩

/-! ## The place of a new attribute -/

/-- The body without a slash that closes the tag. -/
def unslashed : Text := if tag.closesItself then tag.body.dropLast else tag.body

/-- The part of the body behind which a new attribute belongs. -/
def stem : Text := trimEnd tag.unslashed

/-- The part of the body in front of which a new attribute belongs. -/
def ending : Text := tag.body.drop tag.stem.length

theorem exists_body_eq : ∃ gap, (∀ c ∈ gap, isBlank c = true) ∧
    tag.body = tag.stem ++ (gap ++ if tag.closesItself then [.char '/'] else []) := by
  obtain ⟨gap, hgap, heq⟩ := exists_trimEnd_append tag.unslashed
  refine ⟨gap, hgap, ?_⟩
  rw [← List.append_assoc, stem, ← heq, unslashed]
  split
  · next h =>
    rw [closesItself, beq_iff_eq, List.getLast?_eq_some_iff] at h
    obtain ⟨body, hbody⟩ := h
    rw [hbody, List.dropLast_concat]
  · rw [List.append_nil]

/-- The ending is blanks and the slash that closes the tag, if there is one. -/
theorem exists_ending_eq : ∃ gap, (∀ c ∈ gap, isBlank c = true) ∧
    tag.ending = gap ++ if tag.closesItself then [.char '/'] else [] := by
  obtain ⟨gap, hgap, heq⟩ := tag.exists_body_eq
  exact ⟨gap, hgap, (congrArg (List.drop _) heq).trans List.drop_left⟩

theorem stem_append_ending : tag.stem ++ tag.ending = tag.body := by
  obtain ⟨gap, -, heq⟩ := tag.exists_body_eq
  have hending : tag.ending = gap ++ if tag.closesItself then [.char '/'] else [] :=
    (congrArg (List.drop _) heq).trans List.drop_left
  rw [hending, ← heq]

theorem isEnding_ending {tag : Tag} : IsEnding (tag.ending ++ [Code.char '>']) := by
  obtain ⟨gap, hgap, hending⟩ := tag.exists_ending_eq
  refine ⟨gap, hgap, ?_⟩
  rw [hending]
  cases tag.closesItself with
  | true => exact .inr (by simp)
  | false => exact .inl (by simp)

/-- A slash at the end of the stem would close the tag if nothing stood behind it. -/
theorem isClearOf_stem {tag : Tag} : IsClearOf tag.stem (tag.ending ++ [Code.char '>']) := by
  refine fun c hc => ⟨isBlank_of_getLast?_trimEnd hc, ?_⟩
  rintro rfl h
  have hnil : tag.ending = [] := List.append_cancel_right (h.trans (List.nil_append _).symm)
  have hcloses : tag.closesItself = true := by
    rw [closesItself, ← tag.stem_append_ending, hnil, List.append_nil, Option.mem_def.1 hc]
    rfl
  obtain ⟨gap, -, hending⟩ := tag.exists_ending_eq
  rw [hnil, hcloses] at hending
  simp at hending

theorem text_eq_stem_append :
    tag.text = .char '<' :: (tag.name.text ++ tag.stem) ++ (tag.ending ++ [Code.char '>']) := by
  rw [text, ← stem_append_ending]
  simp

/-- A new attribute belongs behind the stem. -/
theorem insertOffset_text : insertOffset tag.text = tag.bodyOffset + tag.stem.length := by
  rw [text_eq_stem_append, insertOffset_behindName isClearOf_stem isEnding_ending, bodyOffset]

theorem take_text {front back : Text} (h : tag.body = front ++ back) :
    tag.text.take (tag.bodyOffset + front.length) = .char '<' :: (tag.name.text ++ front) := by
  have hsplit : tag.text =
      (.char '<' :: (tag.name.text ++ front)) ++ (back ++ [Code.char '>']) := by
    simp [text, h]
  rw [hsplit]
  exact List.take_left' (by simp [bodyOffset]; omega)

theorem drop_text {front back : Text} (h : tag.body = front ++ back) :
    tag.text.drop (tag.bodyOffset + front.length) = back ++ [Code.char '>'] := by
  have hsplit : tag.text =
      (.char '<' :: (tag.name.text ++ front)) ++ (back ++ [Code.char '>']) := by
    simp [text, h]
  rw [hsplit]
  exact List.drop_left' (by simp [bodyOffset]; omega)

/-! ## A new attribute -/

/-- The tag with a text put behind its stem, after a blank. -/
def insert (written : Text) (h : .char '>' ∉ written) : Tag :=
  tag.withBody (tag.stem ++ .char ' ' :: (written ++ tag.ending))
    (by
      have hbody := tag.notClosed
      rw [← stem_append_ending] at hbody
      simp only [List.mem_append, not_or] at hbody
      simp [hbody, h])
    (by
      have hbody := tag.nameEnds
      rw [← stem_append_ending] at hbody
      cases hstem : tag.stem with
      | nil => exact startsOutside_cons.2 (by decide)
      | cons c stem =>
        rw [hstem] at hbody
        exact startsOutside_cons.2 (startsOutside_cons.1 hbody))

/-- An attribute as a new one is written: its value in double quotes. -/
def newAttribute (name value : Text) : Attribute :=
  ⟨name, [], [], .double, escapeFor .double value⟩

theorem not_mem_newAttribute {name value : Text} (hname : .char '>' ∉ name)
    (hvalue : .char '>' ∉ value) :
    .char '>' ∉ (newAttribute name value).text := by
  simp [newAttribute, Attribute.text, Attribute.opening, Quote.mark, hname,
    not_mem_escapeFor hvalue]

theorem insertAttribute_text {name value : Text} (h : .char '>' ∉ (newAttribute name value).text) :
    insertAttribute tag.text name value = (tag.insert (newAttribute name value).text h).text := by
  unfold insertAttribute
  dsimp only
  rw [insertOffset_text, tag.take_text tag.stem_append_ending.symm,
    tag.drop_text tag.stem_append_ending.symm]
  simp [text, insert, withBody, newAttribute, Attribute.text, Attribute.opening, Quote.mark]

/-! ## A new value -/

/-- The tag with a part of its body, not the first one, replaced. -/
def replace {front part back : Text} (hbody : tag.body = front ++ (part ++ back))
    (hfront : front ≠ []) (new : Text) (h : .char '>' ∉ new) : Tag :=
  tag.withBody (front ++ (new ++ back))
    (by
      have hclosed := tag.notClosed
      rw [hbody] at hclosed
      simp only [List.mem_append, not_or] at hclosed
      simp [hclosed, h])
    (by
      have hname := tag.nameEnds
      rw [hbody] at hname
      exact (startsOutside_append hfront).2 ((startsOutside_append hfront).1 hname))

theorem not_mem_withValue {front back value : Text} {a : Attribute}
    (hbody : tag.body = front ++ (a.text ++ back)) (hvalue : .char '>' ∉ value) :
    .char '>' ∉ (a.withValue value).text := by
  have hclosed := tag.notClosed
  rw [hbody] at hclosed
  simp only [Attribute.text, Attribute.opening, List.mem_append, List.mem_cons, not_or] at hclosed
  have hmark : .char '>' ∉ a.quote.enclosing.mark := by
    cases a.quote <;> simp [Quote.enclosing, Quote.mark]
  simp [Attribute.withValue, Attribute.text, Attribute.opening, hclosed, hmark,
    not_mem_escapeFor hvalue]

theorem replaceValue_text {front back value : Text} {a : Attribute}
    (hbody : tag.body = front ++ (a.text ++ back)) (hfront : front ≠ [])
    (h : .char '>' ∉ (a.withValue value).text) (start : Nat) (marker : Text) :
    replaceValue tag.text (tag.element start marker)
        ((a.span (front.length + tag.bodyOffset)).map (· + start)) value =
      (tag.replace hbody hfront (a.withValue value).text h).text := by
  have hlength : front.length + tag.bodyOffset =
      (.char '<' :: (tag.name.text ++ front)).length := by
    simp [bodyOffset]
    omega
  have hsplit : tag.text =
      (.char '<' :: (tag.name.text ++ front)) ++ (a.text ++ (back ++ [Code.char '>'])) := by
    simp [text, hbody]
  rw [hlength, hsplit]
  refine (replaceValue_append _ _ value a (tag.element start marker)).trans ?_
  simp [text, replace, withBody]

/-! ## Setting an attribute -/

/-- A tag and the tag with an attribute set: left as it is, written anew behind the stem, or with
the value of the first attribute of that name updated. -/
inductive Sets (name new : Text) (update : Text → Text) : Tag → Prop
  | kept : Sets name new update tag
  | added (absent : tag.written? name = none) (h : .char '>' ∉ (newAttribute name new).text) :
    Sets name new update (tag.insert (newAttribute name new).text h)
  | updated {front back : Text} {a : Attribute} (found : tag.written? name = some (front.length, a))
    (hbody : tag.body = front ++ (a.text ++ back)) (hfront : front ≠ [])
    (h : .char '>' ∉ (a.withValue (update a.value)).text) :
    Sets name new update (tag.replace hbody hfront (a.withValue (update a.value)).text h)

variable {tag} {tag' : Tag} {name new value : Text} {update : Text → Text}

theorem Sets.name_eq (h : tag.Sets name new update tag') : tag'.name = tag.name := by
  cases h <;> rfl

/-- The attribute that a name finds in a tag, cut out of the body. -/
theorem exists_of_written? {e : Nat × Attribute} (h : tag.written? name = some e) :
    ∃ front back, e.1 = front.length ∧ tag.body = front ++ (e.2.text ++ back) ∧ front ≠ [] ∧
      .char '>' ∉ e.2.value := by
  obtain ⟨front, back, hbody, hpos, hfront, -⟩ :=
    tag.exists_of_mem_entries (List.mem_of_find?_eq_some h)
  refine ⟨front, back, hpos, hbody, hfront, ?_⟩
  have hclosed := tag.notClosed
  rw [hbody] at hclosed
  simp only [Attribute.text, List.mem_append, not_or] at hclosed
  exact hclosed.2.1.1.2

variable {newClass : Text}

/-- A tag and the tag with a class: one that lists the class already, one with a new class
attribute, or one with the class put behind the others. -/
inductive Takes (tag : Tag) (newClass : Text) : Tag → Prop
  | listed {e : Nat × Attribute} (found : tag.written? classAttribute = some e)
    (hmem : newClass ∈ words e.2.value) : Takes tag newClass tag
  | added (absent : tag.written? classAttribute = none)
    (h : .char '>' ∉ (newAttribute classAttribute newClass).text) :
    Takes tag newClass (tag.insert (newAttribute classAttribute newClass).text h)
  | appended {front back : Text} {a : Attribute}
    (found : tag.written? classAttribute = some (front.length, a))
    (hbody : tag.body = front ++ (a.text ++ back)) (hfront : front ≠ [])
    (h : .char '>' ∉ (a.withValue (appendClass a.value newClass)).text) :
    Takes tag newClass
      (tag.replace hbody hfront (a.withValue (appendClass a.value newClass)).text h)

theorem Takes.sets (h : tag.Takes newClass tag') :
    tag.Sets classAttribute newClass (appendClass · newClass) tag' := by
  cases h with
  | listed => exact .kept
  | added absent h => exact .added absent h
  | appended found hbody hfront h => exact .updated found hbody hfront h

section
variable {start : Nat} {marker : Text}

/-- A class that is there is not added again. -/
theorem applyClass_of_written? {e : Nat × Attribute} (h : tag.written? classAttribute = some e)
    (hmem : newClass ∈ words e.2.value) :
    applyClass tag.text (tag.element start marker) newClass = tag.text := by
  rw [applyClass, Element.classSpan?, attribute?_element, h]
  split
  · rfl
  · have hcontains : (classTokens (some e.2.value)).contains newClass = true := by
      simpa [classTokens] using hmem
    exact if_pos hcontains

/-- Without a class attribute a new one is put into the tag. -/
theorem applyClass_of_absent (h : tag.written? classAttribute = none) (hne : newClass ≠ []) :
    applyClass tag.text (tag.element start marker) newClass =
      insertAttribute tag.text classAttribute newClass := by
  rw [applyClass, Element.classSpan?, attribute?_element, h, if_neg (by simpa using hne)]
  rfl

/-- A class that is not there is put behind the others. -/
theorem applyClass_of_not_mem {e : Nat × Attribute} (h : tag.written? classAttribute = some e)
    (hmem : newClass ∉ words e.2.value) (hne : newClass ≠ []) :
    applyClass tag.text (tag.element start marker) newClass =
      replaceValue tag.text (tag.element start marker)
        ((e.2.span (e.1 + tag.bodyOffset)).map (· + start)) (appendClass e.2.value newClass) := by
  have hcontains : (classTokens (some e.2.value)).contains newClass = false := by
    simpa [classTokens] using hmem
  rw [applyClass, Element.classSpan?, attribute?_element, h, if_neg (by simpa using hne)]
  exact if_neg (by rw [← Bool.not_eq_true] at hcontains; exact hcontains)

end

/-- Adding a class gives a tag that takes it. -/
theorem exists_takes_applyClass (tag : Tag) (start : Nat) (marker : Text) (h : .char '>' ∉ newClass)
    (hne : newClass ≠ []) :
    ∃ tag', tag.Takes newClass tag' ∧
      applyClass tag.text (tag.element start marker) newClass = tag'.text := by
  cases hentry : tag.written? classAttribute with
  | none =>
    have hnew : .char '>' ∉ (newAttribute classAttribute newClass).text :=
      not_mem_newAttribute (by decide) h
    exact ⟨_, .added hentry hnew,
      (applyClass_of_absent hentry hne).trans (tag.insertAttribute_text hnew)⟩
  | some e =>
    by_cases hmem : newClass ∈ words e.2.value
    · exact ⟨tag, .listed hentry hmem, applyClass_of_written? hentry hmem⟩
    · obtain ⟨front, back, hpos, hbody, hfront, hvalue⟩ := exists_of_written? hentry
      obtain ⟨pos, a⟩ := e
      dsimp only at hpos hbody hvalue
      subst hpos
      have hnew := tag.not_mem_withValue hbody (not_mem_appendClass hvalue h)
      exact ⟨_, .appended hentry hbody hfront hnew, (applyClass_of_not_mem hentry hmem hne).trans
        (tag.replaceValue_text hbody hfront hnew start marker)⟩

theorem exists_sets_applyClass (tag : Tag) (start : Nat) (marker : Text)
    (h : .char '>' ∉ newClass) :
    ∃ tag', tag.Sets classAttribute newClass (appendClass · newClass) tag' ∧
      applyClass tag.text (tag.element start marker) newClass = tag'.text := by
  by_cases hne : newClass = []
  · subst hne
    exact ⟨tag, .kept, rfl⟩
  · obtain ⟨tag', htakes, heq⟩ := tag.exists_takes_applyClass start marker h hne
    exact ⟨tag', htakes.sets, heq⟩

/-- A tag and the tag with a path marker: one that has the marker with that value in quotes
already, one with a new attribute, or one with the value of the attribute replaced. -/
inductive Marks (tag : Tag) (name value : Text) : Tag → Prop
  | marked {e : Nat × Attribute} (found : tag.written? name = some e) (same : e.2.value = value)
    (quoted : e.2.quote ≠ .bare) : Marks tag name value tag
  | added (absent : tag.written? name = none) (h : .char '>' ∉ (newAttribute name value).text) :
    Marks tag name value (tag.insert (newAttribute name value).text h)
  | updated {front back : Text} {a : Attribute}
    (found : tag.written? name = some (front.length, a))
    (hbody : tag.body = front ++ (a.text ++ back)) (hfront : front ≠ [])
    (h : .char '>' ∉ (a.withValue value).text) :
    Marks tag name value (tag.replace hbody hfront (a.withValue value).text h)

theorem Marks.sets (h : tag.Marks name value tag') :
    tag.Sets name value (fun _ => value) tag' := by
  cases h with
  | marked => exact .kept
  | added absent h => exact .added absent h
  | updated found hbody hfront h => exact .updated found hbody hfront h

/-- Setting a path marker gives a tag that has it. -/
theorem exists_marks_applyMarker (tag : Tag) (start : Nat) (marker : Text) {chosen : Option Text}
    (hname : .char '>' ∉ markerName (tag.element start marker) chosen)
    (hvalue : .char '>' ∉ value) :
    ∃ tag', tag.Marks (markerName (tag.element start marker) chosen) value tag' ∧
      applyMarker tag.text (tag.element start marker) value chosen = tag'.text := by
  rw [applyMarker, attribute?_element]
  cases hentry : tag.written? (markerName (tag.element start marker) chosen) with
  | none =>
    have hnew := not_mem_newAttribute hname hvalue
    exact ⟨_, .added hentry hnew, tag.insertAttribute_text hnew⟩
  | some e =>
    obtain ⟨front, back, hpos, hbody, hfront, -⟩ := exists_of_written? hentry
    obtain ⟨pos, a⟩ := e
    dsimp only at hpos hbody
    subst hpos
    have hnew := tag.not_mem_withValue hbody hvalue
    dsimp only [Option.map_some]
    split
    · next h =>
      have hquoted : a.quote ≠ .bare := by
        simpa [AttributeSpan.isQuoted, AttributeSpan.map, Attribute.span] using h.2
      exact ⟨tag, .marked hentry h.1 hquoted, rfl⟩
    · exact ⟨_, .updated hentry hbody hfront hnew,
        tag.replaceValue_text hbody hfront hnew start marker⟩

theorem exists_sets_applyMarker (tag : Tag) (start : Nat) (marker : Text) {chosen : Option Text}
    (hname : .char '>' ∉ markerName (tag.element start marker) chosen)
    (hvalue : .char '>' ∉ value) :
    ∃ tag', tag.Sets (markerName (tag.element start marker) chosen) value (fun _ => value) tag' ∧
      applyMarker tag.text (tag.element start marker) value chosen = tag'.text := by
  obtain ⟨tag', hmarks, heq⟩ := tag.exists_marks_applyMarker start marker hname hvalue
  exact ⟨tag', hmarks.sets, heq⟩

end Tag
end MarkupNaming.Markup
