import MarkupNaming.Proofs.Markup.Attribute.Rescanning
import MarkupNaming.Proofs.Markup.Rewriting

/-!
# Adding a class again

The class that was added to a tag is read off the new tag, behind the classes that were there, so
adding it once more changes nothing. This needs a class without blanks and quotes, and a tag whose
quotes all lie in its attributes or whose class attribute is in quotes.
-/
namespace MarkupNaming.Markup
open Text

/-! ## Classes -/

/-- Whether a text can be the name of a class: no blank, no quote and no `>`. -/
def IsClassName (t : Text) : Prop := t ≠ [] ∧ ∀ c ∈ t, isPlain c = true

namespace IsClassName
variable {t value : Text}

theorem not_mem (h : IsClassName t) {c : Code} (hc : isPlain c = false) : c ∉ t := by
  intro hmem
  rw [h.2 c hmem] at hc
  cases hc

theorem words_eq (h : IsClassName t) : words t = [t] := by
  refine words_of_solid h.1 fun c hc => ?_
  have hplain := h.2 c hc
  simp only [isPlain, Bool.and_eq_true, Bool.not_eq_true'] at hplain
  exact hplain.1.1.1

/-- A class is put behind the classes of a value. -/
theorem words_appendClass (h : IsClassName t) (value : Text) :
    words (appendClass value t) = words value ++ [t] := by
  unfold appendClass
  dsimp only
  split
  · next hempty =>
    rw [h.words_eq, ← words_trimEnd value, List.isEmpty_iff.1 hempty]
    rfl
  · rw [words_append_blank (by decide), words_trimEnd, h.words_eq]

/-- A class is among the classes of a value to which it was appended. -/
theorem mem_words_appendClass (h : IsClassName t) (value : Text) :
    t ∈ words (appendClass value t) := by
  rw [h.words_appendClass]
  exact List.mem_append_right _ (List.mem_singleton_self t)

theorem not_mem_appendClass (h : IsClassName t) {c : Code} (hc : isPlain c = false)
    (hblank : isBlank c = false) (hvalue : c ∉ value) : c ∉ appendClass value t := by
  obtain ⟨gap, -, heq⟩ := exists_trimEnd_append value
  have htrim : c ∉ trimEnd value := by
    intro hmem
    rw [heq] at hvalue
    exact hvalue (List.mem_append_left _ hmem)
  have hspace : c ≠ ' ' := by
    rintro rfl
    exact absurd hblank (by decide)
  unfold appendClass
  dsimp only
  split
  · exact h.not_mem hc
  · simp [htrim, hspace, h.not_mem hc]

end IsClassName

/-- Escaping puts an entity in place of the quote that encloses a value. -/
theorem exists_escapeFor_eq {quote : Quote} {q : Code} (hmark : quote.enclosing.mark = [q]) :
    ∃ entity : Text, q ∉ entity ∧
      ∀ value, escapeFor quote value = value.flatMap fun c => if c = q then entity else [c] := by
  cases quote with
  | single =>
    obtain rfl : '\'' = q := by simpa [Quote.enclosing, Quote.mark] using hmark
    exact ⟨"&#39;", by decide, fun _ => rfl⟩
  | double =>
    obtain rfl : '"' = q := by simpa [Quote.enclosing, Quote.mark] using hmark
    exact ⟨"&quot;", by decide, fun _ => rfl⟩
  | bare =>
    obtain rfl : '"' = q := by simpa [Quote.enclosing, Quote.mark] using hmark
    exact ⟨"&quot;", by decide, fun _ => rfl⟩

/-- A value that does not hold the enclosing quote is written as it is. -/
theorem escapeFor_eq_self {quote : Quote} {value : Text} {q : Code}
    (hmark : quote.enclosing.mark = [q]) (h : q ∉ value) : escapeFor quote value = value := by
  obtain ⟨entity, -, heq⟩ := exists_escapeFor_eq hmark
  rw [heq]
  induction value with
  | nil => rfl
  | cons c value ih =>
    rw [List.mem_cons, not_or] at h
    rw [List.flatMap_cons, if_neg (Ne.symm h.1), ih h.2]
    rfl

theorem Quote.enclosing_ne_bare (quote : Quote) : quote.enclosing ≠ .bare := by
  cases quote <;> simp [enclosing]

/-- The quote that encloses a new value is not in it. -/
theorem not_mem_escapeFor_enclosing {quote : Quote} {q : Code} (hmark : quote.enclosing.mark = [q])
    (value : Text) : q ∉ escapeFor quote value := by
  obtain ⟨entity, hq, heq⟩ := exists_escapeFor_eq hmark
  rw [heq]
  intro hmem
  obtain ⟨c, -, hc⟩ := List.mem_flatMap.1 hmem
  split at hc
  · exact hq hc
  · next hne => exact hne (List.mem_singleton.1 hc).symm

/-- A new value can stand in its quotes. -/
theorem Attribute.encloses_withValue (a : Attribute) (value : Text) :
    (a.withValue value).quote.encloses (a.withValue value).value := by
  obtain ⟨q, hmark, -⟩ := Quote.exists_mark_eq a.quote.enclosing_ne_bare
  exact (Quote.encloses_iff_of_mark hmark _).2 (not_mem_escapeFor_enclosing hmark value)

theorem Attribute.isWritten_withValue {a : Attribute} (ha : a.IsWritten) (value : Text) :
    (a.withValue value).IsWritten :=
  ⟨ha.name, ha.gapBefore, ha.gapAfter, a.encloses_withValue value⟩

/-- A quote that would end the value of an attribute, once it is enclosed, is not in it. -/
theorem Attribute.exists_enclosing_mark {a : Attribute} (ha : a.IsWritten) :
    ∃ q, a.quote.enclosing.mark = [q] ∧ isQuote q = true ∧ q ∉ a.value := by
  have hvalue := ha.value
  cases hquote : a.quote with
  | double => exact ⟨'"', rfl, by decide, by rwa [hquote] at hvalue⟩
  | single => exact ⟨'\'', rfl, by decide, by rwa [hquote] at hvalue⟩
  | bare =>
    rw [hquote] at hvalue
    refine ⟨'"', rfl, by decide, fun hmem => ?_⟩
    exact absurd (by decide) (isBareChar_eq_true_iff.1 (hvalue.2 _ hmem)).2

theorem isPlain_eq_false_of_isQuote {q : Code} (h : isQuote q = true) :
    isPlain q = false ∧ isBlank q = false := by
  rw [isQuote, Bool.or_eq_true, beq_iff_eq, beq_iff_eq] at h
  rcases h with rfl | rfl <;> decide

/-! ## Names that can be written -/

/-- Whether a text can be written as the name of an attribute, be it read as one or not. -/
structure IsWritableName (name : Text) : Prop where
  ne_nil : name ≠ []
  isBlank_eq_false : ∀ c ∈ name, isBlank c = false
  not_mark : ∀ c ∈ name, c ∉ ("\"'<>=/" : Text)

theorem isWritableName_of_isAttributeName {name : Text} (h : isAttributeName name = true) :
    IsWritableName name := by
  have hchar {c d : Code} (hc : c ∈ name) (hd : isNameChar d = false) : c ≠ d := by
    rintro rfl
    rw [isNameChar_of_mem_name h hc] at hd
    cases hd
  refine ⟨?_, fun c hc => ?_, fun c hc hmark => ?_⟩
  · rintro rfl
    cases h
  · cases hblank : isBlank c with
    | false => rfl
    | true => exact absurd rfl (hchar hc (isNameChar_eq_false_of_isBlank hblank))
  · have hmarks : ∀ d ∈ ("\"'<>=/" : Text), (!isNameChar d) = true :=
      List.all_eq_true.1 (by decide)
    exact hchar hc (by simpa using hmarks c hmark) rfl

/-- In front of an equals sign a name is no bare value. -/
theorem bareValue?_append_sign {name : Text}
    (h : ∀ c ∈ name, isBlank c = false ∧ c ≠ '>' ∧ c ≠ '/') (rest : Text) :
    bareValue? (name ++ .char '=' :: rest) = none := by
  have hsign : isBareChar '=' = false := by decide
  induction name with
  | nil => simp [bareValue?, hsign]
  | cons c name ih =>
    have hrest := ih fun d hd => h d (List.mem_cons_of_mem _ hd)
    have hends : endsBare (name ++ .char '=' :: rest) = false := by
      cases name with
      | nil => simp [endsBare, show isBlank '=' = false by decide]
      | cons d name => simp [endsBare, h d (by simp)]
    simp [bareValue?, hends, hrest]

namespace IsWritableName
variable {name : Text}

theorem not_mem (h : IsWritableName name) {c : Code} (hc : c ∈ ("\"'<>=/" : Text)) : c ∉ name :=
  fun hmem => h.not_mark c hmem hc

theorem startsOutside (h : IsWritableName name) (rest : Text) :
    StartsOutside (fun c => isBlank c || c == '=') (name ++ rest) := by
  rw [startsOutside_append h.ne_nil]
  intro c hc
  have hmem := List.mem_of_mem_head? hc
  have hsign : c ≠ '=' := by
    rintro rfl
    exact h.not_mem (by decide) hmem
  simp [h.isBlank_eq_false c hmem, hsign]

theorem readValue?_eq_none (h : IsWritableName name) (rest : Text) :
    Attribute.readValue? (name ++ .char '=' :: rest) = none := by
  have hbare : bareValue? (name ++ .char '=' :: rest) = none := by
    refine bareValue?_append_sign (fun c hc => ⟨h.isBlank_eq_false c hc, ?_, ?_⟩) rest <;>
    · rintro rfl
      exact h.not_mem (by decide) hc
  have hfirst {q : Code} (hq : q ∈ ("\"'<>=/" : Text)) (t : Text) :
      name ++ .char '=' :: rest ≠ q :: t := by
    intro heq
    obtain ⟨c, rest', rfl⟩ := List.exists_cons_of_ne_nil h.ne_nil
    obtain rfl : c = q := (List.cons.inj heq).1
    exact h.not_mem hq List.mem_cons_self
  unfold Attribute.readValue?
  split
  · next heq => exact absurd heq (hfirst (by decide) _)
  · next heq => exact absurd heq (hfirst (by decide) _)
  · rw [hbare, Option.map_none]

end IsWritableName

namespace Tag
variable {tag tag' : Tag} {start : Nat} {marker newClass : Text}

/-! ## A new attribute -/

/-- The stem ends in no slash if only the `>` stands behind it. -/
theorem getLast?_stem_ne_slash (h : (tag.ending ++ [Code.char '>']).head? = some (Code.char '>')) :
    tag.stem.getLast? ≠ some (.char '/') := by
  have hnil : tag.ending = [] := by
    cases hending : tag.ending with
    | nil => rfl
    | cons c rest =>
      rw [hending] at h
      obtain rfl : c = '>' := by simpa using h
      have hclosed := tag.notClosed
      rw [← tag.stem_append_ending, hending] at hclosed
      simp at hclosed
  intro hslash
  exact (isClearOf_stem '/' hslash).2 rfl (by rw [hnil, List.nil_append])

theorem isWritten_newAttribute {name : Text} (hname : isAttributeName name = true) (value : Text) :
    (newAttribute name value).IsWritten where
  name := hname
  gapBefore := by simp [newAttribute]
  gapAfter := by simp [newAttribute]
  value := by
    have hmark : Quote.double.enclosing.mark = [.char '"'] := rfl
    exact not_mem_escapeFor_enclosing hmark value

theorem text_newAttribute_append (name value rest : Text) :
    (newAttribute name value).text ++ rest =
      name ++ .char '=' :: .char '"' :: (escapeFor .double value ++ .char '"' :: rest) := by
  simp [Attribute.text, Attribute.opening, newAttribute, Quote.mark]

/-- Whether every quote of the tag lies in one of its attributes. -/
def QuotesCovered (tag : Tag) : Prop :=
  Markup.QuotesCovered tag.name.text.getLast? 0 (tag.body ++ [Code.char '>'])

/-- Whether an attribute is bare and its value is the slash in front of the `>`. -/
def IsClosingSlash (tag : Tag) (e : Nat × Attribute) : Prop :=
  e.2.quote = .bare ∧ e.2.value = [.char '/'] ∧ e.1 + e.2.text.length = tag.body.length

/-- What is found in a tag with a new attribute: what was found before, apart from an attribute
whose value was the slash at the end, and what is found in the new attribute. -/
theorem exists_entries_insert_append {name value : Text} (hname : IsWritableName name)
    (hquotes : tag.QuotesCovered) (h : .char '>' ∉ (newAttribute name value).text) :
    ∃ found lost, (∀ e ∈ found, e.1 + e.2.text.length ≤ tag.stem.length) ∧
      (∀ e ∈ lost, tag.IsClosingSlash e) ∧ tag.entries = found ++ lost ∧
      (tag.insert (newAttribute name value).text h).entries =
        found ++ attributesFrom (some (.char ' ')) (tag.stem.length + 1)
          ((newAttribute name value).text ++ (tag.ending ++ [Code.char '>'])) := by
  have hbody : tag.body ++ [Code.char '>'] = tag.stem ++ (tag.ending ++ [Code.char '>']) := by
    rw [← List.append_assoc, stem_append_ending]
  have hclosed : .char '>' ∉ tag.stem := by
    intro hmem
    apply tag.notClosed
    rw [← stem_append_ending]
    exact List.mem_append_left _ hmem
  have hstarts : StartsOutside (fun c => isBlank c || c == '=')
      ((newAttribute name value).text ++ (tag.ending ++ [Code.char '>'])) := by
    rw [text_newAttribute_append]
    exact hname.startsOutside _
  have hread : Attribute.readValue?
      ((newAttribute name value).text ++ (tag.ending ++ [Code.char '>'])) = none := by
    rw [text_newAttribute_append, hname.readValue?_eq_none]
  rw [QuotesCovered, hbody] at hquotes
  obtain ⟨found, lost, hfound, hlost, heq, heq'⟩ := exists_attributesFrom_insert hclosed
    isEnding_ending getLast?_stem_ne_slash hstarts hread hquotes
  have hsplit : (tag.insert (newAttribute name value).text h).body ++ [Code.char '>'] =
      tag.stem ++ .char ' ' ::
        ((newAttribute name value).text ++ (tag.ending ++ [Code.char '>'])) := by
    simp [insert, withBody]
  refine ⟨found, lost, by simpa using hfound, ?_, by rw [entries, hbody, heq], ?_⟩
  · intro e he
    obtain ⟨hbare, hvalue, hpos⟩ := hlost e he
    rw [← hbody, List.length_append, List.length_singleton] at hpos
    exact ⟨hbare, hvalue, by omega⟩
  · rw [entries, hsplit]
    change attributesFrom tag.name.text.getLast? 0 _ = _
    rw [heq', Nat.zero_add]

/-- A new attribute is found if its name is one that is read. -/
theorem exists_entries_insert {name value : Text} (hname : isAttributeName name = true)
    (hquotes : tag.QuotesCovered) (h : .char '>' ∉ (newAttribute name value).text) :
    ∃ found lost, (∀ e ∈ found, e.1 + e.2.text.length ≤ tag.stem.length) ∧
      (∀ e ∈ lost, tag.IsClosingSlash e) ∧ tag.entries = found ++ lost ∧
      (tag.insert (newAttribute name value).text h).entries =
        found ++ [(tag.stem.length + 1, newAttribute name value)] := by
  obtain ⟨found, lost, hfound, hlost, heq, heq'⟩ :=
    exists_entries_insert_append (isWritableName_of_isAttributeName hname) hquotes h
  have hhere : attributeAt? (some (.char ' '))
      ((newAttribute name value).text ++ (tag.ending ++ [Code.char '>'])) =
        some (newAttribute name value) :=
    attributeAt?_append_eq_some_iff.2
      ⟨by decide, isWritten_newAttribute hname value, fun hbare => by cases hbare⟩
  rw [attributesFrom_of_some hhere, isEnding_ending.attributesFrom_eq_nil] at heq'
  exact ⟨found, lost, hfound, hlost, heq, heq'⟩

/-! ## A new class value -/

/-- What is found in a tag with a new value of one of its attributes is what was found before,
apart from the value. -/
theorem exists_entries_replace {front back value : Text} {a : Attribute}
    (hmem : (front.length, a) ∈ tag.entries)
    (hbody : tag.body = front ++ (a.text ++ back)) (hfront : front ≠ [])
    (hquotes : tag.QuotesCovered ∨
      ∀ q, isQuote q = true → q ∈ (a.withValue value).text → q ∈ a.text)
    (h : .char '>' ∉ (a.withValue value).text) :
    ∃ found later later', (∀ e ∈ found, e.1 < front.length) ∧
      tag.entries = found ++ (front.length, a) :: later ∧
      (tag.replace hbody hfront (a.withValue value).text h).entries =
        found ++ (front.length, a.withValue value) :: later' ∧
      later'.map Prod.snd = later.map Prod.snd := by
  have hsplit : tag.body ++ [Code.char '>'] =
      front ++ (a.text ++ (back ++ [Code.char '>'])) := by simp [hbody]
  have hsplit' : (tag.replace hbody hfront (a.withValue value).text h).body ++ [Code.char '>'] =
      front ++ ((a.withValue value).text ++ (back ++ [Code.char '>'])) := by
    simp [replace, withBody]
  rw [entries, hsplit, ← Nat.zero_add front.length] at hmem
  have ha : a.IsWritten := isWritten_of_mem_attributesFrom hmem
  have hquote : (a.withValue value).quote ≠ .bare := a.quote.enclosing_ne_bare
  have hquotes : Markup.QuotesCovered tag.name.text.getLast? 0
      (front ++ (a.text ++ (back ++ [Code.char '>']))) ∨ ∀ q, isQuote q = true →
        q ∈ (a.withValue value).text ++ (back ++ [Code.char '>']) →
          q ∈ a.text ++ (back ++ [Code.char '>']) := by
    rw [← hsplit]
    refine hquotes.imp_right fun hquotes q hq hmem => ?_
    rw [List.mem_append] at hmem ⊢
    exact hmem.imp_left (hquotes q hq)
  have hb := Attribute.isWritten_withValue ha value
  have hhead : (a.withValue value).head = a.head := rfl
  obtain ⟨found, later, later', hlt, heq, heq', hlater⟩ :=
    exists_attributesFrom_replace hb hquote hhead hmem hquotes
  rw [Nat.zero_add] at hlt heq heq'
  refine ⟨found, later, later', hlt, by rw [entries, hsplit, heq], ?_, hlater⟩
  rw [entries, hsplit']
  exact heq'

/-- The name of an attribute with a new value finds the attribute with that value. -/
theorem written?_replace_self {front back name value : Text} {a : Attribute}
    (found : tag.written? name = some (front.length, a))
    (hbody : tag.body = front ++ (a.text ++ back)) (hfront : front ≠ [])
    (hquotes : tag.QuotesCovered ∨
      ∀ q, isQuote q = true → q ∈ (a.withValue value).text → q ∈ a.text)
    (h : .char '>' ∉ (a.withValue value).text) :
    (tag.replace hbody hfront (a.withValue value).text h).written? name =
      some (front.length, a.withValue value) := by
  obtain ⟨before, later, later', hlt, heq, heq', -⟩ := exists_entries_replace
    (List.mem_of_find?_eq_some found) hbody hfront hquotes h
  have hname : (lower (a.withValue value).name == name) = true :=
    beq_iff_eq.2 (tag.lower_name_of_written? found)
  have hnone : before.find? (fun e => lower e.2.name == name) = none := by
    cases hfind : before.find? (fun e => lower e.2.name == name) with
    | none => rfl
    | some e =>
      rw [written?, heq, List.find?_append, hfind, Option.some_or] at found
      have := hlt e (List.mem_of_find?_eq_some hfind)
      rw [Option.some.inj found] at this
      exact absurd this (Nat.lt_irrefl _)
  rw [written?, heq', List.find?_append, hnone, Option.none_or, List.find?_cons, hname]

/-- Which attribute of a name counts does not depend on offsets. -/
theorem map_snd_written? (tag : Tag) (name : Text) : (tag.written? name).map Prod.snd =
    (tag.entries.map Prod.snd).find? fun a => lower a.name == name := by
  rw [List.find?_map]
  rfl

/-- With a new value of an attribute, those of other names are as they were. -/
theorem map_snd_written?_replace {front back name other value : Text} {a : Attribute}
    (found : tag.written? name = some (front.length, a))
    (hbody : tag.body = front ++ (a.text ++ back)) (hfront : front ≠ [])
    (hquotes : tag.QuotesCovered ∨
      ∀ q, isQuote q = true → q ∈ (a.withValue value).text → q ∈ a.text)
    (h : .char '>' ∉ (a.withValue value).text) (hname : other ≠ name) :
    ((tag.replace hbody hfront (a.withValue value).text h).written? other).map Prod.snd =
      (tag.written? other).map Prod.snd := by
  obtain ⟨before, later, later', -, heq, heq', hlater⟩ := exists_entries_replace
    (List.mem_of_find?_eq_some found) hbody hfront hquotes h
  have hother : (lower a.name == other) = false := by
    rw [show lower a.name = name from tag.lower_name_of_written? found]
    exact beq_eq_false_iff_ne.2 hname.symm
  have hother' : (lower (a.withValue value).name == other) = false := hother
  rw [map_snd_written?, map_snd_written?, heq, heq', List.map_append, List.map_append,
    List.map_cons, List.map_cons, hlater, List.find?_append, List.find?_append, List.find?_cons,
    List.find?_cons, hother, hother']

/-- A value that a class was put behind, as it is written. -/
theorem withValue_appendClass {a : Attribute} (ha : a.IsWritten) (hclass : IsClassName newClass) :
    (a.withValue (appendClass a.value newClass)).value = appendClass a.value newClass := by
  obtain ⟨q, hmark, hq, hvalue⟩ := Attribute.exists_enclosing_mark ha
  obtain ⟨hplain, hblank⟩ := isPlain_eq_false_of_isQuote hq
  exact escapeFor_eq_self hmark (hclass.not_mem_appendClass hplain hblank hvalue)

/-- A class brings no quotes to a value in quotes. -/
theorem mem_text_of_mem_withValue {a : Attribute} (ha : a.IsWritten) (hquote : a.quote ≠ .bare)
    (hclass : IsClassName newClass) {q : Code} (hq : isQuote q = true)
    (h : q ∈ (a.withValue (appendClass a.value newClass)).text) : q ∈ a.text := by
  obtain ⟨-, -, henclosing, -⟩ := Quote.exists_mark_eq hquote
  obtain ⟨hplain, hblank⟩ := isPlain_eq_false_of_isQuote hq
  have hopening : (a.withValue (appendClass a.value newClass)).opening = a.opening := by
    simp only [Attribute.opening, Attribute.withValue, henclosing]
  rw [Attribute.text, hopening, withValue_appendClass ha hclass] at h
  change q ∈ a.opening ++ appendClass a.value newClass ++ a.quote.enclosing.mark at h
  rw [henclosing, List.mem_append, List.mem_append] at h
  rw [Attribute.text, List.mem_append, List.mem_append]
  refine h.imp_left fun h => h.imp_right fun h => ?_
  refine Decidable.byContradiction fun hvalue => ?_
  exact hclass.not_mem_appendClass hplain hblank hvalue h

/-! ## Classes of a tag -/

/-- The classes that a tag lists: the words of its first class attribute. -/
def classes (tag : Tag) : List Text :=
  classTokens ((tag.written? classAttribute).map (·.2.value))

theorem classTokens_element (start : Nat) :
    classTokens (tag.element start marker).classValue? = tag.classes := by
  rw [Element.classValue?, Element.classSpan?, attribute?_element, Option.map_map]
  rfl

theorem classes_eq_words {e : Nat × Attribute} (found : tag.written? classAttribute = some e) :
    tag.classes = words e.2.value := by
  rw [classes, found]
  rfl

theorem mem_classes_iff : newClass ∈ tag.classes ↔
    ∃ e, tag.written? classAttribute = some e ∧ newClass ∈ words e.2.value := by
  cases hfound : tag.written? classAttribute with
  | none => simp [classes, hfound, classTokens]
  | some e => simp [classes_eq_words hfound]

/-! ## Adding a class -/

/-- Whether a class can be added to the tag without enclosing what it should not: the class
attribute is in quotes, or there are no stray quotes. -/
def AcceptsClass (tag : Tag) : Prop :=
  (∃ e, tag.written? classAttribute = some e ∧ e.2.quote ≠ .bare) ∨ tag.QuotesCovered

theorem AcceptsClass.quotesCovered (haccepts : tag.AcceptsClass)
    (absent : tag.written? classAttribute = none) : tag.QuotesCovered := by
  refine haccepts.resolve_left ?_
  rintro ⟨e, he, -⟩
  rw [absent] at he
  cases he

/-- A class put behind the others does not enclose what it should not. -/
theorem AcceptsClass.covers (haccepts : tag.AcceptsClass) (hclass : IsClassName newClass)
    {pos : Nat} {a : Attribute} (found : tag.written? classAttribute = some (pos, a)) :
    tag.QuotesCovered ∨ ∀ q, isQuote q = true →
      q ∈ (a.withValue (appendClass a.value newClass)).text → q ∈ a.text := by
  have ha : a.IsWritten := isWritten_of_mem_attributesFrom (List.mem_of_find?_eq_some found)
  rcases haccepts with ⟨e, he, hquote⟩ | hquotes
  · rw [found] at he
    obtain rfl := Option.some.inj he
    exact .inr fun q hq => mem_text_of_mem_withValue ha hquote hclass hq
  · exact .inl hquotes

/-- A class that a tag took is in the first class attribute of the new tag. The tag listed it
already and is left as it was, or the class stands behind those that were listed before. -/
theorem Takes.exists_written_words (h : tag.Takes newClass tag') (hclass : IsClassName newClass)
    (haccepts : tag.AcceptsClass) :
    ∃ e, tag'.written? classAttribute = some e ∧ newClass ∈ words e.2.value ∧
      (tag' = tag ∨ words e.2.value = tag.classes ++ [newClass]) := by
  cases h with
  | listed found hmem => exact ⟨_, found, hmem, .inl rfl⟩
  | added absent h =>
    obtain ⟨found, lost, -, -, heq, heq'⟩ :=
      exists_entries_insert (by decide) (haccepts.quotesCovered absent) h
    have hnone : found.find? (fun e => lower e.2.name == classAttribute) = none := by
      rw [written?, heq, List.find?_append, Option.or_eq_none_iff] at absent
      exact absent.1
    have hname : (lower (newAttribute classAttribute newClass).name == classAttribute) = true := by
      change (lower classAttribute == classAttribute) = true
      decide
    have hwords : words (newAttribute classAttribute newClass).value = [newClass] := by
      have hquote : .char '"' ∉ newClass := hclass.not_mem (by decide)
      change words (escapeFor .double newClass) = _
      rw [escapeFor_eq_self (q := '"') rfl hquote, hclass.words_eq]
    refine ⟨(tag.stem.length + 1, newAttribute classAttribute newClass), ?_, ?_, .inr ?_⟩
    · rw [written?, heq', List.find?_append, hnone, Option.none_or]
      simp only [List.find?_cons, hname]
    · rw [hwords]
      exact List.mem_singleton_self _
    · rw [hwords, classes, absent]
      rfl
  | @appended front back a found hbody hfront h =>
    have ha : a.IsWritten :=
      isWritten_of_mem_attributesFrom (List.mem_of_find?_eq_some found)
    have hvalue := withValue_appendClass ha hclass
    refine ⟨_, written?_replace_self found hbody hfront (haccepts.covers hclass found) h, ?_,
      .inr ?_⟩
    · rw [hvalue]
      exact hclass.mem_words_appendClass a.value
    · rw [hvalue, hclass.words_appendClass, classes_eq_words found]

/-- A class that a tag took is in the first class attribute of the new tag. -/
theorem Takes.exists_written (h : tag.Takes newClass tag') (hclass : IsClassName newClass)
    (haccepts : tag.AcceptsClass) :
    ∃ e, tag'.written? classAttribute = some e ∧ newClass ∈ words e.2.value := by
  obtain ⟨e, hwritten, hmem, -⟩ := h.exists_written_words hclass haccepts
  exact ⟨e, hwritten, hmem⟩

/-- A class that was added to a tag is not added again. -/
theorem exists_applyClass_twice (tag : Tag) (start : Nat) (marker : Text)
    (hclass : IsClassName newClass)
    (quoted : ∀ e, tag.written? classAttribute = some e → e.2.quote ≠ .bare)
    (hquotes : tag.QuotesCovered) :
    ∃ tag', tag.Sets classAttribute newClass (appendClass · newClass) tag' ∧
      applyClass tag.text (tag.element start marker) newClass = tag'.text ∧
      applyClass tag'.text (tag'.element start marker) newClass = tag'.text := by
  have haccepts : tag.AcceptsClass := by
    cases hwritten : tag.written? classAttribute with
    | none => exact .inr hquotes
    | some e => exact .inl ⟨e, hwritten, quoted e hwritten⟩
  obtain ⟨tag', htakes, heq⟩ := tag.exists_takes_applyClass start marker
    (hclass.not_mem (c := '>') (by decide)) hclass.1
  obtain ⟨e, hwritten, hmem⟩ := htakes.exists_written hclass haccepts
  exact ⟨tag', htakes.sets, heq, applyClass_of_written? hwritten hmem⟩

end Tag

/-! ## Stray quotes of an element -/

/-- Whether every quote of an element's tag lies in an attribute that is written in it. -/
def Element.QuotesCovered (e : Element) (document : Text) : Prop :=
  ∀ i q, e.start ≤ i → i < e.stop → document[i]? = some q → isQuote q = true →
    ∃ found ∈ attributesFrom document[e.start + e.tagName.length]?
        (e.start + 1 + e.tagName.length)
        (document.slice (e.start + 1 + e.tagName.length) e.stop),
      found.1 ≤ i ∧ i < found.1 + found.2.text.length

/-- Whether every quote of an element's tag lies in an attribute, as it is computed. -/
def Element.coversQuotes (e : Element) (document : Text) : Bool :=
  (List.range e.stop).all fun i => i < e.start || !document[i]?.any isQuote ||
    (attributesFrom document[e.start + e.tagName.length]? (e.start + 1 + e.tagName.length)
      (document.slice (e.start + 1 + e.tagName.length) e.stop)).any fun found =>
        found.1 ≤ i && i < found.1 + found.2.text.length

theorem Element.coversQuotes_eq_true_iff {e : Element} {document : Text} :
    e.coversQuotes document = true ↔ e.QuotesCovered document := by
  rw [coversQuotes, List.all_eq_true]
  constructor
  · intro h i q hstart hstop hget hq
    have hi := h i (List.mem_range.2 hstop)
    simpa [hget, hq, Nat.not_lt.2 hstart] using hi
  · intro h i hi
    by_cases hstart : i < e.start
    · simp [hstart]
    cases hget : document[i]? with
    | none => simp
    | some q =>
      cases hq : isQuote q with
      | false => simp [hq]
      | true =>
        obtain ⟨found, hmem, hle, hlt⟩ :=
          h i q (Nat.le_of_not_lt hstart) (List.mem_range.1 hi) hget hq
        rw [Bool.or_eq_true, List.any_eq_true]
        exact .inr ⟨found, hmem, by simp [hle, hlt]⟩

instance (e : Element) (document : Text) : Decidable (e.QuotesCovered document) :=
  decidable_of_iff (e.coversQuotes document = true) Element.coversQuotes_eq_true_iff

theorem Tag.quotesCovered_of_element {tag : Tag} {front back marker : Text}
    (h : (tag.element front.length marker).QuotesCovered (front ++ (tag.text ++ back))) :
    tag.QuotesCovered := by
  intro x q y heq hq
  have hlength := congrArg List.length heq
  simp only [List.length_append, List.length_cons, List.length_nil] at hlength
  have hlt : tag.bodyOffset + x.length < tag.text.length := by
    rw [length_text]
    omega
  have hname : tag.name.text.length < tag.text.length := by
    rw [length_text, bodyOffset]
    omega
  have hget : (front ++ (tag.text ++ back))[front.length + (tag.bodyOffset + x.length)]? =
      some q := by
    have hsplit : tag.text = (.char '<' :: (tag.name.text ++ x)) ++ q :: y := by
      rw [List.cons_append, List.append_assoc, ← heq]
      rfl
    have hat : tag.bodyOffset + x.length = (.char '<' :: (tag.name.text ++ x)).length := by
      simp [bodyOffset]
      omega
    rw [getElem?_append_of_lt front back hlt, hat, hsplit, List.getElem?_append_right (by omega)]
    simp
  have hwindow : attributesFrom
      (front ++ (tag.text ++ back))[front.length + tag.name.text.length]?
      (front.length + 1 + tag.name.text.length)
      ((front ++ (tag.text ++ back)).slice (front.length + 1 + tag.name.text.length)
        (front.length + tag.text.length)) =
      tag.entries.map fun e => (e.1 + (front.length + tag.bodyOffset), e.2) := by
    rw [getElem?_append_of_lt front back hname, getElem?_text, Nat.add_assoc]
    change attributesFrom _ (front.length + tag.bodyOffset)
      (slice _ (front.length + tag.bodyOffset) _) = _
    rw [slice_append, slice_text, entries, ← attributesFrom_add, Nat.zero_add]
  obtain ⟨found, hmem, hle, hlt⟩ := h (front.length + (tag.bodyOffset + x.length)) q
    (Nat.le_add_right _ _) (Nat.add_lt_add_left hlt front.length) hget hq
  rw [element, hwindow] at hmem
  obtain ⟨e, he, rfl⟩ := List.mem_map.1 hmem
  exact ⟨e, he, by dsimp only at hle; omega, by dsimp only at hlt; omega⟩

/-! ## Classes of an element -/

/-- Adding a class to an element that lists it leaves the tag as it is, and otherwise puts the class
behind those that are listed. Either way the class is not added once more to the tag that this
gives. -/
theorem classTokens_relocate_applyClass {document marker newClass : Text} {offset : Int}
    {e : Element} (located : locate? document offset marker = some e)
    (hquotes : e.QuotesCovered document) (hclass : IsClassName newClass) :
    (newClass ∈ classTokens e.classValue? →
      applyClass (e.tagText document) e newClass = e.tagText document) ∧
    (newClass ∉ classTokens e.classValue? →
      classTokens (relocate e (applyClass (e.tagText document) e newClass)).classValue? =
        classTokens e.classValue? ++ [newClass]) ∧
    applyClass (applyClass (e.tagText document) e newClass)
        (relocate e (applyClass (e.tagText document) e newClass)) newClass =
      applyClass (e.tagText document) e newClass := by
  obtain ⟨front, tag, back, rfl, rfl⟩ := Tag.exists_of_locate? located
  have hcovered := Tag.quotesCovered_of_element hquotes
  obtain ⟨tag', htakes, happlied⟩ := tag.exists_takes_applyClass front.length marker
    (hclass.not_mem (c := '>') (by decide)) hclass.1
  obtain ⟨e, hwritten, hmem, heq⟩ := htakes.exists_written_words hclass (.inr hcovered)
  rw [Tag.tagText_element, Tag.classTokens_element, happlied,
    Tag.relocate_element htakes.sets.name_eq, Tag.classTokens_element,
    Tag.applyClass_of_written? hwritten hmem]
  refine ⟨fun hlisted => ?_, fun hnew => ?_, rfl⟩
  · obtain ⟨old, hold, hlisted⟩ := Tag.mem_classes_iff.1 hlisted
    rw [← happlied, Tag.applyClass_of_written? hold hlisted]
  · rcases heq with rfl | heq
    · exact absurd (Tag.mem_classes_iff.2 ⟨e, hwritten, hmem⟩) hnew
    · rw [Tag.classes_eq_words hwritten, heq]

/-- A bare value is put in quotes, and the class stands behind it. -/
theorem classTokens_relocate_applyClass_bare : ∃ e,
    locate? ("<p id='x' class=a>" : Text) 3 = some e ∧ e.QuotesCovered "<p id='x' class=a>" ∧
    applyClass (e.tagText "<p id='x' class=a>") e "b" = ("<p id='x' class=\"a b\">" : Text) ∧
    classTokens (relocate e "<p id='x' class=\"a b\">").classValue? =
      [("a" : Text), ("b" : Text)] ∧
    applyClass (e.tagText "<p id='x' class=a>") e "a" = ("<p id='x' class=a>" : Text) := by
  have located : locate? ("<p id='x' class=a>" : Text) 3 = some ⟨"p", 0, 18,
      [⟨"id", "x", 3, 9, 7, 8, .single⟩, ⟨"class", "a", 10, 17, 16, 17, .bare⟩],
      defaultPathMarker⟩ := by
    decide +kernel
  have covered (spans : List (AttributeSpan Nat)) :
      Element.QuotesCovered ⟨"p", 0, 18, spans, defaultPathMarker⟩ "<p id='x' class=a>" := by
    have inside : ∀ i < 18, (("<p id='x' class=a>" : Text)[i]?).any isQuote = true →
        ∃ found ∈ attributesFrom 'p' 2 (" id='x' class=a>" : Text),
          found.1 ≤ i ∧ i < found.1 + found.2.text.length := by
      decide +kernel
    intro i q _ hi hget hq
    exact inside i hi (by rw [hget, Option.any_some, hq])
  have added : IsClassName "b" := ⟨by decide, List.all_eq_true.1 (by decide)⟩
  have listed : IsClassName "a" := ⟨by decide, List.all_eq_true.1 (by decide)⟩
  have tokens := (classTokens_relocate_applyClass located (covered _) added).2.1
    (by decide)
  have kept := (classTokens_relocate_applyClass located (covered _) listed).1 (by decide +kernel)
  rw [show applyClass (Element.tagText _ _) _ _ = ("<p id='x' class=\"a b\">" : Text) by
    decide +kernel] at tokens
  exact ⟨_, located, covered _, by decide, tokens, kept⟩

end MarkupNaming.Markup
