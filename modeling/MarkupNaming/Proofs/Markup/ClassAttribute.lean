import MarkupNaming.Proofs.Markup.ScannedTag

/-!
# The class attribute

Whether a start tag with at most one class attribute has exactly one after a class was added, the
way a browser reads the tag. Two things stand against it. A class attribute without a value is not
seen by a scan, so a second one is written behind it. And a slash at the end of a last bare value is
taken for the slash of `/>`, so a value that is this slash alone takes up the new attribute.
-/
namespace MarkupNaming.Markup
open Text

/-- In a list with at most one element of a kind there is none, or it stands between others. -/
theorem eq_false_or_exists_split {α : Type} {p : α → Bool} {l : List α} (h : l.countP p ≤ 1) :
    (∀ x ∈ l, p x = false) ∨ ∃ front x back, l = front ++ x :: back ∧ p x = true ∧
      (∀ y ∈ front, p y = false) ∧ ∀ y ∈ back, p y = false := by
  by_cases hall : ∀ x ∈ l, p x = false
  · exact .inl hall
  · simp only [not_forall, Bool.not_eq_false] at hall
    obtain ⟨x, hx, hpx⟩ := hall
    obtain ⟨front, back, rfl⟩ := List.append_of_mem hx
    rw [List.countP_append, List.countP_cons_of_pos hpx] at h
    have hfront : front.countP p = 0 := by omega
    have hback : back.countP p = 0 := by omega
    rw [List.countP_eq_zero] at hfront hback
    exact .inr ⟨front, x, back, rfl, hpx, fun y hy => by simpa using hfront y hy,
      fun y hy => by simpa using hback y hy⟩

/-- A class is a word of its own behind the others, as it is escaped. -/
theorem mem_words_escapeFor {quote : Quote} {value newClass : Text} (hne : newClass ≠ [])
    (hsolid : ∀ c ∈ newClass, isBlank c = false) :
    escapeFor quote newClass ∈ words (escapeFor quote (appendClass value newClass)) := by
  have hword : words (escapeFor quote newClass) = [escapeFor quote newClass] :=
    words_of_solid (escapeFor_ne_nil hne) fun _ => isBlank_eq_false_of_mem_escapeFor hsolid
  unfold appendClass
  dsimp only
  split
  · rw [hword]
    exact List.mem_singleton_self _
  · have hblank : escapeFor quote [.char ' '] = [.char ' '] := by cases quote <;> rfl
    rw [← List.singleton_append, escapeFor_append, escapeFor_append, hblank, List.singleton_append,
      words_append_blank (by decide), hword]
    simp

namespace StartTag
variable {tag : StartTag} {t : Tag}

/-! ## One class attribute -/

/-- Whether a browser reads exactly one class attribute in a tag, which lists a class. In the value
an entity stands for the quote around it. -/
def HasOneClass (tag newClass : Text) : Prop :=
  ∃ quote value, (mentioned tag).filter (·.name == classAttribute) =
    [⟨classAttribute, some (quote, value)⟩] ∧ escapeFor quote newClass ∈ words value

variable {newClass : Text} {init back : List (Gap × Part)} {gap : Gap} {a : Attribute}
  {written : a.IsWritten}

theorem filter_mention_eq_nil {parts : List (Gap × Part)}
    (h : ∀ p ∈ parts, p.2.isNamed classAttribute = false) :
    (parts.map (·.2.mention)).filter (·.name == classAttribute) = [] := by
  rw [List.filter_eq_nil_iff]
  intro m hm hname
  obtain ⟨p, hp, rfl⟩ := List.mem_map.1 hm
  rw [Part.name_mention] at hname
  have hnamed := h p hp
  rw [Part.isNamed, hname] at hnamed
  cases hnamed

theorem filter_mentioned_text (hapart : tag.IsApart)
    (hparts : tag.parts = init ++ (gap, .valued a written) :: back)
    (hinit : ∀ p ∈ init, p.2.isNamed classAttribute = false)
    (hback : ∀ p ∈ back, p.2.isNamed classAttribute = false)
    (hname : lower a.name = classAttribute) :
    (mentioned tag.text).filter (·.name == classAttribute) =
      [⟨classAttribute, some (a.quote, a.value)⟩] := by
  have hmention : (Part.valued a written).mention = ⟨classAttribute, some (a.quote, a.value)⟩ := by
    rw [Part.mention, Attribute.mention, hname]
  rw [mentioned_text tag hapart, hparts, List.map_append, List.map_cons, List.filter_append,
    filter_mention_eq_nil hinit, List.nil_append, List.filter_cons, filter_mention_eq_nil hback,
    hmention]
  simp

/-! ## Adding a class -/

section Added
variable {start : Nat} {marker : Text}

/-- A class that is put behind the others is in the one class attribute. -/
theorem hasOneClass_of_not_mem (htext : t.text = tag.text)
    (hparts : tag.parts = init ++ (gap, .valued a written) :: back)
    (hinit : ∀ p ∈ init, p.2.isNamed classAttribute = false)
    (hback : ∀ p ∈ back, p.2.isNamed classAttribute = false)
    (hname : lower a.name = classAttribute) (hapart : back ≠ [] → tag.IsApart)
    (found : t.written? classAttribute =
      some ((renderParts init).length + gap.text.length, a))
    (hne : newClass ≠ []) (hsolid : ∀ c ∈ newClass, isBlank c = false)
    (hmem : newClass ∉ words a.value) :
    HasOneClass (applyClass t.text (t.element start marker) newClass) newClass := by
  have hpos : (renderParts init).length + gap.text.length + t.bodyOffset =
      1 + tag.name.text.length + (renderParts init).length + gap.text.length := by
    rw [Tag.bodyOffset, (of_text_eq htext).1]
    omega
  have happlied : applyClass t.text (t.element start marker) newClass =
      (tag.withValue init gap written back (appendClass a.value newClass)).text := by
    refine (Tag.applyClass_of_not_mem found hmem hne).trans ?_
    rw [htext]
    exact replaceValue_text hparts hpos _
  rw [happlied]
  refine ⟨a.quote.enclosing, escapeFor a.quote (appendClass a.value newClass),
    filter_mentioned_text (isApart_withValue hparts hapart _) rfl hinit hback hname, ?_⟩
  rw [← escapeFor_enclosing]
  exact mem_words_escapeFor hne hsolid

/-- A class that was found is in the one class attribute, as it is or behind the others. -/
theorem hasOneClass_of_found (htext : t.text = tag.text)
    (hparts : tag.parts = init ++ (gap, .valued a written) :: back)
    (hinit : ∀ p ∈ init, p.2.isNamed classAttribute = false)
    (hback : ∀ p ∈ back, p.2.isNamed classAttribute = false)
    (hname : lower a.name = classAttribute) (hapart : tag.IsApart)
    (found : t.written? classAttribute =
      some ((renderParts init).length + gap.text.length, a))
    (hne : newClass ≠ []) (hsolid : ∀ c ∈ newClass, isBlank c = false) :
    HasOneClass (applyClass t.text (t.element start marker) newClass) newClass := by
  by_cases hmem : newClass ∈ words a.value
  · rw [Tag.applyClass_of_written? found hmem, htext]
    obtain ⟨q, hmark, -, hq⟩ := Attribute.exists_enclosing_mark written
    refine ⟨a.quote, a.value, filter_mentioned_text hapart hparts hinit hback hname, ?_⟩
    rwa [escapeFor_eq_self hmark fun hc => hq (mem_of_mem_words hmem hc)]
  · exact hasOneClass_of_not_mem htext hparts hinit hback hname (fun _ => hapart) found hne hsolid
      hmem

/-- A new class attribute is the only one exactly if there was none before. -/
theorem hasOneClass_of_absent_iff {u : StartTag} (htext : t.text = u.text)
    (absent : t.written? classAttribute = none)
    (hplace : u.close = [.char '>'] → u.front.getLast? ≠ some (.char '/'))
    (hne : newClass ≠ []) (hsolid : ∀ c ∈ newClass, isBlank c = false) :
    HasOneClass (applyClass t.text (t.element start marker) newClass) newClass ↔
      ∀ p ∈ u.parts, p.2.isNamed classAttribute = false := by
  have written : (Tag.newAttribute classAttribute newClass).IsWritten :=
    Tag.isWritten_newAttribute (by decide) newClass
  have hapart := u.isApart_add _ written (by simp [Tag.newAttribute])
  rw [Tag.applyClass_of_absent absent hne, htext, insertAttribute_text (by decide) hplace]
  have hname : lower (Tag.newAttribute classAttribute newClass).name = classAttribute := by
    change lower classAttribute = classAttribute
    decide
  constructor
  · rintro ⟨quote, value, hfilter, -⟩ p hp
    have hadded : (u.add _ written).parts = u.parts ++ [(newGap, .valued _ written)] := rfl
    rw [mentioned_text _ hapart, hadded, List.map_append, List.filter_append] at hfilter
    have hnone : (u.parts.map (·.2.mention)).filter (·.name == classAttribute) = [] := by
      have hlength := congrArg List.length hfilter
      rw [List.length_append] at hlength
      refine List.length_eq_zero_iff.1 ?_
      simpa [Part.mention, Attribute.mention, hname] using hlength
    have hother := List.filter_eq_nil_iff.1 hnone _ (List.mem_map_of_mem hp)
    rw [Part.name_mention] at hother
    simpa [Part.isNamed] using hother
  · intro h
    refine ⟨.double, escapeFor .double newClass,
      filter_mentioned_text hapart rfl h (by simp) hname, ?_⟩
    rw [words_of_solid (escapeFor_ne_nil hne) fun _ => isBlank_eq_false_of_mem_escapeFor hsolid]
    exact List.mem_singleton_self _

end Added

/-! ## One class attribute afterwards -/

section Result
variable {start : Nat} {marker : Text}

/-- Where a tag ends in a bare value that is a slash, a new class attribute is read as the value of
the last attribute. -/
theorem not_hasOneClass_of_slash (htext : t.text = tag.text)
    (absent : t.written? classAttribute = none)
    (hflag : ∀ p ∈ tag.parts, p.2.isNamed classAttribute = true →
      ∃ flag isName, p.2 = .flag flag isName)
    (hends : tag.EndsInBare a) (hvalue : a.value = [.char '/'])
    (hne : newClass ≠ []) (hsolid : ∀ c ∈ newClass, isBlank c = false) :
    ¬ HasOneClass (applyClass t.text (t.element start marker) newClass) newClass := by
  obtain ⟨hbare, ⟨gap, written, hlast⟩, hclose⟩ := hends
  obtain ⟨init, hparts⟩ := List.getLast?_eq_some_iff.1 hlast
  have hname : isAttributeName classAttribute = true := by decide
  obtain ⟨v, hv⟩ := exists_mentioned_insertAttribute hparts hbare hvalue hclose hname hsolid
  rintro ⟨quote, value, hfilter, -⟩
  rw [Tag.applyClass_of_absent absent hne, htext, hv] at hfilter
  have hmem : (⟨classAttribute, some (quote, value)⟩ : Mention) ∈
      init.map (·.2.mention) ++ [⟨lower a.name, some (.bare, v)⟩] :=
    (List.mem_filter.1 (hfilter ▸ List.mem_cons_self)).1
  rcases List.mem_append.1 hmem with hmem | hmem
  · obtain ⟨p, hp, hmention⟩ := List.mem_map.1 hmem
    have hnamed : p.2.isNamed classAttribute = true := by
      rw [Part.isNamed, ← Part.name_mention, hmention]
      exact beq_self_eq_true _
    obtain ⟨flag, isName, hpart⟩ := hflag p (by simp [hparts, hp]) hnamed
    rw [hpart] at hmention
    have hnone : none = some (quote, value) := congrArg Mention.value? hmention
    cases hnone
  · have hname : classAttribute = lower a.name :=
      congrArg Mention.name (List.mem_singleton.1 hmem)
    obtain ⟨flag, isName, hpart⟩ := hflag (gap, .valued a written) (by simp [hparts])
      (beq_iff_eq.2 hname.symm)
    cases hpart

/-- Where no class attribute has a value, a new one is the only one exactly if there was none and no
value is the slash at the end. -/
theorem hasOneClass_iff_of_unvalued (htext : t.text = tag.text)
    (hflag : ∀ p ∈ tag.parts, p.2.isNamed classAttribute = true →
      ∃ flag isName, p.2 = .flag flag isName)
    (hne : newClass ≠ []) (hsolid : ∀ c ∈ newClass, isBlank c = false) :
    HasOneClass (applyClass t.text (t.element start marker) newClass) newClass ↔
      (∀ p ∈ tag.parts, p.2.isNamed classAttribute = false) ∧
        ¬ ∃ a, tag.EndsInBare a ∧ a.value = [.char '/'] := by
  obtain ⟨u, hu⟩ := tag.exists_scannedAs
  have htext' : t.text = u.text := htext.trans hu.text_eq.symm
  have absent := written?_eq_none htext' hu.leaves (hu.exists_flag hflag)
  by_cases hslash : ∃ a, tag.EndsInBare a ∧ a.value = [.char '/']
  · refine iff_of_false ?_ fun h => h.2 hslash
    obtain ⟨a, hends, hvalue⟩ := hslash
    exact not_hasOneClass_of_slash htext absent hflag hends hvalue hne hsolid
  · rw [hasOneClass_of_absent_iff htext' absent (hu.getLast?_front_ne hslash) hne hsolid,
      hu.forall_isNamed_iff, and_iff_left hslash]

/-- A bare value is one word without quotes. -/
theorem of_encloses_bare {value : Text} (h : Quote.bare.encloses value) :
    words value = [value] ∧ escapeFor .bare value = value := by
  refine ⟨words_of_solid h.1 fun c hc => (isBareChar_eq_true_iff.1 (h.2 c hc)).1, ?_⟩
  refine escapeFor_eq_self (q := '"') rfl fun hmem => ?_
  exact (isBareChar_eq_true_iff.1 (h.2 _ hmem)).2 (by decide)

/-- Where the class attribute is the last one and a scan takes its slash away, it lists the class
afterwards, unless that was taken for its value. -/
theorem hasOneClass_iff_of_slashed {name : TagName} {value : Text}
    (htext : t.text = StartTag.text
      ⟨name, init ++ [(gap, .valued a written)], [], List.forall_mem_nil _, false⟩)
    (written' : ({ a with value := value } : Attribute).IsWritten) (hbare : a.quote = .bare)
    (hvalue : a.value = value ++ [Code.char '/'])
    (hinit : ∀ p ∈ init, p.2.isNamed classAttribute = false)
    (hname : lower a.name = classAttribute) (hapart : StartTag.IsApart
      ⟨name, init ++ [(gap, .valued a written)], [], List.forall_mem_nil _, false⟩)
    (hne : newClass ≠ []) (hsolid : ∀ c ∈ newClass, isBlank c = false) :
    HasOneClass (applyClass t.text (t.element start marker) newClass) newClass ↔
      newClass ≠ value := by
  have hu : ScannedAs ⟨name, init ++ [(gap, .valued a written)], [], List.forall_mem_nil _, false⟩
      ⟨name, init ++ [(gap, .valued { a with value := value } written')], [],
        List.forall_mem_nil _, true⟩ :=
    .slashed written written' hbare hvalue
  have htext' := htext.trans hu.text_eq.symm
  have found := written?_eq_some htext' hu.leaves rfl hinit hname
  have hencloses := written'.value
  have hencloses' := written.value
  change a.quote.encloses value at hencloses
  rw [hbare] at hencloses hencloses'
  by_cases hsame : newClass = value
  · refine iff_of_false ?_ fun h => h hsame
    have hmem : newClass ∈ words value := by
      rw [(of_encloses_bare hencloses).1, hsame]
      exact List.mem_singleton_self _
    rintro ⟨quote, value', hfilter, hlisted⟩
    rw [Tag.applyClass_of_written? found hmem, htext,
      filter_mentioned_text hapart rfl hinit (by simp) hname] at hfilter
    obtain ⟨rfl, rfl⟩ : a.quote = quote ∧ a.value = value' := by simpa using hfilter
    rw [hbare, (of_encloses_bare hencloses').1, List.mem_singleton, hvalue, hsame,
      (of_encloses_bare hencloses).2] at hlisted
    simp at hlisted
  · refine iff_of_true (hasOneClass_of_not_mem htext' rfl hinit (by simp) hname (by simp) found
      hne hsolid ?_) hsame
    change newClass ∉ words value
    rw [(of_encloses_bare hencloses).1]
    simpa using hsame

/-- Where the class attribute has a value, it lists the class afterwards, unless that was taken for
its value without a slash at the end. -/
theorem hasOneClass_iff_of_valued (htext : t.text = tag.text)
    (hparts : tag.parts = init ++ (gap, .valued a written) :: back)
    (hinit : ∀ p ∈ init, p.2.isNamed classAttribute = false)
    (hback : ∀ p ∈ back, p.2.isNamed classAttribute = false)
    (hname : lower a.name = classAttribute) (hapart : tag.IsApart)
    (hne : newClass ≠ []) (hsolid : ∀ c ∈ newClass, isBlank c = false) :
    HasOneClass (applyClass t.text (t.element start marker) newClass) newClass ↔
      ¬ ∃ b, tag.EndsInBare b ∧ lower b.name = classAttribute ∧
        b.value = newClass ++ [Code.char '/'] := by
  obtain ⟨u, hu⟩ := tag.exists_scannedAs
  have htext' : t.text = u.text := htext.trans hu.text_eq.symm
  have leaves := hu.leaves
  cases hu with
  | same =>
    have found := written?_eq_some htext leaves hparts hinit hname
    refine iff_of_true
      (hasOneClass_of_found htext hparts hinit hback hname hapart found hne hsolid) ?_
    rintro ⟨b, hb, -, hvalue⟩
    have hslash := leaves.value_eq hb (by rw [hvalue, List.getLast?_concat])
    rw [hvalue, List.append_left_eq_self] at hslash
    exact hne hslash
  | @slashed name init' gap' b value hb written' hbare hvalue =>
    rcases List.eq_nil_or_concat back with rfl | ⟨back, p, rfl⟩
    -- The class attribute is the last one.
    · obtain ⟨rfl, hlast⟩ := List.append_inj' hparts rfl
      cases hlast
      rw [hasOneClass_iff_of_slashed htext written' hbare hvalue hinit hname hapart hne hsolid]
      refine not_congr ⟨fun h => ?_, ?_⟩
      · exact ⟨a, ⟨hbare, ⟨gap, written, List.getLast?_concat⟩, rfl⟩, hname, by rw [hvalue, h]⟩
      · rintro ⟨c, ⟨-, ⟨_, _, hlast⟩, -⟩, -, hc⟩
        rw [List.getLast?_concat] at hlast
        cases hlast
        rw [hvalue, List.append_left_inj] at hc
        exact hc.symm
    -- Another attribute is the last one.
    · have hsplit : init' ++ [(gap', .valued b hb)] =
          (init ++ (gap, .valued a written) :: back) ++ [p] := by
        simpa using hparts
      obtain ⟨rfl, hlast⟩ := List.append_inj' hsplit rfl
      obtain rfl := List.singleton_inj.1 hlast
      have found := written?_eq_some htext' leaves (List.append_assoc _ _ _) hinit hname
      refine iff_of_true
        (hasOneClass_of_found htext hparts hinit hback hname hapart found hne hsolid) ?_
      rintro ⟨c, ⟨-, ⟨_, _, hlast⟩, -⟩, hc, -⟩
      rw [List.getLast?_concat] at hlast
      cases hlast
      have hother := hback (gap', .valued b hb) (by simp)
      rw [Part.isNamed, beq_eq_false_iff_ne] at hother
      exact hother hc

/-- A tag with at most one class attribute has exactly one after a class was added, and it lists the
class, unless the attribute has no value, or there is none and a new one is read as the value of
another attribute, or the class is the value without the slash at the end. -/
theorem hasOneClass_applyClass_iff_of_text (htext : t.text = tag.text) (hapart : tag.IsApart)
    (honce : tag.parts.countP (·.2.isNamed classAttribute) ≤ 1)
    (hne : newClass ≠ []) (hsolid : ∀ c ∈ newClass, isBlank c = false) :
    HasOneClass (applyClass t.text (t.element start marker) newClass) newClass ↔
      (∀ p ∈ tag.parts, p.2.isNamed classAttribute = true → ∃ a written, p.2 = .valued a written) ∧
      ¬ ((∀ p ∈ tag.parts, p.2.isNamed classAttribute = false) ∧
        ∃ a, tag.EndsInBare a ∧ a.value = [.char '/']) ∧
      ¬ ∃ a, tag.EndsInBare a ∧ lower a.name = classAttribute ∧
        a.value = newClass ++ [Code.char '/'] := by
  rcases eq_false_or_exists_split honce with
    hnone | ⟨init, ⟨gap, part⟩, back, hparts, hpart, hinit, hback⟩
  -- No class attribute.
  · rw [hasOneClass_iff_of_unvalued htext (fun p hp hnamed => ?_) hne hsolid]
    · refine ⟨fun h => ⟨fun p hp hnamed => ?_, fun hslash => h.2 hslash.2, ?_⟩,
        fun h => ⟨hnone, fun hslash => h.2.1 ⟨hnone, hslash⟩⟩⟩
      · rw [hnone p hp] at hnamed
        cases hnamed
      · rintro ⟨a, ⟨-, ⟨gap, written, hlast⟩, -⟩, hname, -⟩
        have hnamed := hnone _ (List.mem_of_getLast? hlast)
        rw [Part.isNamed, beq_eq_false_iff_ne] at hnamed
        exact hnamed hname
    · rw [hnone p hp] at hnamed
      cases hnamed
  have honly : ∀ p ∈ tag.parts, p.2.isNamed classAttribute = true → p = (gap, part) := by
    intro p hp hnamed
    rw [hparts, List.mem_append, List.mem_cons] at hp
    rcases hp with hp | hp | hp
    · rw [hinit p hp] at hnamed
      cases hnamed
    · exact hp
    · rw [hback p hp] at hnamed
      cases hnamed
  have hmem : (gap, part) ∈ tag.parts := by simp [hparts]
  cases part with
  -- A class attribute without a value.
  | flag name isName =>
    rw [hasOneClass_iff_of_unvalued htext
      (fun p hp hnamed => ⟨name, isName, by rw [honly p hp hnamed]⟩) hne hsolid]
    refine iff_of_false (fun h => ?_) (fun h => ?_)
    · rw [h.1 _ hmem] at hpart
      cases hpart
    · obtain ⟨a, written, hvalued⟩ := h.1 _ hmem hpart
      cases hvalued
  -- A class attribute with a value.
  | valued a written =>
    rw [hasOneClass_iff_of_valued htext hparts hinit hback (beq_iff_eq.1 hpart) hapart hne hsolid]
    refine ⟨fun h => ⟨fun p hp hnamed => ⟨a, written, by rw [honly p hp hnamed]⟩, ?_, h⟩,
      fun h => h.2.2⟩
    rintro ⟨hnone, -⟩
    rw [hnone _ hmem] at hpart
    cases hpart

end Result

end StartTag

/-- After a class was added to an element, a browser reads exactly one class attribute in its tag,
and in it the class, if there was at most one before, with three exceptions. The class attribute has
no value, so that a second one is written. There is none, and the tag ends in a bare value that is a
slash, so that the new one is read as this value. And the class attribute ends the tag with a bare
value that is the class with a slash behind it, so that the class is taken for listed. -/
theorem hasOneClass_applyClass_iff {document marker newClass : Text} {offset : Int} {e : Element}
    {tag : StartTag} (located : locate? document offset marker = some e)
    (htag : e.tagText document = tag.text) (hapart : tag.IsApart)
    (honce : tag.parts.countP (·.2.isNamed classAttribute) ≤ 1)
    (hne : newClass ≠ []) (hsolid : ∀ c ∈ newClass, isBlank c = false) :
    StartTag.HasOneClass (applyClass (e.tagText document) e newClass) newClass ↔
      (∀ p ∈ tag.parts, p.2.isNamed classAttribute = true → ∃ a written, p.2 = .valued a written) ∧
      ¬ ((∀ p ∈ tag.parts, p.2.isNamed classAttribute = false) ∧
        ∃ a, tag.EndsInBare a ∧ a.value = [.char '/']) ∧
      ¬ ∃ a, tag.EndsInBare a ∧ lower a.name = classAttribute ∧
        a.value = newClass ++ [Code.char '/'] := by
  obtain ⟨front, t, back, rfl, rfl⟩ := Tag.exists_of_locate? located
  rw [Tag.tagText_element] at htag ⊢
  exact StartTag.hasOneClass_applyClass_iff_of_text htag hapart honce hne hsolid

/-- The tag `<p hidden CLASS = 'a'/>`. -/
def hiddenTag : StartTag where
  name := ⟨"p", by decide⟩
  parts := [(StartTag.newGap, .flag "hidden" (by decide)),
    (StartTag.newGap, .valued ⟨"CLASS", [.char ' '], [.char ' '], .single, "a"⟩
      ⟨by decide, StartTag.newGap.blank, StartTag.newGap.blank,
        (by decide : .char '\'' ∉ ("a" : Text))⟩)]
  gap := []
  blank := List.forall_mem_nil _
  closesItself := true

/-- A class in single quotes under a name in capitals, behind a name without a value. -/
theorem hasOneClass_applyClass_iff_capitals :
    ∃ e, locate? hiddenTag.text 0 = some e ∧ e.tagText hiddenTag.text = hiddenTag.text ∧
      hiddenTag.IsApart ∧ hiddenTag.parts.countP (·.2.isNamed classAttribute) ≤ 1 ∧
      applyClass (e.tagText hiddenTag.text) e "it's" = ("<p hidden CLASS = 'a it&#39;s'/>" : Text) ∧
      StartTag.HasOneClass (applyClass (e.tagText hiddenTag.text) e "it's") "it's" := by
  have located : locate? hiddenTag.text 0 = some
      ⟨"p", 0, 23, [⟨"class", "a", 10, 21, 19, 20, .single⟩], defaultPathMarker⟩ := by
    decide +kernel
  have hapart : hiddenTag.IsApart := by
    rintro p ⟨⟩ a written ⟨⟩ ⟨⟩
  have honce : hiddenTag.parts.countP (·.2.isNamed classAttribute) ≤ 1 := by decide
  have hends (a : Attribute) : ¬ hiddenTag.EndsInBare a := by
    rintro ⟨-, -, hclose⟩
    exact absurd hclose (by decide)
  have hsolid : ∀ c ∈ ("it's" : Text), (!isBlank c) = true := List.all_eq_true.1 (by decide)
  refine ⟨_, located, by decide, hapart, honce, by decide,
    (hasOneClass_applyClass_iff located (by decide) hapart honce (by decide)
      fun c hc => by simpa using hsolid c hc).2
      ⟨?_, fun h => h.2.elim fun a ha => hends a ha.1,
        fun h => h.elim fun a ha => hends a ha.1⟩⟩
  have hvalued : ∀ p ∈ hiddenTag.parts, p.2.isNamed classAttribute = true →
      p.2.mention.value?.isSome = true := by
    decide
  rintro ⟨gap, part⟩ hp hnamed
  have hsome := hvalued _ hp hnamed
  cases part with
  | flag name isName => cases hsome
  | valued a written => exact ⟨a, written, rfl⟩

/-- Behind a class attribute without a value a second one is written. -/
theorem not_hasOneClass_flag :
    ∃ e, ∃ tag : StartTag, locate? ("<p class>" : Text) 0 = some e ∧
      e.tagText "<p class>" = tag.text ∧ tag.IsApart ∧
      tag.parts.countP (·.2.isNamed classAttribute) = 1 ∧
      applyClass (e.tagText "<p class>") e "c" = ("<p class class=\"c\">" : Text) ∧
      ¬ StartTag.HasOneClass (applyClass (e.tagText "<p class>") e "c") "c" := by
  have located : locate? ("<p class>" : Text) 0 = some ⟨"p", 0, 9, [], defaultPathMarker⟩ := by
    decide +kernel
  have happlied : applyClass (Element.tagText ⟨"p", 0, 9, [], defaultPathMarker⟩ "<p class>")
      ⟨"p", 0, 9, [], defaultPathMarker⟩ "c" = ("<p class class=\"c\">" : Text) := by
    decide +kernel
  have htwice : (mentioned ("<p class class=\"c\">" : Text)).filter (·.name == classAttribute) =
      [⟨"class", none⟩, ⟨"class", some (.double, "c")⟩] := by
    decide
  refine ⟨_, ⟨⟨"p", by decide⟩, [(StartTag.newGap, .flag "class" (by decide))], [], by simp, false⟩,
    located, by decide, ?_, by decide, happlied, ?_⟩
  · rintro p ⟨⟩ a isWritten ⟨⟩
  · rw [happlied]
    rintro ⟨quote, value, hfilter, -⟩
    rw [htwice] at hfilter
    cases hfilter

end MarkupNaming.Markup
