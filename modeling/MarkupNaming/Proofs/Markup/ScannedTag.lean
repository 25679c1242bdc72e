import MarkupNaming.Proofs.Markup.Repetition
import MarkupNaming.Proofs.Markup.StartTag

/-!
# Start tags under a scan

What a scan finds in a start tag, and what becomes of the tag when an attribute is written into it
or gets a new value. A scan and a reader agree but for one slash: at the end of a last bare value a
scan takes it for the slash of `/>`. A value that is this slash alone keeps it, but then a new
attribute is put in front of the slash and is read as the value.
-/
namespace MarkupNaming.Markup
open Text

/-! ## Attributes of a start tag as a scan finds them -/

section Listed
variable {parts init back : List (Gap × Part)} {gap : Gap} {pos : Nat} {name : Text}
  {a : Attribute} {written : a.IsWritten}

theorem renderParts_append (parts back : List (Gap × Part)) :
    renderParts (parts ++ back) = renderParts parts ++ renderParts back := by
  simp [renderParts]

theorem listedParts_append (pos : Nat) (parts back : List (Gap × Part)) :
    listedParts pos (parts ++ back) =
      listedParts pos parts ++ listedParts (pos + (renderParts parts).length) back := by
  induction parts generalizing pos with
  | nil => simp [listedParts]
  | cons p parts ih =>
    obtain ⟨gap, part⟩ := p
    rw [List.cons_append, listedParts, ih, listedParts, renderParts_cons, List.append_assoc]
    simp [Nat.add_assoc]

theorem exists_of_mem_listedParts {e : Nat × Attribute} (h : e ∈ listedParts pos parts) :
    ∃ p ∈ parts, ∃ written, p.2 = .valued e.2 written := by
  induction parts generalizing pos with
  | nil => cases h
  | cons p parts ih =>
    obtain ⟨gap, part⟩ := p
    rw [listedParts, List.mem_append] at h
    rcases h with h | h
    · cases part with
      | flag => cases h
      | valued a written =>
        obtain rfl := List.mem_singleton.1 h
        exact ⟨_, List.mem_cons_self, written, rfl⟩
    · obtain ⟨p, hp, hvalued⟩ := ih h
      exact ⟨p, List.mem_cons_of_mem _ hp, hvalued⟩

/-- Whether an attribute has a name, be it with a value or without one. -/
def Part.isNamed (name : Text) (part : Part) : Bool := part.lowerName == name

theorem find?_listedParts_eq_none
    (h : ∀ p ∈ parts, p.2.isNamed name = true → ∃ flag isName, p.2 = .flag flag isName) :
    (listedParts pos parts).find? (fun e => lower e.2.name == name) = none := by
  rw [List.find?_eq_none]
  intro e he hname
  obtain ⟨p, hp, written, hvalued⟩ := exists_of_mem_listedParts he
  obtain ⟨flag, isName, hflag⟩ := h p hp (by rw [hvalued]; exact hname)
  rw [hvalued] at hflag
  cases hflag

theorem find?_listedParts_append (hinit : ∀ p ∈ init, p.2.isNamed name = false)
    (hname : lower a.name = name) :
    (listedParts pos (init ++ (gap, .valued a written) :: back)).find?
      (fun e => lower e.2.name == name) =
        some (pos + (renderParts init).length + gap.text.length, a) := by
  rw [listedParts_append, List.find?_append, find?_listedParts_eq_none, Option.none_or, listedParts]
  · simp [Part.entries, hname]
  · intro p hp hnamed
    rw [hinit p hp] at hnamed
    cases hnamed

end Listed

namespace StartTag
variable {tag : StartTag} {t : Tag} {init back : List (Gap × Part)} {gap : Gap} {a : Attribute}
  {written : a.IsWritten}

/-- Whether a scan takes no slash from the last attribute. -/
def Leaves (tag : StartTag) : Prop := ∀ p ∈ tag.parts.getLast?, p.2.Leaves tag.close

theorem startsOutside_isWord (tag : StartTag) :
    StartsOutside isWord (renderParts tag.parts ++ tag.close) := by
  intro c hc
  have hname := (follows_renderParts tag.isEnding_close.follows tag.parts).startsOutside c hc
  simp only [isNameChar, Bool.or_eq_false_iff] at hname
  exact hname.1.1.1

/-- The name and the rest of a tag are read off its text. -/
theorem of_text_eq (h : t.text = tag.text) :
    t.name.text = tag.name.text ∧
      t.body ++ [Code.char '>'] = renderParts tag.parts ++ tag.close := by
  have hname := t.name.tagName?_append (t.startsOutside_body [])
  have hname' := tag.name.tagName?_append tag.startsOutside_isWord
  have hsame : t.name.text = tag.name.text := by
    change tagName? t.text = _ at hname
    rw [← text_eq, ← h, hname] at hname'
    exact Option.some.inj hname'
  rw [Tag.text, text_eq, hsame] at h
  exact ⟨hsame, List.append_cancel_left (List.cons.inj h).2⟩

/-- A scan finds the attributes that have a value, if it takes no slash from the last one. -/
theorem entries_eq (h : t.text = tag.text) (hleaves : tag.Leaves) :
    t.entries = listedParts 0 tag.parts := by
  rw [Tag.entries, (of_text_eq h).2,
    attributesFrom_renderParts tag.isEnding_close (eachBefore_leaves hleaves)]

/-- Under a name a scan finds the first attribute that has it and a value. -/
theorem written?_eq_some {name : Text} (htext : t.text = tag.text) (hleaves : tag.Leaves)
    (hparts : tag.parts = init ++ (gap, .valued a written) :: back)
    (hinit : ∀ p ∈ init, p.2.isNamed name = false) (hname : lower a.name = name) :
    t.written? name = some ((renderParts init).length + gap.text.length, a) := by
  rw [Tag.written?, entries_eq htext hleaves, hparts, find?_listedParts_append hinit hname,
    Nat.zero_add]

/-- Under a name of which there are but attributes without a value a scan finds nothing. -/
theorem written?_eq_none {name : Text} (htext : t.text = tag.text) (hleaves : tag.Leaves)
    (h : ∀ p ∈ tag.parts, p.2.isNamed name = true → ∃ flag isName, p.2 = .flag flag isName) :
    t.written? name = none := by
  rw [Tag.written?, entries_eq htext hleaves, find?_listedParts_eq_none h]

/-! ## The slash at the end -/

/-- Whether a tag ends in the bare value of an attribute, with the `>` right behind it. -/
def EndsInBare (tag : StartTag) (a : Attribute) : Prop :=
  a.quote = .bare ∧ (∃ gap written, tag.parts.getLast? = some (gap, .valued a written)) ∧
    tag.close = [.char '>']

/-- A tag as a scan takes it: as it is, or with the slash at the end of its last bare value for the
slash of `/>`. -/
inductive ScannedAs : StartTag → StartTag → Prop
  | same {tag : StartTag} (leaves : tag.Leaves) : ScannedAs tag tag
  | slashed {name : TagName} {init : List (Gap × Part)} {gap : Gap} {a : Attribute} {value : Text}
    (written : a.IsWritten) (written' : ({ a with value := value } : Attribute).IsWritten)
    (hbare : a.quote = .bare) (hvalue : a.value = value ++ [Code.char '/']) :
    ScannedAs ⟨name, init ++ [(gap, .valued a written)], [], List.forall_mem_nil _, false⟩
      ⟨name, init ++ [(gap, .valued { a with value := value } written')], [],
        List.forall_mem_nil _, true⟩

theorem Leaves.value_eq (hleaves : tag.Leaves) {a : Attribute} (ha : tag.EndsInBare a)
    (hslash : a.value.getLast? = some (.char '/')) : a.value = [.char '/'] := by
  obtain ⟨hbare, ⟨gap, written, hlast⟩, hclose⟩ := ha
  rcases hleaves _ hlast a written rfl hbare with hlength | hnot | hnot
  · obtain ⟨c, hc⟩ := List.length_eq_one_iff.1 hlength
    rw [hc] at hslash ⊢
    simpa using hslash
  · exact absurd hslash hnot
  · rw [hclose] at hnot
    exact absurd rfl hnot

theorem close_eq_of_head? (h : tag.close.head? = some (.char '>')) :
    tag.gap = [] ∧ tag.closesItself = false := by
  have hgap : tag.gap = [] := by
    cases hgap : tag.gap with
    | nil => rfl
    | cons c gap =>
      have hc := tag.blank c (by simp [hgap])
      rw [close, hgap] at h
      obtain rfl : c = '>' := by simpa using h
      exact absurd hc (by decide)
  refine ⟨hgap, ?_⟩
  cases hcloses : tag.closesItself with
  | false => rfl
  | true => simp [close, hgap, hcloses] at h

/-- A scan takes every tag in one of the two ways. -/
theorem exists_scannedAs (tag : StartTag) : ∃ u, tag.ScannedAs u := by
  by_cases hleaves : tag.Leaves
  · exact ⟨tag, .same hleaves⟩
  -- Otherwise the last attribute is bare, and its slash stands in front of the `>`.
  simp only [Leaves, Part.Leaves, LeavesSlash, not_forall, not_or, Classical.not_not] at hleaves
  obtain ⟨⟨gap, part⟩, hlast, a, written, hpart, hbare, hlength, hslash, hclose⟩ := hleaves
  obtain ⟨hgap, hcloses⟩ := close_eq_of_head? hclose
  obtain ⟨init, hparts⟩ := List.getLast?_eq_some_iff.1 (Option.mem_def.1 hlast)
  obtain ⟨value, hvalue⟩ := List.getLast?_eq_some_iff.1 hslash
  have hencloses := written.value
  rw [hbare] at hencloses
  have hne : value ≠ [] := by
    rintro rfl
    exact hlength (by rw [hvalue]; rfl)
  have written' : ({ a with value := value } : Attribute).IsWritten := by
    refine ⟨written.name, written.gapBefore, written.gapAfter, ?_⟩
    change a.quote.encloses value
    rw [hbare]
    exact ⟨hne, fun c hc => hencloses.2 c (by rw [hvalue]; exact List.mem_append_left _ hc)⟩
  obtain ⟨name, parts, blanks, blank, closesItself⟩ := tag
  dsimp only at hgap hcloses hparts hpart
  subst hgap hcloses hparts hpart
  exact ⟨_, .slashed written written' hbare hvalue⟩

namespace ScannedAs
variable {u : StartTag}

theorem text_eq (h : tag.ScannedAs u) : u.text = tag.text := by
  cases h with
  | same => rfl
  | slashed written written' hbare hvalue =>
    simp [StartTag.text, front, close, renderParts, Part.text, Attribute.text, Attribute.opening,
      hbare, hvalue, Quote.mark]

theorem leaves (h : tag.ScannedAs u) : u.Leaves := by
  cases h with
  | same leaves => exact leaves
  | slashed =>
    intro p _ a _ _ _
    refine .inr (.inr ?_)
    simp [close]

/-- The names are taken as they are. -/
theorem lowerName_eq (h : tag.ScannedAs u) :
    u.parts.map (·.2.lowerName) = tag.parts.map (·.2.lowerName) := by
  cases h with
  | same => rfl
  | slashed => simp [Part.lowerName]

theorem forall_isNamed_iff {name : Text} (h : tag.ScannedAs u) :
    (∀ p ∈ u.parts, p.2.isNamed name = false) ↔ ∀ p ∈ tag.parts, p.2.isNamed name = false := by
  have hmap (parts : List (Gap × Part)) : (∀ p ∈ parts, p.2.isNamed name = false) ↔
      ∀ n ∈ parts.map (·.2.lowerName), (n == name) = false := by
    rw [List.forall_mem_map]
    rfl
  rw [hmap, hmap, h.lowerName_eq]

/-- No attribute without a value is taken for one with a value. -/
theorem exists_flag {name : Text} (h : tag.ScannedAs u)
    (hflag : ∀ p ∈ tag.parts, p.2.isNamed name = true → ∃ flag isName, p.2 = .flag flag isName) :
    ∀ p ∈ u.parts, p.2.isNamed name = true → ∃ flag isName, p.2 = .flag flag isName := by
  cases h with
  | same => exact hflag
  | slashed written written' hbare hvalue =>
    intro p hp hnamed
    rcases List.mem_append.1 hp with hp | hp
    · exact hflag p (List.mem_append_left _ hp) hnamed
    · obtain rfl := List.mem_singleton.1 hp
      obtain ⟨flag, isName, hpart⟩ := hflag _ (List.mem_append_right _ List.mem_cons_self) hnamed
      cases hpart

end ScannedAs

/-! ## A new attribute -/

theorem of_getLast?_text {part : Part} {c : Code} (h : part.text.getLast? = some c) :
    isBlank c = false ∧ (c = '/' → ∃ a written, part = .valued a written ∧ a.quote = .bare ∧
      a.value.getLast? = some (.char '/')) := by
  cases part with
  | flag name isName =>
    obtain ⟨hblank, -, hslash, -⟩ :=
      Reader.of_isNameChar (isNameChar_of_mem_name isName (List.mem_of_getLast? h))
    exact ⟨hblank, fun hc => absurd hc hslash⟩
  | valued a written =>
    change a.text.getLast? = some c at h
    rw [Attribute.text] at h
    by_cases hbare : a.quote = .bare
    · have hvalue := written.value
      rw [hbare] at hvalue
      rw [hbare, Quote.mark, List.append_nil, List.getLast?_append,
        List.getLast?_eq_some_getLast hvalue.1, Option.some_or,
        ← List.getLast?_eq_some_getLast hvalue.1] at h
      refine ⟨(isBareChar_eq_true_iff.1 (hvalue.2 c (List.mem_of_getLast? h))).1, ?_⟩
      rintro rfl
      exact ⟨a, written, rfl, hbare, h⟩
    · obtain ⟨q, hq, hmark, -⟩ := Attribute.exists_opening_eq hbare
      rw [hmark, List.getLast?_concat, Option.some.injEq] at h
      subst h
      refine ⟨(isPlain_eq_false_of_isQuote hq).2, ?_⟩
      rintro rfl
      exact absurd hq (by decide)

/-- The front of a tag ends in no blank, and in a slash only if that is of a bare value. -/
theorem of_getLast?_front {c : Code} (h : tag.front.getLast? = some c) :
    isBlank c = false ∧ (c = '/' → ∃ gap a written,
      tag.parts.getLast? = some (gap, .valued a written) ∧ a.quote = .bare ∧
        a.value.getLast? = some (.char '/')) := by
  rcases List.eq_nil_or_concat tag.parts with hnil | ⟨init, ⟨gap, part⟩, hparts⟩
  · rw [front, hnil, renderParts_nil, List.append_nil] at h
    have hword := tag.name.isWord_of_getLast? h
    obtain ⟨hblank, -, hslash, -⟩ := Reader.of_isNameChar (c := c) (by simp [isNameChar, hword])
    exact ⟨hblank, fun hc => absurd hc hslash⟩
  · rw [List.concat_eq_append] at hparts
    have hne : part.text ≠ [] := List.length_pos_iff.1 part.length_text_pos
    have hlast : part.text.getLast? = some c := by
      rw [front, hparts, renderParts_append, renderParts_cons, renderParts_nil, List.append_nil,
        ← List.cons_append, ← List.append_assoc, ← List.append_assoc, List.getLast?_append,
        List.getLast?_eq_some_getLast hne, Option.some_or] at h
      rw [List.getLast?_eq_some_getLast hne, h]
    obtain ⟨hblank, hslash⟩ := of_getLast?_text hlast
    refine ⟨hblank, fun hc => ?_⟩
    obtain ⟨a, written, rfl, hvalue⟩ := hslash hc
    exact ⟨gap, a, written, by rw [hparts, List.getLast?_concat], hvalue⟩

/-- A new attribute belongs behind the last one, unless a bare value is the slash at the end. -/
theorem insertOffset_text (h : tag.close = [.char '>'] → tag.front.getLast? ≠ some (.char '/')) :
    insertOffset tag.text = tag.front.length := by
  refine (insertOffset_append_iff tag.isEnding_close).2 fun c hc => ⟨(of_getLast?_front hc).1, ?_⟩
  rintro rfl hclose
  exact h hclose hc

/-- A scan leaves no slash at the place of a new attribute but a bare value that is the slash. -/
theorem ScannedAs.getLast?_front_ne {u : StartTag} (h : tag.ScannedAs u)
    (hslash : ¬ ∃ a, tag.EndsInBare a ∧ a.value = [.char '/']) (hclose : u.close = [.char '>']) :
    u.front.getLast? ≠ some (.char '/') := by
  intro hlast
  cases h with
  | same leaves =>
    obtain ⟨-, hbehind⟩ := of_getLast?_front hlast
    obtain ⟨gap, a, written, hparts, hbare, hvalue⟩ := hbehind rfl
    have ha : tag.EndsInBare a := ⟨hbare, ⟨gap, written, hparts⟩, hclose⟩
    exact hslash ⟨a, ha, leaves.value_eq ha hvalue⟩
  | slashed => simp [close] at hclose

/-- The blank in front of a new attribute. -/
def newGap : Gap := ⟨[.char ' '], by simp, List.all_eq_true.1 (by decide)⟩

/-- A tag with another attribute behind the last one. -/
def add (tag : StartTag) (a : Attribute) (written : a.IsWritten) : StartTag :=
  { tag with parts := tag.parts ++ [(newGap, .valued a written)] }

theorem text_add (tag : StartTag) (a : Attribute) (written : a.IsWritten) :
    (tag.add a written).text = tag.front ++ .char ' ' :: a.text ++ tag.close := by
  have hclose : (tag.add a written).close = tag.close := rfl
  rw [text, hclose]
  simp [add, front, renderParts_append, newGap, Part.text]

theorem insertAttribute_text {name value : Text} (hname : isAttributeName name = true)
    (h : tag.close = [.char '>'] → tag.front.getLast? ≠ some (.char '/')) :
    insertAttribute tag.text name value =
      (tag.add (Tag.newAttribute name value) (Tag.isWritten_newAttribute hname value)).text := by
  unfold insertAttribute
  dsimp only
  rw [insertOffset_text h, text_add, text, List.take_left, List.drop_left]
  simp [Tag.newAttribute, Attribute.text, Attribute.opening, Quote.mark]

/-- With a new attribute behind it, no value takes up the slash at the end. -/
theorem isApart_add (a : Attribute) (written : a.IsWritten) (hquote : a.quote ≠ .bare) :
    (tag.add a written).IsApart := by
  intro p hp b hb hpart hbare
  rw [add, List.getLast?_concat, Option.mem_def, Option.some.injEq] at hp
  subst hp
  cases hpart
  exact absurd hbare hquote

/-! ## A new value -/

/-- A tag with a new value of one of its attributes, the rest as it was. -/
def withValue (tag : StartTag) (init : List (Gap × Part)) (gap : Gap) (written : a.IsWritten)
    (back : List (Gap × Part)) (value : Text) : StartTag :=
  { tag with
    parts := init ++
      (gap, .valued (a.withValue value) (Attribute.isWritten_withValue written value)) :: back }

theorem replaceValue_text (hparts : tag.parts = init ++ (gap, .valued a written) :: back)
    {e : Element} {pos : Nat}
    (hpos : pos = 1 + tag.name.text.length + (renderParts init).length + gap.text.length)
    (value : Text) : replaceValue tag.text e ((a.span pos).map (· + e.start)) value =
      (tag.withValue init gap written back value).text := by
  have hfront : pos = (.char '<' :: (tag.name.text ++ (renderParts init ++ gap.text))).length := by
    rw [hpos]
    simp
    omega
  have hsplit : tag.text = (.char '<' :: (tag.name.text ++ (renderParts init ++ gap.text))) ++
      (a.text ++ (renderParts back ++ tag.close)) := by
    rw [text_eq, hparts, renderParts_append, renderParts_cons]
    simp [Part.text]
  have hclose : (tag.withValue init gap written back value).close = tag.close := rfl
  rw [hfront, hsplit, replaceValue_append, text_eq, hclose]
  simp [withValue, renderParts_append, Part.text]

theorem isApart_withValue (hparts : tag.parts = init ++ (gap, .valued a written) :: back)
    (hapart : back ≠ [] → tag.IsApart) (value : Text) :
    (tag.withValue init gap written back value).IsApart := by
  have hclose : (tag.withValue init gap written back value).close = tag.close := rfl
  intro p hp
  rw [hclose]
  by_cases hback : back = []
  · subst hback
    rw [withValue, List.getLast?_concat, Option.mem_def, Option.some.injEq] at hp
    subst hp
    rintro b _ ⟨⟩ hbare
    exact absurd hbare a.quote.enclosing_ne_bare
  · refine hapart hback p ?_
    obtain ⟨q, back, rfl⟩ := List.exists_cons_of_ne_nil hback
    rw [withValue, List.getLast?_append, List.getLast?_cons_cons] at hp
    rw [hparts, List.getLast?_append, List.getLast?_cons_cons]
    simpa using hp

/-! ## A new attribute at the slash -/

/-- A bare value goes up to an ending, and takes up a slash right behind it. -/
theorem exists_mentions_ending {n v w ending : Text}
    (hw : ∀ c ∈ w, isBlank c = false ∧ c ≠ '>') (hending : IsEnding ending) :
    ∃ v', (Reader.value n .bare v).mentions (w ++ ending) = [⟨lower n, some (.bare, v')⟩] := by
  -- What is left behind the value is an ending as well.
  have hends {w ending : Text} (hw : ∀ c ∈ w, isBlank c = false ∧ c ≠ '>')
      (hending : IsEnding ending) (hrest : Reader.EndsBareValue ending) :
      ∃ v', (Reader.value n .bare v).mentions (w ++ ending) = [⟨lower n, some (.bare, v')⟩] :=
    ⟨v ++ w, by rw [Reader.mentions_bareValue hw hrest, Reader.mentions_ending hending]⟩
  have hgiven := hending
  obtain ⟨gap, hgap, rfl | rfl⟩ := hending
  · refine hends hw hgiven ?_
    cases gap with
    | nil => exact ⟨'>', [], rfl, .inr rfl⟩
    | cons b gap => exact ⟨b, _, rfl, .inl (hgap b List.mem_cons_self)⟩
  · cases gap with
    | nil =>
      have hslash : ∀ c ∈ w ++ [Code.char '/'], isBlank c = false ∧ c ≠ '>' := by
        intro c hc
        rcases List.mem_append.1 hc with hc | hc
        · exact hw c hc
        · rw [List.mem_singleton.1 hc]
          decide
      have hsplit : w ++ ([] ++ [Code.char '/', .char '>']) =
          (w ++ [Code.char '/']) ++ [Code.char '>'] := by simp
      rw [hsplit]
      exact hends hslash ⟨[], by simp, .inl rfl⟩ ⟨'>', [], rfl, .inr rfl⟩
    | cons b gap => exact hends hw hgiven ⟨b, _, rfl, .inl (hgap b List.mem_cons_self)⟩

/-- A reader in front of a value takes a text without blanks and quotes for one value, up to a `>`
or to the ending. -/
theorem exists_mentions_beforeValue {n w ending : Text} {c : Code} (hquote : isQuote c = false)
    (hclose : c ≠ '>') (hsolid : ∀ d ∈ c :: w, isBlank d = false) (hending : IsEnding ending) :
    ∃ v, (Reader.beforeValue n).mentions (c :: (w ++ ending)) =
      [⟨lower n, some (.bare, v)⟩] := by
  have hstep : (Reader.beforeValue n).next c = ([], .value n .bare [c]) :=
    Reader.next_beforeValue_bare (hsolid c List.mem_cons_self) hquote hclose
  rw [Reader.mentions_cons, hstep, List.nil_append]
  by_cases hmem : .char '>' ∈ w
  · obtain ⟨x, y, rfl, hx⟩ := List.eq_append_cons_of_mem hmem
    have hfront : ∀ d ∈ x, isBlank d = false ∧ d ≠ '>' := by
      intro d hd
      refine ⟨hsolid d (by simp [hd]), ?_⟩
      rintro rfl
      exact hx hd
    have hclosed : Reader.between.mentions (.char '>' :: (y ++ ending)) = [] := by
      simp [Reader.mentions_cons, Reader.next, Reader.start]
    rw [List.append_assoc, List.cons_append,
      Reader.mentions_bareValue hfront ⟨'>', _, rfl, .inr rfl⟩, hclosed]
    exact ⟨_, rfl⟩
  · refine exists_mentions_ending (fun d hd => ⟨hsolid d (List.mem_cons_of_mem _ hd), ?_⟩) hending
    rintro rfl
    exact hmem hd

/-- A reader gets through the attributes of a tag to the equals sign behind a further name. -/
theorem mentioned_sign {name blanks : Text} (n : TagName) (init : List (Gap × Part)) (gap : Gap)
    (hname : isAttributeName name = true) (hblanks : ∀ c ∈ blanks, isBlank c = true) (rest : Text) :
    mentioned (.char '<' :: (n.text ++ (renderParts init ++
        (gap.text ++ (name ++ (blanks ++ .char '=' :: rest)))))) =
      init.map (·.2.mention) ++ (Reader.beforeValue name).mentions rest := by
  have hfollows : Follows (gap.text ++ (name ++ (blanks ++ .char '=' :: rest))) :=
    gap.follows (.flag name hname) _
  have hne : (gap.text ++ (name ++ (blanks ++ .char '=' :: rest))).dropWhile isBlank ≠ [] :=
    dropWhile_ne_nil_of_mem (c := '=') (by simp) (by decide)
  have hapart : ∀ p ∈ init.getLast?, p.2.StandsApart
      (gap.text ++ (name ++ (blanks ++ .char '=' :: rest))) := by
    intro p _ b _ _ _ hslash
    obtain ⟨c, text, hgap⟩ := List.exists_cons_of_ne_nil gap.ne_nil
    have hc := gap.blank c (by simp [hgap])
    rw [hgap] at hslash
    obtain rfl : c = '/' := by simpa using hslash
    exact absurd hc (by decide)
  rw [mentioned_renderParts n hfollows hne hapart, Reader.mentions_between_of_blanks gap.blank,
    Reader.mentions_attributeName hname, Reader.mentions_name_sign hblanks]

/-- There are no blanks in a new attribute whose value has none. -/
theorem isBlank_eq_false_of_mem_newAttribute {name value : Text}
    (hname : isAttributeName name = true) (hsolid : ∀ c ∈ value, isBlank c = false) {c : Code}
    (hc : c ∈ (Tag.newAttribute name value).text) : isBlank c = false := by
  rw [← List.append_nil (Tag.newAttribute name value).text, Tag.text_newAttribute_append,
    List.mem_append, List.mem_cons, List.mem_cons, List.mem_append, List.mem_singleton] at hc
  rcases hc with hc | rfl | rfl | hc | rfl
  · exact (Reader.of_isNameChar (isNameChar_of_mem_name hname hc)).1
  · decide
  · decide
  · exact isBlank_eq_false_of_mem_escapeFor hsolid hc
  · decide

/-- Where a value is the slash at the end, a new attribute is put in front of the slash. -/
theorem insertAttribute_slash {name value : Text}
    (hparts : tag.parts = init ++ [(gap, .valued a written)]) (hbare : a.quote = .bare)
    (hvalue : a.value = [.char '/']) (hclose : tag.close = [.char '>']) :
    insertAttribute tag.text name value = .char '<' :: (tag.name.text ++ (renderParts init ++
      (gap.text ++ (a.name ++ (a.gapBefore ++ .char '=' :: ([.char ' '] ++
        ((Tag.newAttribute name value).text ++
          (a.gapAfter ++ [Code.char '/', .char '>'])))))))) := by
  have hclear : IsClearOf (.char '<' :: (tag.name.text ++ (renderParts init ++
      (gap.text ++ (a.name ++ (a.gapBefore ++ [Code.char '='])))))) (a.gapAfter ++
        [Code.char '/', .char '>']) := by
    refine isClearOf_of_solid fun c hc => ?_
    obtain rfl : c = '=' := by
      simpa [List.getLast?_append, List.getLast?_cons] using hc.symm
    decide
  have htext : tag.text = .char '<' :: (tag.name.text ++ (renderParts init ++
      (gap.text ++ (a.name ++ (a.gapBefore ++ [Code.char '=']))))) ++
        (a.gapAfter ++ [Code.char '/', .char '>']) := by
    rw [text_eq, hparts, hclose, renderParts_append]
    simp [Part.text, Attribute.text, Attribute.opening, hbare, hvalue, Quote.mark]
  have hending : IsEnding (a.gapAfter ++ [Code.char '/', .char '>']) :=
    ⟨_, written.gapAfter, .inr rfl⟩
  unfold insertAttribute
  dsimp only
  rw [htext, (insertOffset_append_iff hending).2 hclear, List.take_left, List.drop_left]
  simp [Tag.newAttribute, Attribute.text, Attribute.opening, Quote.mark]

/-- Behind a value that is the slash at the end, a new attribute is read as the value. -/
theorem exists_mentioned_insertAttribute {name value : Text}
    (hparts : tag.parts = init ++ [(gap, .valued a written)]) (hbare : a.quote = .bare)
    (hvalue : a.value = [.char '/']) (hclose : tag.close = [.char '>'])
    (hname : isAttributeName name = true)
    (hsolid : ∀ c ∈ value, isBlank c = false) :
    ∃ v, mentioned (insertAttribute tag.text name value) =
      init.map (·.2.mention) ++ [⟨lower a.name, some (.bare, v)⟩] := by
  obtain ⟨c, n, hn, -⟩ : ∃ c n, name = c :: n ∧ isNameStart c = true :=
    Attribute.exists_name_eq_cons (Tag.isWritten_newAttribute hname value)
  have hc : isNameChar c = true := isNameChar_of_mem_name hname (by simp [hn])
  have hquote : isQuote c = false := isQuote_eq_false_of (by decide) (by decide) hc
  obtain ⟨-, -, -, hne⟩ := Reader.of_isNameChar hc
  obtain ⟨w, hw⟩ : ∃ w, (Tag.newAttribute name value).text = c :: w := by
    refine ⟨n ++ .char '=' :: .char '"' :: (escapeFor .double value ++ [Code.char '"']), ?_⟩
    rw [← List.append_nil (Tag.newAttribute name value).text, Tag.text_newAttribute_append, hn]
    rfl
  have hnew : ∀ d ∈ c :: w, isBlank d = false := by
    rw [← hw]
    exact fun d hd => isBlank_eq_false_of_mem_newAttribute hname hsolid hd
  obtain ⟨v, hv⟩ := exists_mentions_beforeValue (n := a.name) hquote hne hnew
    (⟨a.gapAfter, written.gapAfter, .inr rfl⟩ : IsEnding (a.gapAfter ++ [Code.char '/', .char '>']))
  refine ⟨v, ?_⟩
  rw [insertAttribute_slash hparts hbare hvalue hclose,
    mentioned_sign tag.name init gap written.name written.gapBefore,
    Reader.mentions_beforeValue_of_blanks (w := [.char ' ']) newGap.blank, hw, List.cons_append, hv]

end StartTag
end MarkupNaming.Markup
