import MarkupNaming.Proofs.Markup.Attribute.Rescanning

/-!
# Lists of attributes

Tags whose attributes stand one behind the other, each after a blank, with a value or without one.
A scan of such a tag finds the attributes that have a value, and no others, at the places where they
are written: it reads no name inside of a value and passes over a name that has none. Of equal names
it reports the first.
-/
namespace MarkupNaming.Markup
open Text

/-- The blanks in front of an attribute. -/
structure Gap where
  text : Text
  ne_nil : text ≠ []
  blank : ∀ c ∈ text, isBlank c = true

/-- An attribute as it stands in a tag. -/
inductive Part
  /-- A name without a value. -/
  | flag (name : Text) (isName : isAttributeName name = true)
  /-- A name with a value. -/
  | valued (a : Attribute) (written : a.IsWritten)

namespace Part

def text : Part → Text
  | flag name _ => name
  | valued a _ => a.text

/-- The attribute and its offset, if it has a value. -/
def entries (pos : Nat) : Part → List (Nat × Attribute)
  | flag .. => []
  | valued a _ => [(pos, a)]

theorem exists_text_eq (p : Part) : ∃ c rest, p.text = c :: rest ∧ isNameStart c = true := by
  cases p with
  | flag name isName =>
    cases name with
    | nil => cases isName
    | cons c name =>
      simp only [isAttributeName, Bool.and_eq_true] at isName
      exact ⟨c, name, rfl, isName.1⟩
  | valued a written =>
    obtain ⟨c, name, hname, hc⟩ := Attribute.exists_name_eq_cons written
    exact ⟨c, _, by rw [text, Attribute.text, Attribute.opening, hname]; rfl, hc⟩

theorem length_text_pos (p : Part) : 0 < p.text.length := by
  obtain ⟨c, rest, htext, -⟩ := p.exists_text_eq
  simp [htext]

end Part

/-- An attribute in a list. -/
inductive Item
  /-- A name without a value. -/
  | flag (name : Text) (isName : isAttributeName name = true)
  /-- A name with a value. A bare value does not end in a slash, which could belong to `/>`. -/
  | valued (a : Attribute) (written : a.IsWritten)
    (unslashed : a.quote = .bare → a.value.getLast? ≠ some (.char '/'))

namespace Item

def text : Item → Text
  | flag name _ => name
  | valued a _ _ => a.text

/-- The attribute and its offset, if it has a value. -/
def entries (pos : Nat) : Item → List (Nat × Attribute)
  | flag .. => []
  | valued a _ _ => [(pos, a)]

/-- The same attribute, whatever could be said of its end. -/
def part : Item → Part
  | flag name isName => .flag name isName
  | valued a written _ => .valued a written

@[simp] theorem text_part (i : Item) : i.part.text = i.text := by cases i <;> rfl

@[simp] theorem entries_part (i : Item) (pos : Nat) : i.part.entries pos = i.entries pos := by
  cases i <;> rfl

end Item

/-- Attributes as they are written one behind the other. -/
def renderParts (parts : List (Gap × Part)) : Text := parts.flatMap fun p => p.1.text ++ p.2.text

/-- The attributes that have a value, with their offsets, where the first gap starts at the offset
`pos`. -/
def listedParts (pos : Nat) : List (Gap × Part) → List (Nat × Attribute)
  | [] => []
  | (gap, part) :: parts =>
    part.entries (pos + gap.text.length) ++
      listedParts (pos + gap.text.length + part.text.length) parts

/-- A list of attributes as it is written. -/
def render (items : List (Gap × Item)) : Text := items.flatMap fun i => i.1.text ++ i.2.text

/-- The attributes of a list that have a value, with their offsets, where the list starts at the
offset `pos`. -/
def listed (pos : Nat) : List (Gap × Item) → List (Nat × Attribute)
  | [] => []
  | (gap, item) :: items =>
    item.entries (pos + gap.text.length) ++
      listed (pos + gap.text.length + item.text.length) items

@[simp] theorem renderParts_nil : renderParts [] = [] := rfl

@[simp] theorem renderParts_cons (gap : Gap) (part : Part) (parts : List (Gap × Part)) :
    renderParts ((gap, part) :: parts) = gap.text ++ (part.text ++ renderParts parts) := by
  simp [renderParts]

/-- The attributes of a list without what is said of their ends. -/
def partsOf (items : List (Gap × Item)) : List (Gap × Part) :=
  items.map fun i => (i.1, i.2.part)

theorem renderParts_partsOf (items : List (Gap × Item)) :
    renderParts (partsOf items) = render items := by
  simp [renderParts, partsOf, render, List.flatMap_map]

theorem listedParts_partsOf (pos : Nat) (items : List (Gap × Item)) :
    listedParts pos (partsOf items) = listed pos items := by
  induction items generalizing pos with
  | nil => rfl
  | cons i items ih =>
    obtain ⟨gap, item⟩ := i
    change item.part.entries _ ++ listedParts _ (partsOf items) = _
    rw [ih, listed, Item.entries_part, Item.text_part]

/-! ## Scanning a list -/

variable {before : Option Code} {pos : Nat} {rest ending : Text}

/-- What may stand behind an attribute in a list: a blank or an end of the tag, and no equals sign
behind the blanks. -/
structure Follows (t : Text) : Prop where
  endsBare : endsBare t = true
  startsOutside : StartsOutside isNameChar t
  head?_ne : (t.dropWhile isBlank).head? ≠ some (.char '=')

theorem IsEnding.follows (h : IsEnding ending) : Follows ending := by
  refine ⟨h.endsBare, fun c hc => (h.of_mem (List.mem_of_mem_head? hc)).1, fun hsign => ?_⟩
  have hmem : .char '=' ∈ ending := (List.dropWhile_suffix _).subset (List.mem_of_mem_head? hsign)
  exact (h.of_mem hmem).2.1 rfl

theorem Part.isBlank_eq_false_of_text_eq {part : Part} {c : Code} {u : Text}
    (h : part.text = c :: u) : isNameStart c = true ∧ isBlank c = false := by
  obtain ⟨d, u, htext, hc⟩ := part.exists_text_eq
  obtain rfl : c = d := (List.cons.inj (h.symm.trans htext)).1
  refine ⟨hc, ?_⟩
  cases hblank : isBlank c with
  | false => rfl
  | true =>
    rw [isNameStart_eq_false_of_isBlank hblank] at hc
    cases hc

theorem Gap.follows (gap : Gap) (part : Part) (rest : Text) :
    Follows (gap.text ++ (part.text ++ rest)) := by
  obtain ⟨b, blanks, hgap⟩ := List.exists_cons_of_ne_nil gap.ne_nil
  obtain ⟨c, text, htext⟩ := List.exists_cons_of_ne_nil (List.length_pos_iff.1 part.length_text_pos)
  obtain ⟨hc, hblank⟩ := part.isBlank_eq_false_of_text_eq htext
  have hb : isBlank b = true := gap.blank b (by simp [hgap])
  have hdrop : (gap.text ++ (part.text ++ rest)).dropWhile isBlank = c :: (text ++ rest) := by
    rw [htext]
    exact dropWhile_append_of_startsOutside gap.blank (startsOutside_cons.2 hblank)
  refine ⟨by simp [hgap, Markup.endsBare, hb],
    by simp [hgap, isNameChar_eq_false_of_isBlank hb], ?_⟩
  rw [hdrop]
  rintro ⟨⟩
  exact absurd hc (by decide)

theorem follows_renderParts (hrest : Follows rest) (parts : List (Gap × Part)) :
    Follows (renderParts parts ++ rest) := by
  cases parts with
  | nil => exact hrest
  | cons p parts =>
    obtain ⟨gap, part⟩ := p
    rw [renderParts_cons, List.append_assoc, List.append_assoc]
    exact gap.follows part _

/-- A name without a value is no attribute. -/
theorem attributeAt?_flag {name : Text} (h : isAttributeName name = true) (hrest : Follows rest) :
    attributeAt? before (name ++ rest) = none :=
  attributeAt?_eq_none_of_sign (fun _ hc => isNameChar_of_mem_name h hc) hrest.startsOutside
    hrest.head?_ne before

/-- A scan passes over a name without a value. -/
theorem attributesFrom_flag {name : Text} (h : isAttributeName name = true)
    (hrest : Follows rest) : attributesFrom before pos (name ++ rest) =
      attributesFrom (name.getLast?.or before) (pos + name.length) rest := by
  refine attributesFrom_append_of_none fun x c y heq => ?_
  by_cases hx : x = []
  · have hflag : attributeAt? before (name ++ rest) = none := attributeAt?_flag h hrest
    simpa [hx, heq] using hflag
  -- Further on in the name a character of the name stands in front.
  · have hlast : isNameChar (x.getLast hx) = true :=
      isNameChar_of_mem_name h (by rw [heq]; exact List.mem_append_left _ (List.getLast_mem hx))
    refine attributeAt?_eq_none_of_isNameChar ?_ _
    simp [List.getLast?_eq_some_getLast hx, hlast]

/-- A scan passes over the blanks in front of an attribute. -/
theorem Gap.attributesFrom_append (gap : Gap) (before : Option Code) (pos : Nat) (rest : Text) :
    ∃ b, isNameChar b = false ∧
    attributesFrom before pos (gap.text ++ rest) =
      attributesFrom (some b) (pos + gap.text.length) rest := by
  have hlast := List.getLast_mem gap.ne_nil
  refine ⟨gap.text.getLast gap.ne_nil,
    isNameChar_eq_false_of_isBlank (gap.blank _ hlast), ?_⟩
  rw [attributesFrom_append_of_none, List.getLast?_eq_some_getLast gap.ne_nil, Option.some_or]
  intro x c y heq
  have hc : isBlank c = true := gap.blank c (by simp [heq])
  exact attributeAt?_eq_none_of_not_isNameStart (isNameStart_eq_false_of_isBlank hc) _ _

/-- Whether the value of an attribute, if it is bare, leaves the text behind it its slash. -/
def Part.Leaves (part : Part) (rest : Text) : Prop :=
  ∀ a written, part = .valued a written → a.quote = .bare → LeavesSlash a.value rest

/-- A scan of one attribute finds it if it has a value, and goes on behind it. -/
theorem Part.attributesFrom_append (part : Part) (pos : Nat) {b : Code}
    (hb : isNameChar b = false) (hrest : Follows rest) (hleaves : part.Leaves rest) :
    ∃ before, attributesFrom (some b) pos (part.text ++ rest) =
      part.entries pos ++ attributesFrom before (pos + part.text.length) rest := by
  cases part with
  | flag name isName => exact ⟨_, attributesFrom_flag isName hrest⟩
  | valued a written =>
    have hread : attributeAt? (some b) (a.text ++ rest) = some a :=
      attributeAt?_append_eq_some_iff.2 ⟨by simpa using hb, written,
        fun hbare => ⟨hrest.endsBare, hleaves a written rfl hbare⟩⟩
    exact ⟨_, attributesFrom_of_some hread⟩

/-- Whether each attribute of a list stands in a relation to the text behind it. -/
def EachBefore (relation : Part → Text → Prop) (ending : Text) : List (Gap × Part) → Prop
  | [] => True
  | (_, part) :: parts =>
    relation part (renderParts parts ++ ending) ∧ EachBefore relation ending parts

/-- Behind any attribute but the last one there is a blank. -/
theorem eachBefore_of_last {relation : Part → Text → Prop} {parts : List (Gap × Part)}
    (hblank : ∀ part b t, isBlank b = true → relation part (b :: t))
    (hlast : ∀ p ∈ parts.getLast?, relation p.2 ending) : EachBefore relation ending parts := by
  induction parts with
  | nil => exact True.intro
  | cons p parts ih =>
    cases parts with
    | nil => exact ⟨hlast p rfl, True.intro⟩
    | cons q parts =>
      obtain ⟨b, blanks, hgap⟩ := List.exists_cons_of_ne_nil q.1.ne_nil
      refine ⟨?_, ih (by simpa using hlast)⟩
      rw [renderParts_cons, hgap]
      exact hblank p.2 b _ (q.1.blank b (by simp [hgap]))

theorem eachBefore_leaves {parts : List (Gap × Part)}
    (hlast : ∀ p ∈ parts.getLast?, p.2.Leaves ending) : EachBefore Part.Leaves ending parts := by
  refine eachBefore_of_last (fun part b t hb a written _ _ => .inr (.inr ?_)) hlast
  rintro ⟨⟩
  exact absurd hb (by decide)

/-- A scan finds the attributes that have a value, wherever the first one starts. -/
theorem attributesFrom_renderParts (hending : IsEnding ending) {parts : List (Gap × Part)}
    (hleaves : EachBefore Part.Leaves ending parts) :
    attributesFrom before pos (renderParts parts ++ ending) = listedParts pos parts := by
  induction parts generalizing before pos with
  | nil => exact hending.attributesFrom_eq_nil before pos
  | cons p parts ih =>
    obtain ⟨gap, part⟩ := p
    obtain ⟨b, hb, hgap⟩ := gap.attributesFrom_append before pos
      (part.text ++ (renderParts parts ++ ending))
    obtain ⟨before', hpart⟩ := part.attributesFrom_append (pos + gap.text.length) hb
      (follows_renderParts hending.follows parts) hleaves.1
    rw [renderParts_cons, List.append_assoc, List.append_assoc, hgap, hpart, ih hleaves.2,
      listedParts]

/-- A scan finds what a list holds, wherever the list starts. -/
theorem attributesFrom_render (hending : IsEnding ending) (items : List (Gap × Item)) :
    attributesFrom before pos (render items ++ ending) = listed pos items := by
  have hleaves : EachBefore Part.Leaves ending (partsOf items) := by
    refine eachBefore_leaves ?_
    rintro p hp a written hpart hbare
    obtain ⟨⟨gap, item⟩, -, rfl⟩ := List.mem_map.1 (List.mem_of_getLast? hp)
    cases item with
    | flag => cases hpart
    | valued b _ unslashed =>
      cases hpart
      exact .inr (.inl (unslashed hbare))
  rw [← renderParts_partsOf, attributesFrom_renderParts hending hleaves, listedParts_partsOf]

/-! ## First of their name -/

/-- The spans that are the first of their name. -/
def firsts (spans : List (AttributeSpan Nat)) : List (AttributeSpan Nat) :=
  spans.filter fun s => decide (spans.find? (·.name == s.name) = some s)

theorem firstOfName_eq_filter {spans : List (AttributeSpan Nat)} (h : spans.Nodup)
    (seen : List Text) : firstOfName seen spans =
      spans.filter fun s => decide (s.name ∉ seen ∧ spans.find? (·.name == s.name) = some s) := by
  induction spans generalizing seen with
  | nil => rfl
  | cons t spans ih =>
    obtain ⟨ht, hspans⟩ := List.nodup_cons.1 h
    -- Behind `t` a span of its name is not the first one.
    have hbehind : ∀ s ∈ spans, (t :: spans).find? (·.name == s.name) = some s ↔
        s.name ≠ t.name ∧ spans.find? (·.name == s.name) = some s := by
      intro s hs
      by_cases hname : t.name = s.name
      · have hne : t ≠ s := by
          rintro rfl
          exact ht hs
        simp [hname, hne]
      · simp [hname, Ne.symm hname]
    have hrest : ∀ s ∈ spans, decide (s.name ∉ seen ∧
        (t :: spans).find? (·.name == s.name) = some s) = decide (s.name ∉ t.name :: seen ∧
          spans.find? (·.name == s.name) = some s) := by
      intro s hs
      rw [decide_eq_decide, hbehind s hs, List.mem_cons, not_or, and_assoc, and_left_comm]
    rw [firstOfName, List.filter_cons, List.filter_congr hrest, ← ih hspans]
    by_cases hseen : t.name ∈ seen
    · have hsame : firstOfName (t.name :: seen) spans = firstOfName seen spans := by
        rw [ih hspans, ih hspans]
        refine List.filter_congr fun s _ => decide_eq_decide.2 (and_congr_left fun _ => ?_)
        rw [List.mem_cons, not_or, and_iff_right_iff_imp]
        exact fun hs heq => hs (heq ▸ hseen)
      simp [hseen, hsame]
    · simp [hseen]

theorem firstOfName_eq_firsts {spans : List (AttributeSpan Nat)} (h : spans.Nodup) :
    firstOfName [] spans = firsts spans := by
  simp [firstOfName_eq_filter h, firsts]

theorem le_of_mem_listed {items : List (Gap × Item)} {e : Nat × Attribute}
    (h : e ∈ listed pos items) : pos ≤ e.1 := by
  have hending : IsEnding [.char '>'] := ⟨[], by simp, .inl rfl⟩
  have hscan : attributesFrom none pos (render items ++ [Code.char '>']) = listed pos items :=
    attributesFrom_render hending items
  rw [← hscan] at h
  exact le_of_mem_attributesFrom h

theorem nodup_listed (items : List (Gap × Item)) :
    ((listed pos items).map fun e => e.2.span e.1).Nodup := by
  induction items generalizing pos with
  | nil => simp [listed]
  | cons i items ih =>
    obtain ⟨gap, item⟩ := i
    cases item with
    | flag name isName => exact ih
    | valued a written unslashed =>
      refine List.nodup_cons.2 ⟨fun hmem => ?_, ih⟩
      obtain ⟨e, he, hspan⟩ := List.mem_map.1 hmem
      have hle := le_of_mem_listed he
      have hstart : e.1 = pos + gap.text.length := congrArg AttributeSpan.start hspan
      have hpos := a.text_length_pos
      change pos + gap.text.length + a.text.length ≤ e.1 at hle
      omega

/-! ## Tags -/

/-- A tag with a list of attributes. -/
structure ListTag where
  name : Text
  items : List (Gap × Item)
  /-- Blanks behind the last attribute. -/
  gap : Text
  blank : ∀ c ∈ gap, isBlank c = true
  closesItself : Bool

namespace ListTag
variable (tag : ListTag)

/-- The end of the tag, behind its attributes. -/
def close : Text := tag.gap ++ if tag.closesItself then [.char '/', .char '>'] else [.char '>']

/-- The tag as it is written. -/
def text : Text := .char '<' :: (tag.name ++ (render tag.items ++ tag.close))

/-- The spans of the attributes that have a value, where the tag starts at an offset. -/
def spans (start : Nat) : List (AttributeSpan Nat) :=
  (listed (start + (1 + tag.name.length)) tag.items).map fun e => e.2.span e.1

theorem isEnding_close : IsEnding tag.close := by
  refine ⟨tag.gap, tag.blank, ?_⟩
  unfold close
  cases tag.closesItself <;> simp

/-- Between the name and the end of a tag exactly the attributes with a value are found, each where
it is written, if it is the first of its name. -/
theorem attributesBetween_eq_firsts (front back : Text) :
    attributesBetween (front ++ (tag.text ++ back)) (front.length + (1 + tag.name.length))
      (front.length + tag.text.length) = firsts (tag.spans front.length) := by
  have hslice : tag.text.slice (1 + tag.name.length) tag.text.length =
      render tag.items ++ tag.close := by
    have hsplit : tag.text = (.char '<' :: tag.name) ++ (render tag.items ++ tag.close) := rfl
    have hlength : 1 + tag.name.length = (.char '<' :: tag.name).length := by simp [Nat.add_comm]
    rw [slice, List.take_length, hlength, hsplit, List.drop_left]
  rw [attributesBetween_eq, slice_append, hslice, attributesFrom_render tag.isEnding_close]
  exact firstOfName_eq_firsts (nodup_listed tag.items)

example : (attributesBetween "<a b c='1' C=2/>" 2 16).map (fun s => (s.name, s.value)) =
    [(("c" : Text), ("1" : Text))] := by
  decide +kernel

end ListTag
end MarkupNaming.Markup
