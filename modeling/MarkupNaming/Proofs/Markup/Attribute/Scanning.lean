import MarkupNaming.Proofs.Markup.Attribute.Reading

/-!
# Scanning for attributes

What a scan of a text for attributes does, step by step. A step finds an attribute and goes on
behind it, or skips one character. Each attribute that is found stands in the text at its offset
and can be read there, and none begins inside the opening of another one.
-/
namespace MarkupNaming.Markup
open Text
variable {before : Option Code} {pos : Nat} {t rest : Text} {a : Attribute}

/-! ## Steps -/

theorem attributeAt?_eq_some_iff : attributeAt? before t = some a ↔
    before.any isNameChar = false ∧ a.IsWritten ∧
      ∃ rest, t = a.text ++ rest ∧ EndsBefore a.quote a.value rest := by
  rw [attributeAt?, ← Attribute.read?_eq_some_iff]
  cases before.any isNameChar <;> simp

theorem attributeAt?_append_eq_some_iff : attributeAt? before (a.text ++ rest) = some a ↔
    before.any isNameChar = false ∧ a.IsWritten ∧ EndsBefore a.quote a.value rest := by
  rw [attributeAt?_eq_some_iff]
  simp only [List.append_cancel_left_eq, exists_eq_left']

theorem attributeAt?_eq_none_of_isNameChar (h : before.any isNameChar = true) (t : Text) :
    attributeAt? before t = none := by
  rw [attributeAt?, if_pos h]

theorem attributeAt?_eq_none_of_not_isNameStart {c : Code} (h : isNameStart c = false)
    (before : Option Code) (t : Text) : attributeAt? before (c :: t) = none := by
  rw [attributeAt?, Attribute.read?]
  simp [leadingName, h]

/-- A name without an equals sign behind it is no attribute. -/
theorem attributeAt?_eq_none_of_sign {name : Text} (hname : ∀ c ∈ name, isNameChar c = true)
    (hrest : StartsOutside isNameChar rest)
    (hsign : (rest.dropWhile isBlank).head? ≠ some (.char '='))
    (before : Option Code) : attributeAt? before (name ++ rest) = none := by
  rw [Option.eq_none_iff_forall_ne_some]
  intro a h
  obtain ⟨-, ha, tail, heq, -⟩ := attributeAt?_eq_some_iff.1 h
  rw [Attribute.text_append] at heq
  have hout := Attribute.startsOutside_isNameChar_sign ha
    (a.gapAfter ++ (a.quote.mark ++ (a.value ++ (a.quote.mark ++ tail))))
  have hleft : name = a.name := by
    have hrun := congrArg (List.takeWhile isNameChar) heq
    rwa [takeWhile_append_of_startsOutside hname hrest, takeWhile_append_of_startsOutside
      (fun c hc => isNameChar_of_mem_name ha.name hc) hout] at hrun
  rw [hleft, List.append_cancel_left_eq] at heq
  rw [heq, dropWhile_append_of_startsOutside ha.gapBefore (startsOutside_cons.2 (by decide))]
    at hsign
  exact hsign rfl

theorem Attribute.exists_name_eq_cons (ha : a.IsWritten) :
    ∃ c name, a.name = c :: name ∧ isNameStart c = true := by
  have := ha.name
  cases hname : a.name with
  | nil => simp [hname, isAttributeName] at this
  | cons c name =>
    simp only [hname, isAttributeName, Bool.and_eq_true] at this
    exact ⟨c, name, rfl, this.1⟩

/-- The written form ends in a quote or in the last character of a bare value. -/
theorem Attribute.getLast?_text_ne_close (ha : a.IsWritten) :
    a.text.getLast? ≠ some (.char '>') := by
  have hvalue := ha.value
  rw [text, List.getLast?_append, List.getLast?_append]
  cases hquote : a.quote with
  | double => simp [Quote.mark]
  | single => simp [Quote.mark]
  | bare =>
    rw [hquote] at hvalue
    obtain ⟨hne, hbare⟩ := hvalue
    rw [List.getLast?_eq_some_getLast hne]
    intro h
    simp only [Quote.mark, List.getLast?_nil, Option.none_or, Option.some_or,
      Option.some.injEq] at h
    have := hbare _ (List.getLast_mem hne)
    rw [h] at this
    exact absurd this (by decide)

@[simp] theorem attributesFrom_nil : attributesFrom before pos [] = [] := by
  rw [attributesFrom]

theorem attributesFrom_of_some (h : attributeAt? before (a.text ++ rest) = some a) :
    attributesFrom before pos (a.text ++ rest) =
      (pos, a) :: attributesFrom a.text.getLast? (pos + a.text.length) rest := by
  cases ht : a.text ++ rest with
  | nil =>
    have hpos := a.text_length_pos
    simp [(List.append_eq_nil_iff.1 ht).1] at hpos
  | cons c t =>
    rw [ht] at h
    rw [attributesFrom, h]
    simp only [← ht, List.drop_left]

theorem attributesFrom_of_none {c : Code} (h : attributeAt? before (c :: t) = none) :
    attributesFrom before pos (c :: t) = attributesFrom (some c) (pos + 1) t := by
  rw [attributesFrom, h]

/-- Induction along a scan: over the attributes found and the characters skipped. -/
@[elab_as_elim]
theorem attributesFrom_induction {motive : Option Code → Nat → Text → Prop}
    (nil : ∀ before pos, motive before pos [])
    (found : ∀ before pos (a : Attribute) (rest : Text),
      attributeAt? before (a.text ++ rest) = some a →
        motive a.text.getLast? (pos + a.text.length) rest → motive before pos (a.text ++ rest))
    (skipped : ∀ before pos c rest, attributeAt? before (c :: rest) = none →
      motive (some c) (pos + 1) rest → motive before pos (c :: rest))
    (before : Option Code) (pos : Nat) (t : Text) : motive before pos t := by
  fun_induction attributesFrom before pos t with
  | case1 before pos => exact nil before pos
  | case2 before pos c t a h ih =>
    obtain ⟨-, -, rest, ht, -⟩ := attributeAt?_eq_some_iff.1 h
    rw [ht] at h ih ⊢
    rw [List.drop_left] at ih
    exact found before pos a rest h ih
  | case3 before pos c t h ih => exact skipped before pos c t h ih

/-! ## What is found -/

theorem le_of_mem_attributesFrom {e : Nat × Attribute} (h : e ∈ attributesFrom before pos t) :
    pos ≤ e.1 := by
  induction before, pos, t using attributesFrom_induction with
  | nil => simp at h
  | found before pos a rest ha ih =>
    rw [attributesFrom_of_some ha] at h
    rcases List.mem_cons.1 h with rfl | h
    · exact Nat.le_refl _
    · have := ih h
      omega
  | skipped before pos c rest hc ih =>
    rw [attributesFrom_of_none hc] at h
    have := ih h
    omega

/-- An attribute that is found stands in the text and can be read where it stands. -/
theorem exists_of_mem_attributesFrom {e : Nat × Attribute} (h : e ∈ attributesFrom before pos t) :
    ∃ front rest, t = front ++ (e.2.text ++ rest) ∧ e.1 = pos + front.length ∧
      attributeAt? (front.getLast?.or before) (e.2.text ++ rest) = some e.2 := by
  induction before, pos, t using attributesFrom_induction with
  | nil => simp at h
  | found before pos a rest ha ih =>
    rw [attributesFrom_of_some ha] at h
    rcases List.mem_cons.1 h with rfl | h
    · exact ⟨[], rest, rfl, rfl, ha⟩
    · obtain ⟨front, tail, rfl, hpos, hread⟩ := ih h
      refine ⟨a.text ++ front, tail, by simp, by simp [hpos, Nat.add_assoc], ?_⟩
      have hlast : (a.text.getLast?.or before) = a.text.getLast? := by
        have := List.length_pos_iff.1 a.text_length_pos
        rw [List.getLast?_eq_some_getLast this, Option.some_or]
      rwa [List.getLast?_append, Option.or_assoc, hlast]
  | skipped before pos c rest hc ih =>
    rw [attributesFrom_of_none hc] at h
    obtain ⟨front, tail, rfl, hpos, hread⟩ := ih h
    refine ⟨c :: front, tail, rfl, by simp [hpos]; omega, ?_⟩
    rwa [List.getLast?_cons, Option.some_or, ← Option.or_some]

theorem isWritten_of_mem_attributesFrom {e : Nat × Attribute}
    (h : e ∈ attributesFrom before pos t) : e.2.IsWritten := by
  obtain ⟨_, _, _, _, hread⟩ := exists_of_mem_attributesFrom h
  exact (attributeAt?_append_eq_some_iff.1 hread).2.1

/-- A scan that starts at another offset finds the same, moved by the difference. -/
theorem attributesFrom_add (k : Nat) : attributesFrom before (pos + k) t =
    (attributesFrom before pos t).map fun e => (e.1 + k, e.2) := by
  induction before, pos, t using attributesFrom_induction with
  | nil => simp
  | found before pos a rest ha ih =>
    rw [attributesFrom_of_some ha, attributesFrom_of_some ha, List.map_cons, ← ih,
      Nat.add_right_comm]
  | skipped before pos c rest hc ih =>
    rw [attributesFrom_of_none hc, attributesFrom_of_none hc, ← ih, Nat.add_right_comm]

/-- A scan passes over a text at none of whose places an attribute can be read. -/
theorem attributesFrom_append_of_none {front : Text} (h : ∀ x c y, front = x ++ c :: y →
      attributeAt? (x.getLast?.or before) (c :: (y ++ rest)) = none) :
    attributesFrom before pos (front ++ rest) =
      attributesFrom (front.getLast?.or before) (pos + front.length) rest := by
  induction front generalizing before pos with
  | nil => simp
  | cons c front ih =>
    have hc := h [] c front rfl
    rw [List.getLast?_nil, Option.none_or] at hc
    rw [List.cons_append, attributesFrom_of_none hc, ih]
    · rw [List.getLast?_cons, Option.some_or, ← Option.or_some, List.length_cons,
        Nat.add_right_comm, Nat.add_assoc]
    · intro x d y heq
      have hd := h (c :: x) d y (by rw [heq]; rfl)
      rwa [List.getLast?_cons, Option.some_or, ← Option.or_some] at hd

/-- A scan that got to the end of a text passes over one at none of whose places an attribute can
be read. -/
theorem attributesFrom_skip {front part : Text} (h : ∀ x c y, part = x ++ c :: y →
      attributeAt? (front ++ x).getLast? (c :: (y ++ rest)) = none) :
    attributesFrom front.getLast? front.length (part ++ rest) =
      attributesFrom (front ++ part).getLast? (front ++ part).length rest := by
  rw [attributesFrom_append_of_none, List.getLast?_append, List.length_append]
  intro x c y heq
  rw [← List.getLast?_append]
  exact h x c y heq

/-! ## Spans -/

theorem Attribute.span_add (a : Attribute) (pos k : Nat) :
    a.span (pos + k) = (a.span pos).map (· + k) := by
  simp only [Attribute.span, AttributeSpan.map, AttributeSpan.mk.injEq, true_and, and_true]
  omega

theorem firstOfName_map (f : Nat → Nat) (seen : List Text) (spans : List (AttributeSpan Nat)) :
    firstOfName seen (spans.map (·.map f)) = (firstOfName seen spans).map (·.map f) := by
  induction spans generalizing seen with
  | nil => rfl
  | cons s spans ih =>
    have hname : (s.map f).name = s.name := rfl
    rw [List.map_cons, firstOfName, firstOfName, hname, ih, ih]
    split <;> rfl

/-- Of the spans of one name the first one counts. -/
theorem find?_firstOfName {name : Text} {seen : List Text} (h : name ∉ seen)
    (spans : List (AttributeSpan Nat)) :
    (firstOfName seen spans).find? (·.name == name) = spans.find? (·.name == name) := by
  induction spans generalizing seen with
  | nil => rfl
  | cons s spans ih =>
    rw [firstOfName]
    by_cases hs : s.name = name
    · rw [if_neg (by simpa [hs] using h), List.find?_cons, List.find?_cons]
      simp [hs]
    · have hne : (s.name == name) = false := by simpa using hs
      split
      · rw [ih h, List.find?_cons, hne]
      · rw [List.find?_cons, List.find?_cons, hne, ih (by simp [h, Ne.symm hs])]

theorem not_mem_seen_of_mem_firstOfName {s : AttributeSpan Nat} {seen : List Text}
    {spans : List (AttributeSpan Nat)} (h : s ∈ firstOfName seen spans) : s.name ∉ seen := by
  induction spans generalizing seen with
  | nil => cases h
  | cons t spans ih =>
    rw [firstOfName] at h
    split at h
    · exact ih h
    · next hseen =>
      rcases List.mem_cons.1 h with rfl | h
      · simpa using hseen
      · exact fun hmem => ih h (List.mem_cons_of_mem _ hmem)

/-- A span that counts is found by its name. -/
theorem find?_of_mem_firstOfName {s : AttributeSpan Nat} {seen : List Text}
    {spans : List (AttributeSpan Nat)} (h : s ∈ firstOfName seen spans) :
    (firstOfName seen spans).find? (·.name == s.name) = some s := by
  induction spans generalizing seen with
  | nil => cases h
  | cons t spans ih =>
    rw [firstOfName] at h ⊢
    split at h
    · next hseen => rw [if_pos hseen, ih h]
    · next hseen =>
      rw [if_neg hseen]
      rcases List.mem_cons.1 h with rfl | h
      · simp
      · have hne : t.name ≠ s.name := fun heq =>
          not_mem_seen_of_mem_firstOfName h (heq ▸ List.mem_cons_self)
        rw [List.find?_cons, beq_eq_false_iff_ne.2 hne]
        exact ih h

theorem firstOfName_sublist (seen : List Text) (spans : List (AttributeSpan Nat)) :
    (firstOfName seen spans).Sublist spans := by
  induction spans generalizing seen with
  | nil => exact List.Sublist.refl _
  | cons s spans ih =>
    rw [firstOfName]
    split
    · exact (ih seen).cons s
    · exact (ih (s.name :: seen)).cons_cons s

theorem nodup_firstOfName (seen : List Text) (spans : List (AttributeSpan Nat)) :
    ((firstOfName seen spans).map (·.name)).Nodup := by
  induction spans generalizing seen with
  | nil => exact List.nodup_nil
  | cons s spans ih =>
    rw [firstOfName]
    split
    · exact ih seen
    · refine List.nodup_cons.2 ⟨fun hmem => ?_, ih (s.name :: seen)⟩
      obtain ⟨t, ht, hname⟩ := List.mem_map.1 hmem
      exact not_mem_seen_of_mem_firstOfName ht (hname ▸ List.mem_cons_self)

theorem attributesBetween_eq (document : Text) (start stop : Nat) :
    attributesBetween document start stop = firstOfName []
      ((attributesFrom (if start = 0 then none else document[start - 1]?) start
        (document.slice start stop)).map fun e => e.2.span e.1) := rfl

theorem slice_append (front part back : Text) (start : Nat) :
    (front ++ (part ++ back)).slice (front.length + start) (front.length + part.length) =
      part.slice start part.length := by
  simp [slice, List.take_append, List.drop_append, List.take_of_length_le]

theorem getElem?_append_of_lt (front back : Text) {part : Text} {i : Nat} (h : i < part.length) :
    (front ++ (part ++ back))[front.length + i]? = part[i]? := by
  rw [List.getElem?_append_right (by omega), Nat.add_sub_cancel_left,
    List.getElem?_append_left h]

/-- A window of a document is scanned as the same window of a part that holds it, together with
the character before it. -/
theorem attributesBetween_append (front part back : Text) {start : Nat} (hpos : 0 < start)
    (hle : start ≤ part.length) :
    attributesBetween (front ++ (part ++ back)) (front.length + start)
        (front.length + part.length) =
      (attributesBetween part start part.length).map (·.map (· + front.length)) := by
  have hbefore : (front ++ (part ++ back))[front.length + start - 1]? = part[start - 1]? := by
    rw [Nat.add_sub_assoc hpos, getElem?_append_of_lt front back (by omega)]
  rw [attributesBetween_eq, attributesBetween_eq, slice_append, hbefore, if_neg (by omega),
    if_neg (by omega), Nat.add_comm, attributesFrom_add, ← firstOfName_map, List.map_map,
    List.map_map]
  congr 2
  funext e
  exact e.2.span_add e.1 front.length

/-! ## Cuts -/

/-- Where a character stands that is singled out of a text in two parts. -/
theorem append_eq_append_cons_iff {u v front back : Text} {c : Code} :
    u ++ v = front ++ c :: back ↔
      (∃ y, u = front ++ c :: y ∧ back = y ++ v) ∨ ∃ x, front = u ++ x ∧ v = x ++ c :: back := by
  rw [List.append_eq_append_iff]
  constructor
  · rintro (⟨x, rfl, rfl⟩ | ⟨y, rfl, hy⟩)
    · exact .inr ⟨x, rfl, rfl⟩
    · match y with
      | [] => exact .inr ⟨[], by simp, by simpa using hy.symm⟩
      | d :: y =>
        obtain ⟨rfl, rfl⟩ := List.cons.inj hy
        exact .inl ⟨y, rfl, rfl⟩
  · rintro (⟨y, rfl, rfl⟩ | ⟨x, rfl, rfl⟩)
    · exact .inr ⟨c :: y, rfl, rfl⟩
    · exact .inl ⟨x, rfl, rfl⟩

namespace Attribute

/-- The part of the written form in which a character stands. -/
inductive Place (a : Attribute) (front : Text) (c : Code) (back : Text) : Prop
  | name (x y : Text) (here : a.name = x ++ c :: y) (hfront : front = x)
  | gapBefore (x y : Text) (here : a.gapBefore = x ++ c :: y) (hfront : front = a.name ++ x)
    (hback : back = y ++ .char '=' :: (a.gapAfter ++ (a.quote.mark ++ (a.value ++ a.quote.mark))))
  | sign (here : c = '=') (hfront : front = a.name ++ a.gapBefore)
  | gapAfter (x y : Text) (here : a.gapAfter = x ++ c :: y)
    (hfront : front = a.name ++ (a.gapBefore ++ .char '=' :: x))
    (hback : back = y ++ (a.quote.mark ++ (a.value ++ a.quote.mark)))
  | mark (here : a.quote.mark = [c])
    (hfront : front = a.name ++ (a.gapBefore ++ .char '=' :: a.gapAfter) ∨
      front = a.opening ++ a.value)
  | value (x y : Text) (here : a.value = x ++ c :: y) (hfront : front = a.opening ++ x)
    (hback : back = y ++ a.quote.mark)

theorem Quote.mark_eq_append_cons {quote : Quote} {x y : Text} {c : Code}
    (h : quote.mark = x ++ c :: y) : x = [] ∧ y = [] ∧ quote.mark = [c] := by
  have hlen : quote.mark.length ≤ 1 := by cases quote <;> simp [Quote.mark]
  have heq := congrArg List.length h
  simp only [List.length_append, List.length_cons] at heq
  have hx : x = [] := List.length_eq_zero_iff.1 (by omega)
  have hy : y = [] := List.length_eq_zero_iff.1 (by omega)
  exact ⟨hx, hy, by rw [h, hx, hy]; rfl⟩

/-- Every character of the written form stands in one of its parts. -/
theorem place_of_text_eq {front back : Text} {c : Code} (h : a.text = front ++ c :: back) :
    a.Place front c back := by
  have htext := a.text_append []
  simp only [List.append_nil, h] at htext
  rcases append_eq_append_cons_iff.1 htext.symm with ⟨y, hname, -⟩ | ⟨x, hfront, hrest⟩
  · exact .name front y hname rfl
  rcases append_eq_append_cons_iff.1 hrest with ⟨y, hgap, hback⟩ | ⟨x', hx, hsign⟩
  · exact .gapBefore x y hgap hfront hback
  rw [hx] at hfront
  cases x' with
  | nil => exact .sign (List.cons.inj hsign).1.symm (by simpa using hfront)
  | cons d x' =>
    obtain ⟨rfl, hafter⟩ := List.cons.inj hsign
    rcases append_eq_append_cons_iff.1 hafter with ⟨y, hgap, hback⟩ | ⟨x, rfl, hmarked⟩
    · exact .gapAfter x' y hgap hfront hback
    rcases append_eq_append_cons_iff.1 hmarked with ⟨y, hmark, -⟩ | ⟨x, rfl, hvalue⟩
    · obtain ⟨rfl, -, hmark⟩ := Quote.mark_eq_append_cons hmark
      exact .mark hmark (.inl (by simpa using hfront))
    rcases append_eq_append_cons_iff.1 hvalue with ⟨y, hvalue, hback⟩ | ⟨x, rfl, hclose⟩
    · exact .value x y hvalue (by simpa [opening] using hfront) hback
    obtain ⟨rfl, -, hmark⟩ := Quote.mark_eq_append_cons hclose
    exact .mark hmark (.inr (by simpa [opening] using hfront))

/-- A name that starts in an attribute, and not behind a character of a name, lies in its value. -/
theorem exists_value_of_isNameStart (ha : a.IsWritten) {front back : Text} {c : Code}
    (h : a.text = front ++ c :: back) (hfront : front ≠ [])
    (hbehind : front.getLast?.any isNameChar = false) (hc : isNameStart c = true) :
    ∃ x y, a.value = x ++ c :: y ∧ front = a.opening ++ x ∧ back = y ++ a.quote.mark := by
  have hother : ∀ d, isNameStart d = false → c ≠ d := by
    rintro d hd rfl
    rw [hc] at hd
    cases hd
  have hmark : ∀ d, a.quote.mark = [d] → isNameStart d = false := by
    intro d
    cases a.quote <;> rintro ⟨⟩ <;> decide
  cases place_of_text_eq h with
  | name x y here hx =>
    subst hx
    have hlast : front.getLast hfront ∈ a.name := by
      rw [here]
      exact List.mem_append_left _ (List.getLast_mem hfront)
    rw [List.getLast?_eq_some_getLast hfront, Option.any_some,
      isNameChar_of_mem_name ha.name hlast] at hbehind
    cases hbehind
  | gapBefore x y here =>
    have hblank := ha.gapBefore c (by simp [here])
    exact absurd rfl (hother c (isNameStart_eq_false_of_isBlank hblank))
  | sign here => exact absurd here (hother '=' (by decide))
  | gapAfter x y here =>
    have hblank := ha.gapAfter c (by simp [here])
    exact absurd rfl (hother c (isNameStart_eq_false_of_isBlank hblank))
  | mark here => exact absurd rfl (hother c (hmark c here))
  | value x y here hx hback => exact ⟨x, y, here, hx, hback⟩

/-- No attribute begins inside the opening of another one: what stands before a place there is
the character of a name, or what stands there begins no name. -/
theorem isNameChar_or_not_isNameStart (ha : a.IsWritten) {front back : Text} {c : Code}
    (h : a.opening = front ++ c :: back) (hfront : front ≠ []) :
    front.getLast?.any isNameChar = true ∨ isNameStart c = false := by
  have htext : a.text = front ++ c :: (back ++ (a.value ++ a.quote.mark)) := by
    rw [text, h]
    simp
  cases hbehind : front.getLast?.any isNameChar with
  | true => exact .inl rfl
  | false =>
    cases hc : isNameStart c with
    | false => exact .inr rfl
    | true =>
      obtain ⟨x, y, -, hx, -⟩ := exists_value_of_isNameStart ha htext hfront hbehind hc
      have hlength := congrArg List.length h
      simp only [hx, List.length_append, List.length_cons] at hlength
      omega

end Attribute
end MarkupNaming.Markup
