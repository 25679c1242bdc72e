import MarkupNaming.Proofs.Markup.Tag

/-!
# Spans

What the spans found in a window say about their document. Each one stands in the window, behind
what was found before it, and tells where a name, an equals sign and a value are written. No two
have the same name. And nothing is left out: wherever an attribute can be read, one was found that
holds the place, and its name is reported.
-/
namespace MarkupNaming.Markup
open Text

/-! ## Windows -/

section Window
variable {document front part rest : Text} {start stop p : Nat}

theorem exists_drop_eq_slice_append (document : Text) (start stop : Nat) :
    ∃ back, document.drop start = document.slice start stop ++ back := by
  refine ⟨(document.drop start).drop (stop - start), ?_⟩
  rw [slice, List.drop_take, List.take_append_drop]

/-- What stands in a window stands in the document at the same place. -/
theorem slice_of_slice_eq (h : document.slice start stop = front ++ (part ++ rest)) :
    document.slice (start + front.length) (start + front.length + part.length) = part := by
  obtain ⟨back, hdrop⟩ := exists_drop_eq_slice_append document start stop
  rw [slice, List.drop_take, Nat.add_sub_cancel_left, ← List.drop_drop, hdrop, h,
    List.append_assoc, List.append_assoc, List.drop_left, List.take_left]

theorem take_of_slice_eq (h : document.slice start stop = front ++ rest) :
    document.take (start + front.length) = document.take start ++ front := by
  obtain ⟨back, hdrop⟩ := exists_drop_eq_slice_append document start stop
  rw [List.take_add, hdrop, h, List.append_assoc, List.take_left]

theorem slice_of_slice_eq_append (h : document.slice start stop = front ++ rest) :
    document.slice (start + front.length) stop = rest := by
  rw [slice, ← List.drop_drop, ← slice, h, List.drop_left]

theorem slice_append_slice (hstart : start ≤ p) (hp : p ≤ document.length) (hstop : p ≤ stop) :
    document.slice start p ++ document.slice p stop = document.slice start stop := by
  have hsplit : document.take stop = document.take p ++ (document.take stop).drop p := by
    have hle : document.take p = (document.take stop).take p := by
      rw [List.take_take, Nat.min_eq_left hstop]
    rw [hle, List.take_append_drop]
  have hle : start ≤ (document.take p).length := by
    rw [List.length_take]
    omega
  rw [slice, slice, slice, hsplit, List.drop_append_of_le_length hle, ← hsplit]

end Window

/-! ## Reading at a place -/

/-- Whether an attribute can be read at a place of a document, in a window that ends at `stop`. -/
def ReadsAt (document : Text) (stop p : Nat) (a : Attribute) : Prop :=
  attributeAt? (document.take p).getLast? (document.slice p stop) = some a

/-- Whether a span tells where an attribute is written: a name, which is that of the span up to
case, an equals sign among blanks, and the value in its quotes. The name is not the end of a longer
one. -/
structure AttributeSpan.Describes (s : AttributeSpan Nat) (document : Text) : Prop where
  written : ∃ name gapBefore gapAfter : Text, isAttributeName name = true ∧
    (∀ c ∈ gapBefore, isBlank c = true) ∧ (∀ c ∈ gapAfter, isBlank c = true) ∧
    s.name = lower name ∧ document.slice s.start s.stop =
      name ++ gapBefore ++ .char '=' :: gapAfter ++ s.quote.mark ++ s.value ++ s.quote.mark
  value : document.slice s.valueStart s.valueStop = s.value
  enclosed : s.quote.encloses s.value
  ordered : s.start < s.valueStart ∧ s.valueStart ≤ s.valueStop ∧ s.valueStop ≤ s.stop
  behind : ∀ i c, i + 1 = s.start → document[i]? = some c → isNameChar c = false

section Reads
variable {document : Text} {start stop p : Nat} {a : Attribute}

theorem exists_of_readsAt (h : ReadsAt document stop p a) : a.IsWritten ∧
    (document.take p).getLast?.any isNameChar = false ∧
      ∃ rest, document.slice p stop = a.text ++ rest := by
  obtain ⟨hbehind, ha, rest, heq, -⟩ := attributeAt?_eq_some_iff.1 h
  exact ⟨ha, hbehind, rest, heq⟩

/-- An attribute that can be read ends in the window and in the document. -/
theorem ReadsAt.le (h : ReadsAt document stop p a) :
    p + a.text.length ≤ stop ∧ p + a.text.length ≤ document.length := by
  obtain ⟨-, -, rest, heq⟩ := exists_of_readsAt h
  have hpos := a.text_length_pos
  have hlength := congrArg List.length heq
  rw [slice, List.length_drop, List.length_take, List.length_append] at hlength
  omega

theorem ReadsAt.describes (h : ReadsAt document stop p a) : (a.span p).Describes document := by
  obtain ⟨ha, hbehind, rest, heq⟩ := exists_of_readsAt h
  have hopening : 0 < a.opening.length := List.length_pos_iff.2 (by simp [Attribute.opening])
  have htext : document.slice p (p + a.text.length) = a.text :=
    slice_of_slice_eq (show document.slice p stop = [] ++ (a.text ++ rest) from heq)
  have hparts : document.slice p stop = a.opening ++ (a.value ++ (a.quote.mark ++ rest)) := by
    rw [heq, Attribute.text, List.append_assoc, List.append_assoc]
  have hvalue : document.slice (p + a.opening.length) (p + a.opening.length + a.value.length) =
      a.value := slice_of_slice_eq hparts
  refine ⟨⟨a.name, a.gapBefore, a.gapAfter, ha.name, ha.gapBefore, ha.gapAfter, rfl, htext⟩,
    hvalue, ha.value, ⟨Nat.lt_add_of_pos_right hopening, Nat.le_add_right _ _, ?_⟩, ?_⟩
  · change p + a.opening.length + a.value.length ≤ p + a.text.length
    rw [Attribute.text, List.length_append, List.length_append]
    omega
  · intro i c hi hc
    change i + 1 = p at hi
    subst hi
    rwa [List.take_add_one, hc, Option.toList_some, List.getLast?_concat, Option.any_some]
      at hbehind

end Reads

/-! ## The scan of a window -/

/-- The attributes that a scan of a window finds, with their places. -/
def scanned (document : Text) (start stop : Nat) : List (Nat × Attribute) :=
  attributesFrom (document.take start).getLast? start (document.slice start stop)

section Scan
variable {document front rest : Text} {before : Option Code} {start stop p : Nat} {a : Attribute}
  {e : Nat × Attribute}

theorem attributesBetween_eq_scanned (document : Text) (start stop : Nat) :
    attributesBetween document start stop =
      firstOfName [] ((scanned document start stop).map fun e => e.2.span e.1) := by
  have hbefore (h : start ≤ document.length) : (document.take start).getLast? =
      if start = 0 then none else document[start - 1]? := by
    rw [List.getLast?_take]
    split
    · rfl
    · rw [List.getElem?_eq_getElem (by omega), Option.some_or]
  rw [attributesBetween_eq, scanned]
  by_cases h : start ≤ document.length
  · rw [hbefore h]
  -- Behind the document there is nothing to scan.
  · have hnil : document.slice start stop = [] := by
      rw [slice, List.drop_eq_nil_iff, List.length_take]
      omega
    rw [hnil, attributesFrom_nil, attributesFrom_nil]

theorem scanned_append (front rest : Text) : scanned (front ++ rest) front.length
    (front ++ rest).length = attributesFrom front.getLast? front.length rest := by
  rw [scanned, List.take_left, slice, List.take_length, List.drop_left]

/-- What a scan finds can be read where it is found. -/
theorem readsAt_of_mem_scanned (h : e ∈ scanned document start stop) :
    start ≤ e.1 ∧ ReadsAt document stop e.1 e.2 := by
  obtain ⟨front, rest, heq, hpos, hread⟩ := exists_of_mem_attributesFrom h
  refine ⟨by omega, ?_⟩
  rw [ReadsAt, hpos, take_of_slice_eq heq, slice_of_slice_eq_append heq, List.getLast?_append]
  exact hread

/-- What is found later stands behind all of what was found before. -/
theorem pairwise_attributesFrom (before : Option Code) (pos : Nat) (t : Text) :
    (attributesFrom before pos t).Pairwise fun e f => e.1 + e.2.text.length ≤ f.1 := by
  induction before, pos, t using attributesFrom_induction with
  | nil => simp
  | found before pos a rest ha ih =>
    rw [attributesFrom_of_some ha]
    exact List.pairwise_cons.2 ⟨fun f hf => le_of_mem_attributesFrom hf, ih⟩
  | skipped before pos c rest hc ih =>
    rw [attributesFrom_of_none hc]
    exact ih

/-- Where an attribute can be read, one that is found begins or goes on. -/
theorem exists_mem_attributesFrom (pos : Nat)
    (h : attributeAt? (front.getLast?.or before) rest = some a) :
    ∃ e ∈ attributesFrom before pos (front ++ rest),
      e.1 ≤ pos + front.length ∧ pos + front.length < e.1 + e.2.text.length := by
  obtain ⟨t, ht⟩ : ∃ t, t = front ++ rest := ⟨_, rfl⟩
  rw [← ht]
  induction before, pos, t using attributesFrom_induction generalizing front with
  | nil before pos =>
    obtain ⟨rfl, rfl⟩ := List.append_eq_nil_iff.1 ht.symm
    obtain ⟨-, -, tail, heq, -⟩ := attributeAt?_eq_some_iff.1 h
    have hpos := a.text_length_pos
    rw [(List.append_eq_nil_iff.1 heq.symm).1] at hpos
    exact absurd hpos (Nat.lt_irrefl 0)
  | found before pos b tail hb ih =>
    rw [attributesFrom_of_some hb]
    by_cases hlt : front.length < b.text.length
    · exact ⟨_, List.mem_cons_self, Nat.le_add_right _ _, Nat.add_lt_add_left hlt pos⟩
    obtain ⟨x, rfl, rfl⟩ : ∃ x, front = b.text ++ x ∧ tail = x ++ rest := by
      rcases List.append_eq_append_iff.1 ht with hbehind | ⟨y, htext, hrest⟩
      · exact hbehind
      · have hlength := congrArg List.length htext
        rw [List.length_append] at hlength
        obtain rfl : y = [] := List.length_eq_zero_iff.1 (by omega)
        exact ⟨[], by simp [htext], by simpa using hrest.symm⟩
    have hlast : b.text.getLast?.or before = b.text.getLast? := by
      rw [List.getLast?_eq_some_getLast (List.length_pos_iff.1 b.text_length_pos), Option.some_or]
    rw [List.getLast?_append, Option.or_assoc, hlast] at h
    obtain ⟨e, he, hle, hlt⟩ := ih h rfl
    rw [List.length_append]
    exact ⟨e, List.mem_cons_of_mem _ he, by omega, by omega⟩
  | skipped before pos c tail hc ih =>
    rw [attributesFrom_of_none hc]
    cases front with
    | nil =>
      rw [List.nil_append] at ht
      rw [← ht, List.getLast?_nil, Option.none_or, hc] at h
      cases h
    | cons d front =>
      obtain ⟨rfl, rfl⟩ := List.cons.inj ht
      rw [List.getLast?_cons, Option.some_or, ← Option.or_some] at h
      obtain ⟨e, he, hle, hlt⟩ := ih h rfl
      rw [List.length_cons]
      exact ⟨e, he, by omega, by omega⟩

/-- Where an attribute can be read in a window, the scan finds one that holds the place. -/
theorem exists_mem_scanned (h : ReadsAt document stop p a) (hle : start ≤ p) :
    ∃ e ∈ scanned document start stop, e.1 ≤ p ∧ p < e.1 + e.2.text.length := by
  obtain ⟨hstop, hlength⟩ := h.le
  have hsplit : document.slice start stop = document.slice start p ++ document.slice p stop :=
    (slice_append_slice hle (by omega) (by omega)).symm
  have hp : p = start + (document.slice start p).length := by
    rw [slice, List.length_drop, List.length_take]
    omega
  have hread : attributeAt? ((document.slice start p).getLast?.or (document.take start).getLast?)
      (document.slice p stop) = some a := by
    rw [← List.getLast?_append, ← take_of_slice_eq hsplit, ← hp]
    exact h
  obtain ⟨e, he, hle, hlt⟩ := exists_mem_attributesFrom start hread
  rw [← hsplit] at he
  exact ⟨e, he, by omega, by omega⟩

end Scan

/-! ## The spans that count -/

section First
variable {spans : List (AttributeSpan Nat)} {s : AttributeSpan Nat}

/-- The name of a span is that of one that counts, which does not stand behind it. -/
theorem exists_mem_firstOfName (hs : s ∈ spans)
    (hordered : spans.Pairwise fun s t => s.start ≤ t.start) :
    ∃ t ∈ firstOfName [] spans, t.name = s.name ∧ t.start ≤ s.start := by
  obtain ⟨t, ht⟩ : ∃ t, spans.find? (·.name == s.name) = some t :=
    Option.isSome_iff_exists.1 (List.find?_isSome.2 ⟨s, hs, beq_self_eq_true _⟩)
  have hfirst := ht
  rw [← find?_firstOfName List.not_mem_nil] at hfirst
  obtain ⟨hname, before, behind, rfl, hbefore⟩ := List.find?_eq_some_iff_append.1 ht
  refine ⟨t, List.mem_of_find?_eq_some hfirst, eq_of_beq hname, ?_⟩
  rcases List.mem_append.1 hs with hs | hs
  · simpa using hbefore s hs
  · have hbehind := (List.pairwise_append.1 hordered).2.1
    rcases List.mem_cons.1 hs with rfl | hs
    · exact Nat.le_refl _
    · exact (List.pairwise_cons.1 hbehind).1 s hs

end First

section Between
variable {document marker : Text} {offset : Int} {start stop p : Nat} {a : Attribute}
  {s : AttributeSpan Nat} {e : Element}

theorem exists_of_mem_attributesBetween (h : s ∈ attributesBetween document start stop) :
    ∃ p a, s = a.span p ∧ start ≤ p ∧ ReadsAt document stop p a := by
  rw [attributesBetween_eq_scanned] at h
  obtain ⟨e, he, rfl⟩ := List.mem_map.1 ((firstOfName_sublist _ _).subset h)
  obtain ⟨hle, hreads⟩ := readsAt_of_mem_scanned he
  exact ⟨e.1, e.2, rfl, hle, hreads⟩

theorem pairwise_attributesBetween (document : Text) (start stop : Nat) :
    (attributesBetween document start stop).Pairwise fun s t => s.stop ≤ t.start := by
  rw [attributesBetween_eq_scanned]
  refine List.Pairwise.sublist (firstOfName_sublist _ _) ?_
  exact List.pairwise_map.2 (pairwise_attributesFrom _ start _)

/-- Where an attribute can be read, one holds the place whose name is reported. -/
theorem exists_mem_attributesBetween (h : ReadsAt document stop p a) (hle : start ≤ p) :
    ∃ q b, start ≤ q ∧ q ≤ p ∧ p < q + b.text.length ∧ ReadsAt document stop q b ∧
      ∃ s ∈ attributesBetween document start stop, s.name = lower b.name ∧ s.start ≤ q := by
  obtain ⟨e, he, hbefore, hbehind⟩ := exists_mem_scanned h hle
  obtain ⟨hstart, hreads⟩ := readsAt_of_mem_scanned he
  have hordered : ((scanned document start stop).map fun e => e.2.span e.1).Pairwise
      fun s t => s.start ≤ t.start := by
    refine List.pairwise_map.2 ((pairwise_attributesFrom _ start _).imp fun {e f} hef => ?_)
    change e.1 ≤ f.1
    omega
  obtain ⟨s, hs, hname, hfirst⟩ :=
    exists_mem_firstOfName (List.mem_map.2 ⟨e, he, rfl⟩) hordered
  rw [← attributesBetween_eq_scanned] at hs
  exact ⟨e.1, e.2, hstart, hbefore, hbehind, hreads, s, hs, hname, hfirst⟩

theorem stop_lt_of_locate? (h : locate? document offset marker = some e) (hs : s ∈ e.attributes) :
    s.stop < e.stop := by
  obtain ⟨front, tag, back, rfl, rfl⟩ := Tag.exists_of_locate? h
  obtain ⟨span, hspan, rfl⟩ := List.mem_map.1 hs
  obtain ⟨entry, hentry, rfl⟩ := List.mem_map.1 ((firstOfName_sublist _ _).subset hspan)
  obtain ⟨before, behind, hbody, hpos, -⟩ := tag.exists_of_mem_entries hentry
  have hlength := congrArg List.length hbody
  rw [List.length_append, List.length_append] at hlength
  change entry.1 + tag.bodyOffset + entry.2.text.length + front.length <
    front.length + tag.text.length
  rw [Tag.length_text]
  omega

/-- The spans found in a window describe attributes of the document. They lie in the window one
behind the other, no two have the same name, and wherever an attribute can be read, it or one
around it was found, and its name is reported. Those of an element lie between the name of its tag
and the final `>`. -/
theorem attributesBetween_describes (document : Text) (start stop : Nat) :
    (∀ s ∈ attributesBetween document start stop,
      s.Describes document ∧ start ≤ s.start ∧ s.stop ≤ stop) ∧
    ((attributesBetween document start stop).Pairwise fun s t => s.stop ≤ t.start) ∧
    ((attributesBetween document start stop).map (·.name)).Nodup ∧
    (∀ p a, start ≤ p → ReadsAt document stop p a →
      ∃ q b, start ≤ q ∧ q ≤ p ∧ p < q + b.text.length ∧ ReadsAt document stop q b ∧
        ∃ s ∈ attributesBetween document start stop, s.name = lower b.name ∧ s.start ≤ q) ∧
    ∀ offset marker e, locate? document offset marker = some e →
      e.attributes = attributesBetween document (e.start + 1 + e.tagName.length) e.stop ∧
      ∀ s ∈ e.attributes, e.start + 1 + e.tagName.length ≤ s.start ∧ s.stop < e.stop := by
  refine ⟨fun s hs => ?_, pairwise_attributesBetween document start stop, ?_,
    fun p a hle h => exists_mem_attributesBetween h hle, fun offset marker e he => ?_⟩
  · obtain ⟨p, a, rfl, hle, hreads⟩ := exists_of_mem_attributesBetween hs
    exact ⟨hreads.describes, hle, hreads.le.1⟩
  · rw [attributesBetween_eq_scanned]
    exact nodup_firstOfName _ _
  · obtain ⟨-, u, -, -, -, -, hattributes⟩ := locate?_eq_some_iff.1 he
    refine ⟨hattributes, fun s hs => ⟨?_, stop_lt_of_locate? he hs⟩⟩
    rw [hattributes] at hs
    obtain ⟨p, a, rfl, hle, -⟩ := exists_of_mem_attributesBetween hs
    exact hle

end Between

/-- Of two attributes of one name up to case the first one is reported, and it is described. -/
theorem attributesBetween_describes_capital :
    (∃ s ∈ attributesBetween "<p a='1' A=2>" 2 13, s.Describes "<p a='1' A=2>" ∧ 2 ≤ s.start ∧
      s.stop ≤ 13) ∧
    (∃ q b, 2 ≤ q ∧ q ≤ 9 ∧ 9 < q + b.text.length ∧ ReadsAt "<p a='1' A=2>" 13 q b ∧
      ∃ s ∈ attributesBetween "<p a='1' A=2>" 2 13, s.name = lower b.name ∧ s.start ≤ q) ∧
    ∃ e, locate? ("<p a='1' A=2>" : Text) 0 = some e ∧ ∃ s ∈ e.attributes,
      e.start + 1 + e.tagName.length ≤ s.start ∧ s.stop < e.stop := by
  obtain ⟨hdescribes, -, -, hreported, helement⟩ :=
    attributesBetween_describes "<p a='1' A=2>" 2 13
  have found : (⟨"a", "1", 3, 8, 6, 7, .single⟩ : AttributeSpan Nat) ∈
      attributesBetween "<p a='1' A=2>" 2 13 := by
    decide +kernel
  have reads : ReadsAt "<p a='1' A=2>" 13 9 ⟨"A", [], [], .bare, "2"⟩ := by
    unfold ReadsAt
    decide
  have located : locate? ("<p a='1' A=2>" : Text) 0 = some
      ⟨"p", 0, 13, [⟨"a", "1", 3, 8, 6, 7, .single⟩], defaultPathMarker⟩ := by
    decide +kernel
  exact ⟨⟨_, found, hdescribes _ found⟩, hreported 9 _ (by decide) reads,
    ⟨_, located, _, List.mem_singleton_self _,
      (helement 0 _ _ located).2 _ (List.mem_singleton_self _)⟩⟩

end MarkupNaming.Markup
