import MarkupNaming.Proofs.Markup.Relocation
import MarkupNaming.Proofs.Markup.Repetition
import MarkupNaming.Proofs.Markup.Locating

/-!
# Cursors

Whether a cursor that stays at its offset still finds its element after a class has been added to
it. Text behind the class moves, so a tag behind the cursor may come to stand at or in front of it:
when blanks at the end of the class value give way to a shorter class. A tag may also open anew,
when a class is put between the `<` and the `/` of a tag that ends in `</>`. There is no other way.
-/
namespace MarkupNaming.Markup
open Text

/-! ## Openings of a text that changes in the middle -/

section Openings
variable {limit i : Nat} {u v : Text} {front gone new rest : Text}

theorem opensTag_front (h : i + 1 < u.length) (v v' : Text) :
    opensTag ((u ++ v).drop i) = opensTag ((u ++ v').drop i) := by
  rw [Bool.eq_iff_iff, opensTag_drop_iff, opensTag_drop_iff, List.getElem?_append_left (by omega),
    List.getElem?_append_left (by omega), List.getElem?_append_left (by omega),
    List.getElem?_append_left (by omega)]

theorem opensTag_seam (h : i + 1 = u.length) (v : Text) :
    opensTag ((u ++ v).drop i) = true ↔
      u.getLast? = some (.char '<') ∧ v.head? ≠ some (.char '/') := by
  rw [opensTag_drop_iff, List.getElem?_append_left (by omega),
    List.getElem?_append_right (by omega), List.getLast?_eq_getElem?, List.head?_eq_getElem?, h,
    Nat.sub_self, ← h, Nat.add_sub_cancel]

theorem opensTag_behind (u v : Text) (i : Nat) :
    opensTag ((u ++ v).drop (u.length + i)) = opensTag (v.drop i) := by
  rw [List.drop_length_add_append]

theorem opensTag_of_not_mem (h : .char '<' ∉ u) (hi : i < u.length) (v : Text) :
    opensTag ((u ++ v).drop i) = false := by
  rw [Bool.eq_false_iff]
  intro hopens
  have hget := (opensTag_drop_iff.1 hopens).1
  rw [List.getElem?_append_left hi] at hget
  exact h (List.mem_of_getElem? hget)

/-- The middle part of a text is changed that has no openings between its start and a limit. Then
there are openings if the change makes one at its seam, or if it moves one there from behind the
limit. -/
theorem noOpening_replace_iff (hfront : front ≠ []) (hnew : .char '<' ∉ new)
    (hclear : ∀ k, 0 < k → k ≤ limit → opensTag ((front ++ (gone ++ rest)).drop k) = false) :
    (∀ k, 0 < k → k ≤ limit → opensTag ((front ++ (new ++ rest)).drop k) = false) ↔
      ¬ ((1 < front.length ∧ front.length ≤ limit + 1 ∧ front.getLast? = some (.char '<') ∧
          (gone ++ rest).head? = some (.char '/') ∧ (new ++ rest).head? ≠ some (.char '/')) ∨
        ∃ q, front.length + gone.length ≤ q ∧ limit < q ∧ q + new.length ≤ limit + gone.length ∧
          opensTag ((front ++ (gone ++ rest)).drop q) = true) := by
  have hpos : 0 < front.length := List.length_pos_iff.2 hfront
  constructor
  · rintro hnone (⟨hone, hle, hlast, -, hslash⟩ | ⟨q, hq, hlimit, hmoved, hopens⟩)
    · have hseam := (opensTag_seam (i := front.length - 1) (by omega) (new ++ rest)).2
        ⟨hlast, hslash⟩
      rw [hnone _ (by omega) (by omega)] at hseam
      cases hseam
    · obtain ⟨k, rfl⟩ : ∃ k, q = front.length + (gone.length + k) :=
        ⟨q - front.length - gone.length, by omega⟩
      have hclosed := hnone (front.length + (new.length + k)) (by omega) (by omega)
      rw [opensTag_behind, opensTag_behind] at hopens hclosed
      rw [hopens] at hclosed
      cases hclosed
  · intro hnot k hk hle
    rw [Bool.eq_false_iff]
    intro hopens
    rcases Nat.lt_trichotomy (k + 1) front.length with hlt | hseam | hbehind
    · rw [opensTag_front hlt _ (gone ++ rest), hclear k hk hle] at hopens
      cases hopens
    · obtain ⟨hlast, hslash⟩ := (opensTag_seam hseam _).1 hopens
      refine hnot (.inl ⟨by omega, by omega, hlast, ?_, hslash⟩)
      -- With another character there, a tag would have opened before.
      refine Decidable.byContradiction fun hother => ?_
      have hopened := (opensTag_seam hseam (gone ++ rest)).2 ⟨hlast, hother⟩
      rw [hclear k hk hle] at hopened
      cases hopened
    · obtain ⟨i, rfl⟩ : ∃ i, k = front.length + i := ⟨k - front.length, by omega⟩
      rw [opensTag_behind] at hopens
      rcases Nat.lt_or_ge i new.length with hi | hi
      · rw [opensTag_of_not_mem hnew hi] at hopens
        cases hopens
      · obtain ⟨j, rfl⟩ : ∃ j, i = new.length + j := ⟨i - new.length, by omega⟩
        rw [opensTag_behind] at hopens
        have hmoved : opensTag ((front ++ (gone ++ rest)).drop
            (front.length + (gone.length + j))) = true := by
          rw [opensTag_behind, opensTag_behind, hopens]
        rcases Nat.lt_or_ge limit (front.length + (gone.length + j)) with hlimit | hlimit
        · exact hnot (.inr ⟨_, by omega, hlimit, by omega, hmoved⟩)
        · rw [hclear _ (by omega) hlimit] at hmoved
          cases hmoved

end Openings

/-! ## What a class changes -/

theorem opening_not_mem_escapeFor {quote : Quote} {value : Text} (h : .char '<' ∉ value) :
    .char '<' ∉ escapeFor quote value := by
  intro hmem
  rcases mem_escapeFor hmem with hmem | hmem | hmem
  · exact h hmem
  · exact absurd hmem (by decide)
  · exact absurd hmem (by decide)

/-- A class behind the classes of a value, as it is written, leaves the value up to its trailing
blanks. -/
theorem exists_escapeFor_appendClass {quote : Quote} {value newClass : Text} {q : Code}
    (hmark : quote.enclosing.mark = [q]) (hvalue : q ∉ value) (hclass : .char '<' ∉ newClass) :
    ∃ new, .char '<' ∉ new ∧
      escapeFor quote (appendClass value newClass) = trimEnd value ++ new := by
  unfold appendClass
  dsimp only
  split
  · next hempty =>
    rw [List.isEmpty_iff.1 hempty]
    exact ⟨_, opening_not_mem_escapeFor hclass, rfl⟩
  · obtain ⟨gap, -, heq⟩ := exists_trimEnd_append value
    have htrim : q ∉ trimEnd value := by
      rw [heq] at hvalue
      exact fun hmem => hvalue (List.mem_append_left _ hmem)
    refine ⟨escapeFor quote (.char ' ' :: newClass),
      opening_not_mem_escapeFor (by simp [hclass]), ?_⟩
    obtain ⟨entity, -, hescape⟩ := exists_escapeFor_eq hmark
    rw [hescape, List.flatMap_append, ← hescape, ← hescape, escapeFor_eq_self hmark htrim]

/-- A class put behind the value of an attribute changes a part of it that ends with the value. No
tag opens in that part or at its start. -/
theorem Attribute.exists_withValue_appendClass {a : Attribute} {newClass : Text}
    (ha : a.IsWritten) (hclass : .char '<' ∉ newClass) :
    ∃ first gone new last, a.text = first ++ (gone ++ last) ∧
      (a.withValue (appendClass a.value newClass)).text = first ++ (new ++ last) ∧
      .char '<' ∉ new ∧ first ≠ [] ∧
      first.length + gone.length = a.opening.length + a.value.length ∧
      (first.getLast? = some (.char '<') → ∃ c, (gone ++ last).head? = some c ∧ c ≠ '/') := by
  obtain ⟨q, hmark, hq, hvalue⟩ := exists_enclosing_mark ha
  obtain ⟨new, hnew, hescape⟩ := exists_escapeFor_appendClass hmark hvalue hclass
  by_cases hquote : a.quote = .bare
  · have hbare := ha.value
    rw [hquote] at hbare
    have hmem : .char '<' ∉ a.value := by
      intro hmem
      exact absurd (by decide) (isBareChar_eq_true_iff.1 (hbare.2 _ hmem)).2
    have hopening : a.opening = a.name ++ a.gapBefore ++ .char '=' :: a.gapAfter := by
      simp [opening, hquote, Quote.mark]
    refine ⟨a.opening, a.value, .char '"' :: (trimEnd a.value ++ new) ++ [Code.char '"'], [], ?_,
      ?_, ?_, ?_, rfl,
      ?_⟩
    · simp [text, hquote, Quote.mark]
    · rw [hquote] at hescape
      simp [text, opening, withValue, hescape, hquote, Quote.mark, Quote.enclosing]
    · obtain ⟨gap, -, heq⟩ := exists_trimEnd_append a.value
      rw [heq, List.mem_append, not_or] at hmem
      simp [hmem.1, hnew]
    · simp [hopening]
    · -- The last character is the equals sign or a blank.
      intro hlast
      have hend : .char '<' ∈ .char '=' :: a.gapAfter := by
        rw [hopening, List.getLast?_append, List.getLast?_cons, Option.some_or,
          ← List.getLast?_cons] at hlast
        exact List.mem_of_getLast? hlast
      rcases List.mem_cons.1 hend with h | h
      · exact absurd h (by decide)
      · exact absurd (ha.gapAfter _ h) (by decide)
  · obtain ⟨gap, hgap, heq⟩ := exists_trimEnd_append a.value
    obtain ⟨-, -, henclosing, -⟩ := Quote.exists_mark_eq hquote
    have hmark' : a.quote.mark = [q] := by rw [← henclosing, hmark]
    refine ⟨a.opening ++ trimEnd a.value, gap, new, a.quote.mark, ?_, ?_, hnew, ?_, ?_, ?_⟩
    · rw [List.append_assoc, ← List.append_assoc (trimEnd a.value), ← heq, text, List.append_assoc]
    · simp [text, opening, withValue, hescape, henclosing]
    · simp [opening]
    · have := congrArg List.length heq
      rw [List.length_append] at this ⊢
      omega
    · intro _
      rw [hmark']
      cases gap with
      | nil =>
        refine ⟨q, rfl, ?_⟩
        rintro rfl
        exact absurd hq (by decide)
      | cons c gap =>
        refine ⟨c, rfl, ?_⟩
        rintro rfl
        exact absurd (hgap _ List.mem_cons_self) (by decide)

/-! ## Where a cursor leads -/

namespace Tag
variable {tag tag' : Tag} {front back marker newClass : Text} {offset : Int} {limit : Nat}

/-- A cursor leads to a tag if it is not in front of it and no tag opens between them. -/
theorem exists_locate?_start_iff :
    (∃ e, locate? (front ++ (tag.text ++ back)) offset marker = some e ∧
        e.start = front.length) ↔
      front.length ≤ offset.toNat ∧ ∀ k, 0 < k → k ≤ offset.toNat - front.length →
        opensTag ((tag.text ++ back).drop k) = false := by
  have hlast : (∃ e, locate? (front ++ (tag.text ++ back)) offset marker = some e ∧
      e.start = front.length) ↔
        lastOpening? (front ++ (tag.text ++ back)) offset.toNat = some front.length := by
    constructor
    · rintro ⟨e, he, hstart⟩
      rw [(locate?_eq_some_iff.1 he).1, hstart]
    · intro hopening
      refine ⟨tag.element front.length marker, ?_, rfl⟩
      rw [← tag.locate?_append front back marker]
      simp only [locate?, hopening, Int.toNat_natCast,
        lastOpening?_append (tag.opensTag_text_append back)]
  have hhere : opensTag ((front ++ (tag.text ++ back)).drop front.length) = true := by
    rw [List.drop_left, opensTag_text_append]
  rw [hlast, lastOpening?_eq_some_iff, and_iff_right hhere]
  refine and_congr_right fun hle => ⟨fun h k hpos hk => ?_, fun h j hlt hj => ?_⟩
  · rw [← opensTag_behind front]
    exact h _ (by omega) (by omega)
  · obtain ⟨k, rfl⟩ : ∃ k, j = front.length + k := ⟨j - front.length, by omega⟩
    rw [opensTag_behind]
    exact h k (by omega) (by omega)

theorem exists_concat_of_name_append {part x : Text} {c : Code} (hc : isWord c = false)
    (h : .char '<' :: (tag.name.text ++ part) = x ++ [c]) :
    ∃ y, part = y ++ [c] ∧ x = .char '<' :: (tag.name.text ++ y) := by
  rcases List.eq_nil_or_concat part with rfl | ⟨y, d, rfl⟩
  · have hlast : (.char '<' :: tag.name.text).getLast? = some c := by
      rw [List.append_nil] at h
      rw [h, List.getLast?_concat]
    rw [tag.name.isWord_of_getLast? hlast] at hc
    cases hc
  · rw [List.concat_eq_append, ← List.append_assoc, ← List.cons_append] at h
    obtain ⟨hinit, hlast⟩ := List.append_inj' h rfl
    rw [List.concat_eq_append, hlast]
    exact ⟨y, rfl, hinit.symm⟩

/-- A new attribute belongs behind a `<` exactly if the tag ends in `</>` or blanks follow. -/
theorem isSuffix_text_iff :
    ("</>" : Text) <:+ tag.text ↔
      tag.stem.getLast? = some (.char '<') ∧ tag.ending = [.char '/'] := by
  constructor
  · rintro ⟨x, hx⟩
    have htext :
        (.char '<' :: (tag.name.text ++ tag.body)) ++ [Code.char '>'] =
          (x ++ [Code.char '<'] ++ [Code.char '/']) ++ [Code.char '>'] := by
      rw [← text_eq_append, ← hx]
      simp
    obtain ⟨y, hbody, hy⟩ :=
      exists_concat_of_name_append (by decide) (List.append_inj' htext rfl).1
    obtain ⟨z, rfl, -⟩ := exists_concat_of_name_append (by decide) hy.symm
    have hcloses : tag.closesItself = true := by
      rw [closesItself, hbody, List.getLast?_concat]
      rfl
    have hstem : tag.stem = z ++ [Code.char '<'] := by
      rw [stem, unslashed, if_pos hcloses, hbody, List.dropLast_concat]
      refine trimEnd_eq_self fun c hc => ?_
      obtain rfl : '<' = c := by simpa using hc
      decide
    refine ⟨by rw [hstem, List.getLast?_concat], ?_⟩
    rw [ending, hstem, hbody, List.drop_left]
  · rintro ⟨hlast, hending⟩
    obtain ⟨y, hy⟩ := List.getLast?_eq_some_iff.1 hlast
    refine ⟨.char '<' :: (tag.name.text ++ y), ?_⟩
    rw [text, ← stem_append_ending, hending, hy]
    simp

/-- A new attribute changes a part of the text that is empty. A tag opens at its start only if the
attribute parts the `<` and the `/` of a final `</>`. -/
theorem noOpening_insert_iff (h : .char '>' ∉ (newAttribute classAttribute newClass).text)
    (hclass : .char '<' ∉ newClass)
    (hclear : ∀ k, 0 < k → k ≤ limit → opensTag ((tag.text ++ back).drop k) = false) :
    (∀ k, 0 < k → k ≤ limit →
        opensTag (((tag.insert (newAttribute classAttribute newClass).text h).text ++
          back).drop k) =
          false) ↔
      ¬ (("</>" : Text) <:+ tag.text ∧ tag.text.length ≤ limit + 3) := by
  have hsplit : tag.text ++ back =
      (.char '<' :: (tag.name.text ++ tag.stem)) ++ ([] ++ (tag.ending ++ .char '>' :: back)) := by
    rw [text_append, ← stem_append_ending]
    simp
  have hsplit' : (tag.insert (newAttribute classAttribute newClass).text h).text ++ back =
      (.char '<' :: (tag.name.text ++ tag.stem)) ++
        (.char ' ' :: (newAttribute classAttribute newClass).text ++
          (tag.ending ++ .char '>' :: back)) := by
    rw [text_append]
    simp [insert, withBody]
  have hnew : .char '<' ∉ .char ' ' :: (newAttribute classAttribute newClass).text := by
    have hname : .char '<' ∉ classAttribute := by decide
    simp [newAttribute, Attribute.text, Attribute.opening, Quote.mark, hname,
      opening_not_mem_escapeFor hclass]
  have hlength : tag.text.length =
      (.char '<' :: (tag.name.text ++ tag.stem)).length + tag.ending.length + 1 := by
    rw [length_text, ← stem_append_ending]
    simp [bodyOffset]
    omega
  rw [hsplit] at hclear
  rw [hsplit', noOpening_replace_iff (List.cons_ne_nil _ _) hnew hclear, not_iff_not]
  constructor
  · rintro (⟨-, hle, hlast, hslash, -⟩ | ⟨q, -, hlimit, hq, -⟩)
    · have hending : tag.ending = [.char '/'] := by
        obtain ⟨gap, hgap, hending⟩ := tag.exists_ending_eq
        rw [List.nil_append, hending] at hslash
        rw [hending]
        cases gap with
        | nil => split at hslash <;> simp_all
        | cons c gap =>
          obtain rfl : c = '/' := by simpa using hslash
          exact absurd (hgap _ List.mem_cons_self) (by decide)
      obtain ⟨y, hy⟩ := List.getLast?_eq_some_iff.1 hlast
      obtain ⟨z, hstem, -⟩ := exists_concat_of_name_append (by decide) hy
      refine ⟨isSuffix_text_iff.2 ⟨?_, hending⟩, ?_⟩
      · rw [hstem, List.getLast?_concat]
      · rw [hlength, hending, List.length_singleton]
        omega
    · rw [List.length_cons, List.length_nil] at hq
      omega
  · rintro ⟨hsuffix, hle⟩
    obtain ⟨hlast, hending⟩ := isSuffix_text_iff.1 hsuffix
    obtain ⟨y, hy⟩ := List.getLast?_eq_some_iff.1 hlast
    rw [hlength, hending, List.length_singleton] at hle
    refine .inl ⟨?_, by omega, ?_, by simp [hending], by simp⟩
    · rw [hy, ← List.append_assoc, List.length_cons, List.length_append]
      exact Nat.succ_lt_succ (Nat.succ_pos _)
    · rw [hy, ← List.append_assoc, ← List.cons_append, List.getLast?_concat]

/-- A class behind the classes of an attribute changes a part of the text that ends with the value,
and no tag opens at the start of that part. -/
theorem noOpening_appended_iff {f b : Text} {a : Attribute} (ha : a.IsWritten)
    (hbody : tag.body = f ++ (a.text ++ b)) (hfront : f ≠ [])
    (h : .char '>' ∉ (a.withValue (appendClass a.value newClass)).text)
    (hclass : .char '<' ∉ newClass)
    (hclear : ∀ k, 0 < k → k ≤ limit → opensTag ((tag.text ++ back).drop k) = false) :
    (∀ k, 0 < k → k ≤ limit →
        opensTag (((tag.replace hbody hfront _ h).text ++ back).drop k) = false) ↔
      ¬ ∃ q, tag.bodyOffset + f.length + a.opening.length + a.value.length ≤ q ∧ limit < q ∧
        q + (tag.replace hbody hfront _ h).text.length ≤ limit + tag.text.length ∧
        opensTag ((tag.text ++ back).drop q) = true := by
  obtain ⟨first, gone, new, last, htext, htext', hnew, hfirst, hlength, hseam⟩ :=
    Attribute.exists_withValue_appendClass ha hclass
  have hsplit : tag.text ++ back =
      (.char '<' :: (tag.name.text ++ (f ++ first))) ++
        (gone ++ (last ++ (b ++ .char '>' :: back))) := by
    rw [text_append, hbody, htext]
    simp
  have hsplit' : (tag.replace hbody hfront _ h).text ++ back =
      (.char '<' :: (tag.name.text ++ (f ++ first))) ++
        (new ++ (last ++ (b ++ .char '>' :: back))) := by
    rw [text_append]
    simp [replace, withBody, htext']
  have hstop : (.char '<' :: (tag.name.text ++ (f ++ first))).length + gone.length =
      tag.bodyOffset + f.length + a.opening.length + a.value.length := by
    simp [bodyOffset]
    omega
  have hgrown : (tag.replace hbody hfront _ h).text.length + gone.length =
      tag.text.length + new.length := by
    have := congrArg List.length hsplit
    have := congrArg List.length hsplit'
    simp only [List.length_append] at *
    omega
  rw [hsplit']
  have hclear' := hclear
  rw [hsplit] at hclear'
  rw [noOpening_replace_iff (List.cons_ne_nil _ _) hnew hclear', not_iff_not, ← hsplit, hstop]
  constructor
  · rintro (⟨-, -, hlast, hslash, -⟩ | ⟨q, hle, hlimit, hq, hopens⟩)
    · rw [← List.append_assoc, ← List.cons_append, List.getLast?_append,
        List.getLast?_eq_some_getLast hfirst, Option.some_or,
        ← List.getLast?_eq_some_getLast hfirst] at hlast
      obtain ⟨c, hhead, hc⟩ := hseam hlast
      rw [← List.append_assoc, List.head?_append, hhead] at hslash
      exact absurd (Option.some.inj hslash) hc
    · exact ⟨q, hle, hlimit, by omega, hopens⟩
  · rintro ⟨q, hle, hlimit, hq, hopens⟩
    exact .inr ⟨q, hle, hlimit, by omega, hopens⟩

/-- A class put into a tag opens no other tag, unless the tag ends in `</>` and has no classes, or
the tag gets shorter and an opening behind the class value moves. -/
theorem Takes.noOpening_iff (htakes : tag.Takes newClass tag') (hclass : .char '<' ∉ newClass)
    (hclear : ∀ k, 0 < k → k ≤ limit → opensTag ((tag.text ++ back).drop k) = false) :
    (∀ k, 0 < k → k ≤ limit → opensTag ((tag'.text ++ back).drop k) = false) ↔
      ¬ ((tag.written? classAttribute = none ∧ ("</>" : Text) <:+ tag.text ∧
          tag.text.length ≤ limit + 3) ∨
        ∃ e, tag.written? classAttribute = some e ∧
          ∃ q, tag.bodyOffset + e.1 + e.2.opening.length + e.2.value.length ≤ q ∧ limit < q ∧
            q + tag'.text.length ≤ limit + tag.text.length ∧
            opensTag ((tag.text ++ back).drop q) = true) := by
  cases htakes with
  | listed found hmem =>
    refine iff_of_true hclear ?_
    rintro (⟨absent, -⟩ | ⟨e, -, q, -, hlimit, hq, -⟩)
    · rw [found] at absent
      cases absent
    · omega
  | added absent h =>
    rw [noOpening_insert_iff h hclass hclear, absent]
    simp
  | @appended f b a found hbody hfront h =>
    have ha : a.IsWritten := isWritten_of_mem_attributesFrom (List.mem_of_find?_eq_some found)
    rw [noOpening_appended_iff ha hbody hfront h hclass hclear, found]
    simp

end Tag

/-- Whether an opening tag stands between an element and the cursor once the element has got a
class. Either the class parts the `<` and the `/` of a final `</>`, or the tag gets shorter, which
moves an opening from behind the class value to the cursor. -/
def Element.Loses (e : Element) (document newClass : Text) (cursor : Nat) : Prop :=
  (e.classSpan? = none ∧ ("</>" : Text) <:+ e.tagText document ∧ e.stop ≤ cursor + 3) ∨
    ∃ span, e.classSpan? = some span ∧ ∃ q, span.valueStop ≤ q ∧ cursor < q ∧
      q + (applyClass (e.tagText document) e newClass).length ≤
        cursor + (e.tagText document).length ∧
      opensTag (document.drop q) = true

/-- A cursor at which an element was located leads to the same element after the element got a
class, unless the class made the element lose it. -/
theorem locate?_apply_buildEdit_start_iff {document marker newClass : Text} {offset : Int}
    {e : Element} (located : locate? document offset marker = some e) (hne : newClass ≠ [])
    (hopen : .char '<' ∉ newClass) (hclose : .char '>' ∉ newClass) :
    (∃ e', locate? ((buildEdit document e newClass).apply document) offset marker = some e' ∧
        e'.start = e.start) ↔
      ¬ e.Loses document newClass offset.toNat := by
  obtain ⟨front, tag, back, rfl, rfl⟩ := Tag.exists_of_locate? located
  obtain ⟨tag', htakes, happly⟩ :=
    Tag.exists_takes_applyClass tag front.length marker hclose hne
  have hdocument : (buildEdit (front ++ (tag.text ++ back)) (tag.element front.length marker)
      newClass).apply (front ++ (tag.text ++ back)) = front ++ (tag'.text ++ back) := by
    rw [apply_buildEdit, Tag.replacement_buildEdit_nil front back marker newClass none rfl, happly,
      Tag.splice_element]
  obtain ⟨hle, hclear⟩ := Tag.exists_locate?_start_iff.1 ⟨_, located, rfl⟩
  change (∃ e' : Element, _ ∧ e'.start = front.length) ↔ _
  rw [hdocument, Tag.exists_locate?_start_iff, and_iff_right hle, htakes.noOpening_iff hopen hclear,
    not_iff_not, Element.Loses, Tag.tagText_element, happly, Element.classSpan?,
    Tag.attribute?_element, Option.map_eq_none_iff]
  refine or_congr (and_congr_right' <| and_congr_right' ?_) ?_
  · change _ ↔ front.length + tag.text.length ≤ offset.toNat + 3
    omega
  · constructor
    · rintro ⟨e, found, q, hq, hlimit, hmoved, hopens⟩
      refine ⟨_, by rw [found, Option.map_some], front.length + q, ?_, by omega, by omega, ?_⟩
      · simp only [AttributeSpan.map, Attribute.span]
        omega
      · rwa [opensTag_behind]
    · rintro ⟨span, hspan, q, hq, hlimit, hmoved, hopens⟩
      obtain ⟨e, found, rfl⟩ := Option.map_eq_some_iff.1 hspan
      simp only [AttributeSpan.map, Attribute.span] at hq
      obtain ⟨k, rfl⟩ : ∃ k, q = front.length + k := ⟨q - front.length, by omega⟩
      rw [opensTag_behind] at hopens
      exact ⟨e, found, k, by omega, by omega, by omega, hopens⟩

/-- The class takes the place of four blanks, and the cursor still stands in front of the next
tag. -/
theorem locate?_apply_buildEdit_start_paragraph :
    ∃ e, locate? ("<p class=\"a   \">xy<b>" : Text) 16 = some e ∧
      ∃ e', locate? ((buildEdit "<p class=\"a   \">xy<b>" e "c").apply
        "<p class=\"a   \">xy<b>") 16 = some e' ∧ e'.start = e.start := by
  have located : locate? ("<p class=\"a   \">xy<b>" : Text) 16 =
      some ⟨"p", 0, 16, [⟨"class", "a   ", 3, 15, 10, 14, .double⟩], defaultPathMarker⟩ := by
    decide +kernel
  refine ⟨_, located, (locate?_apply_buildEdit_start_iff located (by decide) (by decide)
    (by decide)).2 ?_⟩
  rintro (⟨hspan, -⟩ | ⟨span, -, q, -, hlimit, hq, hopens⟩)
  · exact absurd hspan (by decide)
  · rw [show (Element.tagText _ _) = ("<p class=\"a   \">" : Text) by decide,
      show applyClass _ _ _ = ("<p class=\"a c\">" : Text) by decide] at hq
    obtain rfl : q = 17 := by
      change 16 < q at hlimit
      change q + 15 ≤ 16 + 16 at hq
      omega
    exact absurd hopens (by decide)

/-- The class takes the place of blanks, and the cursor leads to the next tag. -/
theorem locate?_apply_buildEdit_start_ne :
    ∃ e, locate? ("<p class=\"a   \"><b>" : Text) 15 = some e ∧ e.start = 0 ∧
      ∃ e', locate? ((buildEdit "<p class=\"a   \"><b>" e "c").apply "<p class=\"a   \"><b>") 15 =
        some e' ∧ e'.start = 15 := by
  refine ⟨⟨"p", 0, 16, [⟨"class", "a   ", 3, 15, 10, 14, .double⟩], defaultPathMarker⟩,
    by decide +kernel, rfl, ⟨"b", 15, 18, [], defaultPathMarker⟩, by decide +kernel, rfl⟩

end MarkupNaming.Markup
