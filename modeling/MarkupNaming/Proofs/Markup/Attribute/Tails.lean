import MarkupNaming.Settings.Basic
import MarkupNaming.Proofs.Markup.Attribute.Listing
import MarkupNaming.Proofs.Markup.Attribute.Spans
import Mathlib.Data.List.DropRight

/-!
# Tails of names

Which name is reported for an attribute whose name is one that the settings accept. Such a name can
have characters that stand in no name for a scan, such as `@`. What decides then is the tail of the
name, all that stands behind the last of these characters: if a scan takes the tail for a name, the
attribute is reported under the tail, otherwise it is not reported, and its value is searched for
attributes.
-/
namespace MarkupNaming.Markup
open Text

/-- A tag with one attribute, which has a name that the settings accept and a value in double
quotes. -/
structure SoleTag where
  name : TagName
  label : MarkerName
  value : Text
  enclosed : .char '"' ∉ value

namespace SoleTag
variable (tag : SoleTag)

/-- The characters of the attribute name behind the last one that stands in no name. -/
def tail : Text := tag.label.text.rtakeWhile isNameChar

/-- The attribute name without its tail. -/
def stem : Text := tag.label.text.rdropWhile isNameChar

/-- The attribute under the tail of its name. -/
def tailed : Attribute := ⟨tag.tail, [], [], .double, tag.value⟩

/-- The tag in front of the tail. -/
def front : Text := .char '<' :: (tag.name.text ++ .char ' ' :: tag.stem)

/-- The tag from the value on. -/
def back : Text := tag.value ++ [Code.char '"', .char '>']

/-- The tag as it is written. -/
def text : Text :=
  .char '<' :: (tag.name.text ++ .char ' ' ::
    (tag.label.text ++ .char '=' :: .char '"' :: tag.back))

/-- The offset of the tail. -/
def tailStart : Nat := tag.front.length

/-- The offset of the value. -/
def valueStart : Nat := tag.tailStart + tag.tail.length + 2

theorem stem_append_tail : tag.stem ++ tag.tail = tag.label.text :=
  List.rdropWhile_append_rtakeWhile

theorem isNameChar_of_mem_tail {c : Code} (hc : c ∈ tag.tail) : isNameChar c = true :=
  List.mem_rtakeWhile_imp hc

theorem text_eq : tag.text = tag.front ++ (tag.tail ++ .char '=' :: .char '"' :: tag.back) := by
  rw [text, ← stem_append_tail, front]
  simp

theorem label_ne_nil : tag.label.text ≠ [] := by
  have haccepted := tag.label.accepted
  rw [isMarkerName, Bool.and_eq_true, Bool.and_eq_true, Bool.not_eq_true',
    List.isEmpty_eq_false_iff] at haccepted
  exact haccepted.1.1

theorem of_mem_label {c : Code} (hc : c ∈ tag.label.text) : isBlank c = false ∧ c ≠ '=' := by
  have haccepted := tag.label.accepted
  simp only [isMarkerName, Bool.and_eq_true, List.all_eq_true, Bool.not_eq_true'] at haccepted
  obtain ⟨hblank, hmark⟩ := haccepted.2 c hc
  refine ⟨hblank, ?_⟩
  rintro rfl
  exact absurd hmark (by decide)

/-! ## In front of the tail -/

/-- Nothing is read in the name of the tag, behind which no equals sign stands. -/
theorem attributeAt?_name {u : Text} (hu : ∀ c ∈ u, isWord c = true) (before : Option Code) :
    attributeAt? before (u ++ .char ' ' :: (tag.label.text ++ .char '=' :: .char '"' :: tag.back)) =
      none := by
  obtain ⟨c, rest, hname⟩ := List.exists_cons_of_ne_nil tag.label_ne_nil
  have hc := tag.of_mem_label (c := c) (by simp [hname])
  refine attributeAt?_eq_none_of_sign (fun d hd => ?_) (startsOutside_cons.2 (by decide)) ?_ before
  · simp [isNameChar, hu d hd]
  · rw [hname, List.dropWhile_cons_of_pos (by decide), List.cons_append,
      List.dropWhile_cons_of_neg (by simp [hc.1])]
    simpa using hc.2

/-- Nothing is read in the stem, where each name ends in a character that stands in no name. -/
theorem attributeAt?_stem {u x : Text} (hu : tag.stem = x ++ u) (hne : u ≠ [])
    (before : Option Code) (rest : Text) : attributeAt? before (u ++ rest) = none := by
  have hstem : tag.stem ≠ [] := by simp [hu, hne]
  have hlast : isNameChar (u.getLast hne) = false := by
    have hdropped : ¬ isNameChar (tag.stem.getLast hstem) = true :=
      List.rdropWhile_last_not isNameChar tag.label.text hstem
    simpa [hu, List.getLast_append_of_ne_nil, hne] using hdropped
  have hsplit : u = u.takeWhile isNameChar ++ u.dropWhile isNameChar :=
    List.takeWhile_append_dropWhile.symm
  cases hdrop : u.dropWhile isNameChar with
  | nil =>
    rw [List.dropWhile_eq_nil_iff] at hdrop
    rw [hdrop _ (List.getLast_mem hne)] at hlast
    cases hlast
  | cons d w =>
    have hd : isNameChar d = false := by
      have hout : StartsOutside isNameChar (u.dropWhile isNameChar) := startsOutside_dropWhile
      rwa [hdrop, startsOutside_cons] at hout
    have hmem : d ∈ tag.label.text := by
      rw [← stem_append_tail, hu, hsplit, hdrop]
      simp
    obtain ⟨hblank, hsign⟩ := tag.of_mem_label hmem
    rw [hsplit, hdrop, List.append_assoc, List.cons_append]
    refine attributeAt?_eq_none_of_sign forall_mem_takeWhile (startsOutside_cons.2 hd) ?_ before
    rw [List.dropWhile_cons_of_neg (by simp [hblank])]
    simpa using hsign

/-- Nothing is read in front of the tail. -/
theorem attributeAt?_front {x y : Text} {c : Code} (h : tag.front = x ++ c :: y)
    (before : Option Code) :
    attributeAt? before (c :: (y ++ (tag.tail ++ .char '=' :: .char '"' :: tag.back))) = none := by
  have hother (d : Code) (hd : isNameStart d = false) (hc : c = d) :
      attributeAt? before (c :: (y ++ (tag.tail ++ .char '=' :: .char '"' :: tag.back))) = none :=
    attributeAt?_eq_none_of_not_isNameStart (hc ▸ hd) before _
  rcases List.cons_eq_append_iff.1 h with ⟨-, hopen⟩ | ⟨x, -, hrest⟩
  · exact hother '<' (by decide) (List.cons.inj hopen).1
  rcases append_eq_append_cons_iff.1 hrest with ⟨u, hname, rfl⟩ | ⟨x, -, hstem⟩
  · have hword : ∀ d ∈ c :: u, isWord d = true := fun d hd =>
      tag.name.isWord_of_mem (by rw [hname]; exact List.mem_append_right _ hd)
    have hread := tag.attributeAt?_name hword before
    rw [← stem_append_tail] at hread
    simpa using hread
  rcases List.cons_eq_append_iff.1 hstem with ⟨-, hblank⟩ | ⟨x, -, hstem⟩
  · exact hother ' ' (by decide) (List.cons.inj hblank).1
  · exact tag.attributeAt?_stem hstem (List.cons_ne_nil c y) before _

/-- A scan that starts in the name of the tag gets to the tail and has found nothing. -/
theorem scanned_eq {start : Nat} (hstart : start ≤ 1 + tag.name.text.length) :
    scanned tag.text start tag.text.length =
      attributesFrom tag.front.getLast? tag.tailStart (tag.tail ++ .char '=' :: .char '"' ::
        tag.back) := by
  obtain ⟨u, v, hname, rfl⟩ : ∃ u v, .char '<' :: tag.name.text = u ++ v ∧ u.length = start :=
    ⟨(.char '<' :: tag.name.text).take start, (.char '<' :: tag.name.text).drop start,
      (List.take_append_drop _ _).symm, by simp; omega⟩
  have hfront : tag.front = u ++ (v ++ .char ' ' :: tag.stem) := by
    rw [front, ← List.cons_append, hname, List.append_assoc]
  rw [text_eq, hfront, List.append_assoc, scanned_append, attributesFrom_skip, tailStart, hfront]
  intro x c y hplace
  refine tag.attributeAt?_front (x := u ++ x) ?_ _
  rw [hfront, hplace, List.append_assoc]

/-! ## At the tail -/

theorem any_getLast?_front : tag.front.getLast?.any isNameChar = false := by
  by_cases hstem : tag.stem = []
  · rw [front, hstem, ← List.cons_append, List.getLast?_concat]
    decide
  · have hlast : ¬ isNameChar (tag.stem.getLast hstem) = true :=
      List.rdropWhile_last_not isNameChar tag.label.text hstem
    rw [front, ← List.cons_append, List.getLast?_append, List.getLast?_cons,
      List.getLast?_eq_some_getLast hstem]
    simpa using hlast

/-- A tail that is the name of an attribute is read, and nothing is behind the attribute. -/
theorem attributesFrom_tail_of_name (h : isAttributeName tag.tail = true) :
    attributesFrom tag.front.getLast? tag.tailStart
        (tag.tail ++ .char '=' :: .char '"' :: tag.back) =
      [(tag.tailStart, tag.tailed)] := by
  have hread : attributeAt? tag.front.getLast? (tag.tailed.text ++ [Code.char '>']) =
      some tag.tailed :=
    attributeAt?_append_eq_some_iff.2 ⟨tag.any_getLast?_front,
      ⟨h, by simp [tailed], by simp [tailed], tag.enclosed⟩, by simp [EndsBefore, tailed]⟩
  have hending : IsEnding [.char '>'] := ⟨[], by simp, .inl rfl⟩
  have htext : tag.tailed.text ++ [Code.char '>'] =
      tag.tail ++ .char '=' :: .char '"' :: tag.back := by
    simp [Attribute.text, Attribute.opening, tailed, Quote.mark, back]
  rw [← htext, attributesFrom_of_some hread, hending.attributesFrom_eq_nil]

/-- A scan passes over a tail that is no name of an attribute and gets to the value. -/
theorem attributesFrom_tail_of_not_name (h : isAttributeName tag.tail = false) :
    attributesFrom tag.front.getLast? tag.tailStart
        (tag.tail ++ .char '=' :: .char '"' :: tag.back) =
      scanned tag.text tag.valueStart tag.text.length := by
  have hsplit : tag.tail ++ .char '=' :: .char '"' :: tag.back =
      (tag.tail ++ [Code.char '=', .char '"']) ++ tag.back := by simp
  have hvalue : tag.valueStart =
      (tag.front ++ (tag.tail ++ [Code.char '=', .char '"'])).length := by
    rw [valueStart, tailStart]
    simp
    omega
  rw [hsplit, tailStart, attributesFrom_skip, ← scanned_append, ← hvalue, List.append_assoc,
    ← hsplit, ← text_eq]
  intro x c y hplace
  rcases append_eq_append_cons_iff.1 hplace with ⟨z, htail, -⟩ | ⟨z, -, hsign⟩
  · by_cases hx : x = []
    · have hc : isNameStart c = false := by
        have hall : z.all isNameChar = true := List.all_eq_true.2 fun d hd =>
          tag.isNameChar_of_mem_tail (by simp [htail, hd])
        simpa [htail, hx, isAttributeName, hall] using h
      exact attributeAt?_eq_none_of_not_isNameStart hc _ _
    · have hlast : isNameChar (x.getLast hx) = true :=
        tag.isNameChar_of_mem_tail (by simp [htail])
      refine attributeAt?_eq_none_of_isNameChar ?_ _
      rw [List.getLast?_append, List.getLast?_eq_some_getLast hx]
      simpa using hlast
  · have hc : c ∈ [.char '=', .char '"'] := by simp [hsign]
    refine attributeAt?_eq_none_of_not_isNameStart ?_ _ _
    simp only [List.mem_cons, List.not_mem_nil, or_false] at hc
    rcases hc with rfl | rfl <;> decide

/-! ## What is reported -/

variable {tag} {start : Nat}

/-- The attribute is reported under the tail of its name, or the value is searched. -/
theorem attributesBetween_eq_ite (hstart : start ≤ 1 + tag.name.text.length) :
    attributesBetween tag.text start tag.text.length =
      if isAttributeName tag.tail then [tag.tailed.span tag.tailStart]
      else attributesBetween tag.text tag.valueStart tag.text.length := by
  rw [attributesBetween_eq_scanned, attributesBetween_eq_scanned, tag.scanned_eq hstart]
  split
  · next h => rw [tag.attributesFrom_tail_of_name h]; rfl
  · next h => rw [tag.attributesFrom_tail_of_not_name (by simpa using h)]

theorem start_tailed_lt : (tag.tailed.span tag.tailStart).start < tag.valueStart := by
  change tag.tailStart < tag.tailStart + tag.tail.length + 2
  omega

/-- The tail has the lowercase of the whole name only if it is the whole name. -/
theorem lower_tail_eq_iff : lower tag.tail = lower tag.label.text ↔ tag.tail = tag.label.text := by
  refine ⟨fun h => ?_, congrArg lower⟩
  rw [← stem_append_tail] at h ⊢
  rw [eq_nil_of_lower_append h.symm, List.nil_append]

/-- Of an attribute with a name that the settings accept, a scan reports the tail of the name behind
the last character that it knows from no name, and nothing else of the tag, if the tail is the name
of an attribute; otherwise what it reports is found in the value. So the attribute is under no name
but its own, up to case, exactly if the tail is the whole name or no name of an attribute. -/
theorem attributesBetween_text_iff (hstart : start ≤ 1 + tag.name.text.length) :
    (attributesBetween tag.text start tag.text.length =
      if isAttributeName tag.tail then [tag.tailed.span tag.tailStart]
      else attributesBetween tag.text tag.valueStart tag.text.length) ∧
    ((∀ s ∈ attributesBetween tag.text start tag.text.length,
        s.start < tag.valueStart → s.name = lower tag.label.text) ↔
      tag.tail = tag.label.text ∨ isAttributeName tag.tail = false) := by
  refine ⟨attributesBetween_eq_ite hstart, ?_⟩
  rw [attributesBetween_eq_ite hstart]
  cases hname : isAttributeName tag.tail with
  | true =>
    rw [if_pos rfl, List.forall_mem_singleton, ← lower_tail_eq_iff]
    simp only [start_tailed_lt, forall_const, Bool.true_eq_false, or_false]
    rfl
  | false =>
    simp only [Bool.false_eq_true, if_false, or_true, iff_true]
    intro s hs hlt
    obtain ⟨p, a, rfl, hle, -⟩ := exists_of_mem_attributesBetween hs
    exact absurd hlt (Nat.not_lt.2 hle)

/-- A name with letters of any script is its own tail. -/
theorem attributesBetween_text_iff_script : ∃ tag : SoleTag,
    tag.text = ("<x data-Ä=\"v\">" : Text) ∧ 0 ≤ 1 + tag.name.text.length ∧
    attributesBetween tag.text 0 tag.text.length = [tag.tailed.span tag.tailStart] ∧
    ∀ s ∈ attributesBetween tag.text 0 tag.text.length,
      s.start < tag.valueStart → s.name = lower tag.label.text := by
  refine ⟨⟨⟨"x", by decide⟩, ⟨"data-Ä", by decide⟩, "v", by decide⟩, by decide, by decide, ?_, ?_⟩
  · exact (attributesBetween_text_iff (by decide)).1.trans (if_pos (by decide))
  · exact (attributesBetween_text_iff (by decide)).2.2 (.inl (by decide))

/-- Behind an `@` the end of a name is reported as an attribute of its own. -/
theorem exists_name_ne_lower : ∃ tag : SoleTag, tag.text = ("<x @class=\"v\">" : Text) ∧
    ∃ s ∈ attributesBetween tag.text 0 tag.text.length,
      s.start < tag.valueStart ∧ s.name = classAttribute ∧ s.name ≠ lower tag.label.text := by
  refine ⟨⟨⟨"x", by decide⟩, ⟨"@class", by decide⟩, "v", by decide⟩, by decide,
    ⟨"class", "v", 4, 13, 11, 12, .double⟩, ?_, by decide, rfl, by decide⟩
  decide +kernel

end SoleTag
end MarkupNaming.Markup
