import MarkupNaming.Proofs.Markup.Tag

/-!
# Locating a tag

Which tag a cursor finds. The last `<` at or before the cursor that does not open a closing tag
decides alone: a tag is found exactly if a letter stands behind it and a `>` follows, and then it
is the tag that starts there. So the tag that is found moves forward with the cursor, changes only
where a tag opens, and is found from its own start.
-/
namespace MarkupNaming.Markup
open Text

/-! ## Openings -/

section Openings
variable {t : Text} {limit i : Nat}

theorem opensTag_iff : opensTag t = true ↔ t[0]? = some (.char '<') ∧ t[1]? ≠ some (.char '/') := by
  unfold opensTag
  split
  · simp
  · next rest hslash =>
    refine iff_of_true rfl ⟨rfl, fun hnext => ?_⟩
    cases rest with
    | nil => cases hnext
    | cons c rest => exact hslash rest (by simpa using hnext)
  · next hopen =>
    refine iff_of_false (by decide) ?_
    rintro ⟨hfirst, -⟩
    cases t with
    | nil => cases hfirst
    | cons c rest => exact hopen rest (by simpa using hfirst)

theorem opensTag_drop_iff :
    opensTag (t.drop i) = true ↔ t[i]? = some (.char '<') ∧ t[i + 1]? ≠ some (.char '/') := by
  rw [opensTag_iff, List.getElem?_drop, List.getElem?_drop, Nat.add_zero]

/-- The last opening up to a limit, or that there is none. -/
theorem lastOpening?_spec (t : Text) (limit : Nat) :
    (∀ i, lastOpening? t limit = some i → i ≤ limit ∧ opensTag (t.drop i) = true ∧
      ∀ j, i < j → j ≤ limit → opensTag (t.drop j) = false) ∧
    (lastOpening? t limit = none → ∀ j, j ≤ limit → opensTag (t.drop j) = false) := by
  induction t generalizing limit with
  | nil => simp [lastOpening?, opensTag]
  | cons c rest ih =>
    cases limit with
    | zero =>
      simp only [lastOpening?]
      refine ⟨fun i hi => ?_, fun hnone j hj => ?_⟩
      · rw [Option.ite_none_right_eq_some] at hi
        obtain ⟨hopens, hi⟩ := hi
        obtain rfl := Option.some.inj hi
        exact ⟨Nat.le_refl _, hopens, fun j hj hle => by omega⟩
      · obtain rfl : j = 0 := by omega
        simpa using hnone
    | succ limit =>
      obtain ⟨hsome, hnone⟩ := ih limit
      simp only [lastOpening?]
      cases hlast : lastOpening? rest limit with
      | some k =>
        obtain ⟨hle, hopens, hbehind⟩ := hsome k hlast
        refine ⟨fun i hi => ?_, fun h => by simp at h⟩
        obtain rfl : k + 1 = i := by simpa using hi
        refine ⟨by omega, hopens, fun j hj hle => ?_⟩
        obtain ⟨j, rfl⟩ : ∃ m, j = m + 1 := ⟨j - 1, by omega⟩
        exact hbehind j (by omega) (by omega)
      | none =>
        have hbehind : ∀ j, 0 < j → j ≤ limit + 1 → opensTag ((c :: rest).drop j) = false := by
          intro j hj hle
          obtain ⟨j, rfl⟩ : ∃ m, j = m + 1 := ⟨j - 1, by omega⟩
          exact hnone hlast j (by omega)
        rw [Option.map_none, Option.none_or]
        refine ⟨fun i hi => ?_, fun hnone j hj => ?_⟩
        · rw [Option.ite_none_right_eq_some] at hi
          obtain ⟨hopens, hi⟩ := hi
          obtain rfl := Option.some.inj hi
          exact ⟨by omega, hopens, hbehind⟩
        · rcases Nat.eq_zero_or_pos j with rfl | hpos
          · simpa using hnone
          · exact hbehind j hpos hj

theorem lastOpening?_eq_some_iff : lastOpening? t limit = some i ↔
    i ≤ limit ∧ opensTag (t.drop i) = true ∧
      ∀ j, i < j → j ≤ limit → opensTag (t.drop j) = false := by
  obtain ⟨hsome, hnone⟩ := lastOpening?_spec t limit
  refine ⟨hsome i, fun ⟨hle, hopens, hbehind⟩ => ?_⟩
  cases hlast : lastOpening? t limit with
  | none =>
    rw [hnone hlast i hle] at hopens
    cases hopens
  | some k =>
    obtain ⟨hle', hopens', hbehind'⟩ := hsome k hlast
    -- Of two last openings neither is behind the other.
    rcases Nat.lt_trichotomy i k with h | rfl | h
    · rw [hbehind k h hle'] at hopens'
      cases hopens'
    · rfl
    · rw [hbehind' i h hle] at hopens
      cases hopens

end Openings

/-! ## The nearest opening -/

/-- Whether a `<` stands at a place that does not open a closing tag. -/
def OpensAt (document : Text) (p : Nat) : Prop :=
  document[p]? = some (.char '<') ∧ document[p + 1]? ≠ some (.char '/')

instance (document : Text) (p : Nat) : Decidable (OpensAt document p) :=
  inferInstanceAs (Decidable (_ ∧ _))

/-- An offset moved into a document. -/
def cursor (document : Text) (offset : Int) : Nat := min offset.toNat (document.length - 1)

/-- Whether a place is the last one at or before an offset at which a tag opens. -/
structure IsNearest (document : Text) (offset : Int) (p : Nat) : Prop where
  le : p ≤ cursor document offset
  opens : OpensAt document p
  last : ∀ q, p < q → q ≤ cursor document offset → ¬ OpensAt document q

section Nearest
variable {document : Text} {offset offset' : Int} {p p' : Nat}

theorem OpensAt.lt_length (h : OpensAt document p) : p < document.length :=
  (List.getElem?_eq_some_iff.1 h.1).1

theorem OpensAt.le_cursor_iff (h : OpensAt document p) :
    p ≤ cursor document offset ↔ p ≤ offset.toNat := by
  have := h.lt_length
  unfold cursor
  omega

theorem lastOpening?_eq_some_iff_isNearest :
    lastOpening? document offset.toNat = some p ↔ IsNearest document offset p := by
  rw [lastOpening?_eq_some_iff]
  have hopens (q : Nat) : opensTag (document.drop q) = true ↔ OpensAt document q :=
    opensTag_drop_iff
  constructor
  · rintro ⟨hle, hopen, hlast⟩
    refine ⟨((hopens p).1 hopen).le_cursor_iff.2 hle, (hopens p).1 hopen, fun q hlt hq hat => ?_⟩
    have hclosed := hlast q hlt (hat.le_cursor_iff.1 hq)
    rw [(hopens q).2 hat] at hclosed
    cases hclosed
  · rintro ⟨hle, hopen, hlast⟩
    refine ⟨hopen.le_cursor_iff.1 hle, (hopens p).2 hopen, fun q hlt hq => ?_⟩
    rw [Bool.eq_false_iff]
    intro hat
    exact hlast q hlt (((hopens q).1 hat).le_cursor_iff.2 hq) ((hopens q).1 hat)

theorem cursor_mono (h : offset ≤ offset') : cursor document offset ≤ cursor document offset' := by
  unfold cursor
  omega

theorem IsNearest.le_of_le (hp : IsNearest document offset p) (hp' : IsNearest document offset' p')
    (h : offset ≤ offset') : p ≤ p' := by
  have hle : p ≤ cursor document offset' := Nat.le_trans hp.le (cursor_mono h)
  exact Nat.le_of_not_lt fun hlt => hp'.last p hlt hle hp.opens

/-- Where no tag opens between two offsets, the nearest opening is the same for both. -/
theorem isNearest_congr (h : offset ≤ offset')
    (hnone : ∀ q, cursor document offset < q → q ≤ cursor document offset' →
      ¬ OpensAt document q) :
    IsNearest document offset p ↔ IsNearest document offset' p := by
  have hmono : cursor document offset ≤ cursor document offset' := cursor_mono h
  constructor
  · rintro ⟨hle, hopen, hlast⟩
    refine ⟨Nat.le_trans hle hmono, hopen, fun q hlt hq => ?_⟩
    rcases Nat.lt_or_ge (cursor document offset) q with hbehind | hbefore
    · exact hnone q hbehind hq
    · exact hlast q hlt hbefore
  · rintro ⟨hle, hopen, hlast⟩
    refine ⟨?_, hopen, fun q hlt hq => hlast q hlt (Nat.le_trans hq hmono)⟩
    exact Nat.le_of_not_lt fun hlt => hnone p hlt hle hopen

theorem OpensAt.isNearest (h : OpensAt document p) : IsNearest document p p := by
  have hcursor : cursor document p ≤ p := by
    unfold cursor
    omega
  exact ⟨h.le_cursor_iff.2 (by simp), h, fun q hlt hq => by omega⟩

end Nearest

/-! ## The tag that is found -/

/-- Whether an element ends with the first `>` behind its start and has the longest run of word
characters behind its `<` as its name. -/
structure Element.StandsIn (e : Element) (document : Text) : Prop where
  stop : ∃ q, e.stop = q + 1 ∧ e.start < q ∧ document[q]? = some (.char '>') ∧
    ∀ i, e.start ≤ i → i < q → document[i]? ≠ some (.char '>')
  tagName_eq : e.tagName = (document.drop (e.start + 1)).takeWhile isWord

section Found
variable {document marker : Text} {offset offset' : Int} {p : Nat} {e : Element}

theorem isNearest_of_locate? (h : locate? document offset marker = some e) :
    IsNearest document offset e.start :=
  lastOpening?_eq_some_iff_isNearest.1 (locate?_eq_some_iff.1 h).1

theorem locate?_congr (h : ∀ p, IsNearest document offset p ↔ IsNearest document offset' p) :
    locate? document offset marker = locate? document offset' marker := by
  have hlast : lastOpening? document offset.toNat = lastOpening? document offset'.toNat := by
    refine Option.ext fun p => ?_
    rw [lastOpening?_eq_some_iff_isNearest, lastOpening?_eq_some_iff_isNearest, h]
  rw [locate?, locate?, hlast]

theorem Tag.standsIn_element (tag : Tag) (front back marker : Text) :
    (tag.element front.length marker).StandsIn (front ++ (tag.text ++ back)) := by
  have hclose : (.char '<' :: (tag.name.text ++ tag.body)).length + 1 = tag.text.length := by
    rw [text_eq_append, List.length_append, List.length_singleton]
  have hget (i : Nat) : (front ++ (tag.text ++ back))[front.length + i]? =
      ((.char '<' :: (tag.name.text ++ tag.body)) ++ .char '>' :: back)[i]? := by
    rw [List.getElem?_append_right (by omega), Nat.add_sub_cancel_left, text_eq_append,
      List.append_assoc]
    rfl
  refine ⟨⟨front.length + (.char '<' :: (tag.name.text ++ tag.body)).length, ?_, ?_, ?_, ?_⟩, ?_⟩
  · change front.length + tag.text.length = _
    omega
  · exact Nat.lt_add_of_pos_right (Nat.succ_pos _)
  · rw [hget, List.getElem?_append_right (Nat.le_refl _), Nat.sub_self]
    rfl
  · intro i hle hlt hmem
    obtain ⟨k, rfl⟩ : ∃ k, i = front.length + k := ⟨i - front.length, (Nat.add_sub_of_le hle).symm⟩
    rw [hget, List.getElem?_append_left (by omega)] at hmem
    exact tag.not_mem_front (List.mem_of_getElem? hmem)
  · change tag.name.text = ((front ++ (tag.text ++ back)).drop (front.length + 1)).takeWhile isWord
    rw [List.drop_length_add_append, text_append]
    exact (takeWhile_append_of_startsOutside (fun c hc => tag.name.isWord_of_mem hc)
      (tag.startsOutside_body back)).symm

theorem standsIn_of_locate? (h : locate? document offset marker = some e) :
    e.StandsIn document := by
  obtain ⟨front, tag, back, rfl, rfl⟩ := Tag.exists_of_locate? h
  exact tag.standsIn_element front back marker

/-- A tag is found from its own start. -/
theorem locate?_start (h : locate? document offset marker = some e) :
    locate? document e.start marker = some e := by
  obtain ⟨front, tag, back, rfl, rfl⟩ := Tag.exists_of_locate? h
  exact tag.locate?_append front back marker

/-- The nearest opening is a tag exactly if a letter stands behind it and a `>` follows. -/
theorem exists_locate?_iff_of_isNearest (hp : IsNearest document offset p) :
    (∃ e, locate? document offset marker = some e) ↔
      .char '>' ∈ document.drop p ∧ ∃ c, document[p + 1]? = some c ∧ isAsciiLetter c = true := by
  have hlast := lastOpening?_eq_some_iff_isNearest.2 hp
  constructor
  · rintro ⟨e, he⟩
    obtain rfl := Option.some.inj ((locate?_eq_some_iff.1 he).1.symm.trans hlast)
    obtain ⟨front, tag, back, rfl, rfl⟩ := Tag.exists_of_locate? he
    obtain ⟨c, name, hname, hc, -⟩ := tag.name.exists_cons
    change Code.char '>' ∈ List.drop front.length _ ∧ ∃ c, _[front.length + 1]? = some c ∧ _
    rw [List.drop_left, List.getElem?_append_right (by omega), Nat.add_sub_cancel_left,
      tag.text_append, hname]
    exact ⟨by simp, c, rfl, hc⟩
  · rintro ⟨hclose, c, hget, hc⟩
    obtain ⟨hlt, hfirst⟩ := List.getElem?_eq_some_iff.1 hp.opens.1
    obtain ⟨hlt', hsecond⟩ := List.getElem?_eq_some_iff.1 hget
    have hdrop : document.drop p = .char '<' :: c :: document.drop (p + 2) := by
      rw [List.drop_eq_getElem_cons hlt, List.drop_eq_getElem_cons hlt', hfirst, hsecond]
    have hne : (c != '>') = true := by
      rw [bne_iff_ne]
      rintro rfl
      exact absurd hc (by decide)
    have htag : throughClose? (document.drop p) =
        some (.char '<' :: c ::
          ((document.drop (p + 2)).takeWhile (· != .char '>') ++ [Code.char '>'])) := by
      rw [throughClose?, if_pos hclose, hdrop, List.takeWhile_cons, List.takeWhile_cons, hne]
      rfl
    simp [locate?, hlast, htag, tagName?, hc]

theorem exists_locate?_iff : (∃ e, locate? document offset marker = some e) ↔
    ∃ p, IsNearest document offset p ∧ .char '>' ∈ document.drop p ∧
      ∃ c, document[p + 1]? = some c ∧ isAsciiLetter c = true := by
  constructor
  · rintro ⟨e, he⟩
    have hp := isNearest_of_locate? he
    exact ⟨e.start, hp, (exists_locate?_iff_of_isNearest hp).1 ⟨e, he⟩⟩
  · rintro ⟨p, hp, htag⟩
    exact (exists_locate?_iff_of_isNearest hp).2 htag

end Found

/-! ## Cursors -/

/-- A cursor finds a tag exactly if a letter stands behind the last `<` at or before it that does
not open a closing tag, and a `>` follows; the tag is the one that starts there. Hence it moves
forward with the cursor, is the same for cursors between which no tag opens, and every tag is found
from its own start. -/
theorem locate?_isNearest (document marker : Text) :
    (∀ offset, (∃ e, locate? document offset marker = some e) ↔
      ∃ p, IsNearest document offset p ∧ .char '>' ∈ document.drop p ∧
        ∃ c, document[p + 1]? = some c ∧ isAsciiLetter c = true) ∧
    (∀ offset e, locate? document offset marker = some e →
      IsNearest document offset e.start ∧ e.StandsIn document) ∧
    (∀ offset offset' e e', offset ≤ offset' → locate? document offset marker = some e →
      locate? document offset' marker = some e' → e.start ≤ e'.start) ∧
    (∀ offset offset', offset ≤ offset' →
      (∀ q, cursor document offset < q → q ≤ cursor document offset' → ¬ OpensAt document q) →
      locate? document offset marker = locate? document offset' marker) ∧
    (∀ offset e, locate? document offset marker = some e →
      locate? document e.start marker = some e) ∧
    ∀ p c, document[p]? = some (.char '<') → document[p + 1]? = some c → isAsciiLetter c = true →
      .char '>' ∈ document.drop p → ∃ e, locate? document p marker = some e ∧ e.start = p := by
  refine ⟨fun offset => exists_locate?_iff,
    fun offset e he => ⟨isNearest_of_locate? he, standsIn_of_locate? he⟩,
    fun offset offset' e e' hle he he' =>
      (isNearest_of_locate? he).le_of_le (isNearest_of_locate? he') hle,
    fun offset offset' hle hnone => locate?_congr fun p => isNearest_congr hle hnone,
    fun offset e he => locate?_start he, fun p c hopen hget hc hclose => ?_⟩
  have hopens : OpensAt document p := by
    refine ⟨hopen, fun hslash => ?_⟩
    obtain rfl := Option.some.inj (hget.symm.trans hslash)
    exact absurd hc (by decide)
  obtain ⟨e, he⟩ : ∃ e, locate? document p marker = some e :=
    (exists_locate?_iff_of_isNearest hopens.isNearest).2 ⟨hclose, c, hget, hc⟩
  have hlast := lastOpening?_eq_some_iff_isNearest.2 hopens.isNearest
  exact ⟨e, he, Option.some.inj ((locate?_eq_some_iff.1 he).1.symm.trans hlast)⟩

/-- A cursor on a closing tag finds the opening tag before it. -/
theorem locate?_isNearest_bold : ∃ e,
    locate? ("<i><b>x</b>y" : Text) 8 = some e ∧ IsNearest "<i><b>x</b>y" 8 e.start ∧
    e.StandsIn "<i><b>x</b>y" ∧ locate? ("<i><b>x</b>y" : Text) e.start = some e ∧
    locate? ("<i><b>x</b>y" : Text) 6 = locate? ("<i><b>x</b>y" : Text) 8 ∧
    ∃ e', locate? ("<i><b>x</b>y" : Text) 0 = some e' ∧ e'.start = 0 ∧ e'.start ≤ e.start := by
  have located : locate? ("<i><b>x</b>y" : Text) 8 = some ⟨"b", 3, 6, [], defaultPathMarker⟩ := by
    decide +kernel
  obtain ⟨-, hstands, hmono, hsame, hstart, htag⟩ :=
    locate?_isNearest "<i><b>x</b>y" defaultPathMarker
  obtain ⟨hnearest, hin⟩ := hstands 8 _ located
  have hnone : ∀ q, cursor "<i><b>x</b>y" 6 < q → q ≤ cursor "<i><b>x</b>y" 8 →
      ¬ OpensAt "<i><b>x</b>y" q := by
    intro q hlt hle
    change 6 < q at hlt
    change q ≤ 8 at hle
    obtain rfl | rfl : q = 7 ∨ q = 8 := by omega
    · decide
    · decide
  obtain ⟨e', located', hfirst⟩ := htag 0 'i' (by decide) (by decide) (by decide) (by decide)
  exact ⟨_, located, hnearest, hin, hstart 8 _ located, hsame 6 8 (by decide) hnone, e', located',
    hfirst, hmono 0 8 e' _ (by decide) located' located⟩

end MarkupNaming.Markup
