import MarkupNaming.Proofs.Markup.Attribute.Scanning

/-!
# Scanning again

What a scan finds after a text has got a new attribute, or one of its attributes a new value. It
finds what it found before the change, provided that every quote lies in an attribute that was
found, or that the change brings no quotes: a stray quote could enclose what is written behind it.
One attribute is lost in front of a new one, a bare value that is the slash at the end.
-/
namespace MarkupNaming.Markup
open Text
variable {before : Option Code} {pos : Nat} {t rest : Text} {a : Attribute}

/-! ## Quotes -/

/-- A character that can enclose a value. -/
def isQuote (c : Code) : Bool := c == '"' || c == '\''

/-- There are no quotes among the characters of a class that has neither of the two. -/
theorem isQuote_eq_false_of {p : Code → Bool} (hdouble : p '"' = false) (hsingle : p '\'' = false)
    {c : Code} (hc : p c = true) : isQuote c = false := by
  have hne : ∀ d, p d = false → c ≠ d := by
    rintro d hd rfl
    simp [hc] at hd
  simp [isQuote, hne '"' hdouble, hne '\'' hsingle]

theorem isQuote_eq_false_of_isBlank {c : Code} (h : isBlank c = true) : isQuote c = false :=
  isQuote_eq_false_of (by decide) (by decide) h

/-- Whether every quote of a text lies in an attribute that a scan finds. -/
def QuotesCovered (before : Option Code) (pos : Nat) (t : Text) : Prop :=
  ∀ front q back, t = front ++ q :: back → isQuote q = true →
    ∃ e ∈ attributesFrom before pos t,
      e.1 ≤ pos + front.length ∧ pos + front.length < e.1 + e.2.text.length

theorem QuotesCovered.of_some (h : attributeAt? before (a.text ++ rest) = some a)
    (hquotes : QuotesCovered before pos (a.text ++ rest)) :
    QuotesCovered a.text.getLast? (pos + a.text.length) rest := by
  intro front q back heq hq
  obtain ⟨e, hmem, hle, hlt⟩ := hquotes (a.text ++ front) q back (by simp [heq]) hq
  rw [attributesFrom_of_some h] at hmem
  rw [List.length_append] at hle hlt
  rcases List.mem_cons.1 hmem with rfl | hmem
  · dsimp only at hlt
    omega
  · exact ⟨e, hmem, by omega, by omega⟩

theorem QuotesCovered.of_none {c : Code} (h : attributeAt? before (c :: t) = none)
    (hquotes : QuotesCovered before pos (c :: t)) : QuotesCovered (some c) (pos + 1) t := by
  intro front q back heq hq
  obtain ⟨e, hmem, hle, hlt⟩ := hquotes (c :: front) q back (by simp [heq]) hq
  rw [attributesFrom_of_none h] at hmem
  rw [List.length_cons] at hle hlt
  exact ⟨e, hmem, by omega, by omega⟩

/-- No attribute is read inside the opening of another one. -/
theorem attributeAt?_of_opening_eq (ha : a.IsWritten) {front back : Text} {c : Code}
    (h : a.opening = front ++ c :: back) (hfront : front ≠ []) (rest : Text) :
    attributeAt? (front.getLast?.or before) (c :: rest) = none := by
  rcases Attribute.isNameChar_or_not_isNameStart ha h hfront with hname | hstart
  · refine attributeAt?_eq_none_of_isNameChar ?_ _
    rw [List.getLast?_eq_some_getLast hfront] at hname ⊢
    exact hname
  · exact attributeAt?_eq_none_of_not_isNameStart hstart _ _

/-- The written form in front of the value and its quotes. -/
def Attribute.head (a : Attribute) : Text := a.name ++ (a.gapBefore ++ .char '=' :: a.gapAfter)

theorem Attribute.opening_eq (a : Attribute) : a.opening = a.head ++ a.quote.mark := by
  simp [opening, head]

theorem Attribute.exists_opening_eq (hquote : a.quote ≠ .bare) :
    ∃ q, isQuote q = true ∧ a.quote.mark = [q] ∧ a.opening = a.head ++ [q] := by
  rw [opening_eq]
  cases hq : a.quote with
  | double => exact ⟨'"', by decide, rfl, rfl⟩
  | single => exact ⟨'\'', by decide, rfl, rfl⟩
  | bare => exact absurd hq hquote

theorem Quote.encloses_iff_of_mark {quote : Quote} {q : Code} (hmark : quote.mark = [q])
    (value : Text) : quote.encloses value ↔ q ∉ value := by
  cases quote with
  | double =>
    obtain rfl : '"' = q := by simpa [mark] using hmark
    exact Iff.rfl
  | single =>
    obtain rfl : '\'' = q := by simpa [mark] using hmark
    exact Iff.rfl
  | bare => simp [mark] at hmark

/-- An opening with a quote is read if the quote occurs again. -/
theorem attributeAt?_opening_ne_none (hbefore : before.any isNameChar = false) (ha : a.IsWritten)
    {q : Code} (hmark : a.quote.mark = [q]) (hq : q ∈ t) :
    attributeAt? before (a.opening ++ t) ≠ none := by
  obtain ⟨hvalue, back, heq⟩ := exists_takeWhile_ne hq
  have hread : attributeAt? before (({ a with value := t.takeWhile (· != q) } : Attribute).text ++
      back) = some { a with value := t.takeWhile (· != q) } := by
    refine attributeAt?_append_eq_some_iff.2 ⟨hbefore, ⟨ha.name, ha.gapBefore, ha.gapAfter,
      (Quote.encloses_iff_of_mark hmark _).2 hvalue⟩, fun hbare => ?_⟩
    have hbare : a.quote = .bare := hbare
    simp [hbare, Quote.mark] at hmark
  have hsplit : ({ a with value := t.takeWhile (· != q) } : Attribute).text ++ back =
      a.opening ++ t := by
    change (a.opening ++ t.takeWhile (· != q) ++ a.quote.mark) ++ back = _
    rw [hmark, List.append_assoc, List.append_assoc]
    exact congrArg (a.opening ++ ·) heq.symm
  rw [hsplit] at hread
  simp [hread]

/-- The quote of an opening behind which nothing is read is a stray one. -/
theorem not_quotesCovered (ha : a.IsWritten) (hquote : a.quote ≠ .bare)
    (h : attributeAt? before (a.opening ++ t) = none) :
    ¬ QuotesCovered before pos (a.opening ++ t) := by
  intro hquotes
  obtain ⟨q, hq, -, hopening⟩ := Attribute.exists_opening_eq hquote
  have hsplit : a.opening ++ t = a.head ++ q :: t := by
    simp [hopening]
  obtain ⟨e, hmem, hle, -⟩ := hquotes _ q t hsplit hq
  obtain ⟨front, rest, heq, hpos, hread⟩ := exists_of_mem_attributesFrom hmem
  by_cases hfront : front = []
  · subst hfront
    rw [List.getLast?_nil, Option.none_or] at hread
    rw [heq, List.nil_append, hread] at h
    cases h
  · obtain ⟨c, text, htext⟩ := List.exists_cons_of_ne_nil
      (List.length_pos_iff.1 e.2.text_length_pos)
    rw [htext, List.cons_append] at heq hread
    rcases append_eq_append_cons_iff.1 heq with ⟨y, hy, -⟩ | ⟨x, hx, -⟩
    · rw [attributeAt?_of_opening_eq ha hy hfront] at hread
      cases hread
    · have hlong := congrArg List.length hx
      rw [hopening] at hlong
      simp only [List.length_append, List.length_singleton] at hlong hle
      omega

/-! ## A text written into another one -/

/-- Whether a text can end a tag: blanks and then `>` or `/>`. -/
def IsEnding (t : Text) : Prop :=
  ∃ gap, (∀ c ∈ gap, isBlank c = true) ∧
    (t = gap ++ [Code.char '>'] ∨ t = gap ++ [Code.char '/', .char '>'])

theorem IsEnding.endsBare (h : IsEnding t) : endsBare t = true := by
  obtain ⟨gap, hgap, h⟩ := h
  cases gap with
  | nil => rcases h with rfl | rfl <;> rfl
  | cons c gap => rcases h with rfl | rfl <;> simp [Markup.endsBare, hgap]

theorem IsEnding.isBlank_of_mem (h : IsEnding t) {c : Code} (hc : c ∈ t) :
    isBlank c = true ∨ c = '/' ∨ c = '>' := by
  obtain ⟨gap, hgap, rfl | rfl⟩ := h
  · rcases List.mem_append.1 hc with hc | hc
    · exact .inl (hgap c hc)
    · exact .inr (.inr (by simpa using hc))
  · rcases List.mem_append.1 hc with hc | hc
    · exact .inl (hgap c hc)
    · exact .inr (by simpa using hc)

theorem IsEnding.of_mem (h : IsEnding t) {c : Code} (hc : c ∈ t) :
    isNameChar c = false ∧ c ≠ '=' ∧ isQuote c = false := by
  rcases h.isBlank_of_mem hc with hblank | rfl | rfl
  · refine ⟨isNameChar_eq_false_of_isBlank hblank, ?_, isQuote_eq_false_of_isBlank hblank⟩
    rintro rfl
    exact absurd hblank (by decide)
  · decide
  · decide

/-- Only a `>` stands behind the slash of an ending. -/
theorem IsEnding.eq_of_slash (h : IsEnding (.char '/' :: t)) : t = [.char '>'] := by
  obtain ⟨gap, hgap, h⟩ := h
  cases gap with
  | nil => rcases h with h | h <;> simp_all
  | cons c gap =>
    have hc := hgap c List.mem_cons_self
    rcases h with h | h <;>
    · rw [List.cons_append, List.cons.injEq] at h
      rw [← h.1] at hc
      exact absurd hc (by decide)

/-- An ending without some of its blanks is an ending. -/
theorem IsEnding.of_append {gap : Text} (h : IsEnding (gap ++ t))
    (hgap : ∀ c ∈ gap, isBlank c = true) : IsEnding t := by
  induction gap with
  | nil => exact h
  | cons c gap ih =>
    refine ih ?_ fun d hd => hgap d (List.mem_cons_of_mem _ hd)
    obtain ⟨blanks, hblanks, h⟩ := h
    have hc := hgap c List.mem_cons_self
    cases blanks with
    | nil =>
      rcases h with h | h <;>
      · rw [List.nil_append, List.cons_append, List.cons.injEq] at h
        rw [h.1] at hc
        exact absurd hc (by decide)
    | cons b blanks =>
      refine ⟨blanks, fun d hd => hblanks d (List.mem_cons_of_mem _ hd), ?_⟩
      rcases h with h | h
      · exact .inl (List.cons.inj h).2
      · exact .inr (List.cons.inj h).2

/-- Nothing is read in an ending. -/
theorem IsEnding.attributesFrom_eq_nil (h : IsEnding t) (before : Option Code) (pos : Nat) :
    attributesFrom before pos t = [] := by
  rw [← List.append_nil t, attributesFrom_append_of_none, attributesFrom_nil]
  rintro x c y rfl
  refine attributeAt?_eq_none_of_not_isNameStart ?_ _ _
  cases hstart : isNameStart c
  · rfl
  · have hname := isNameChar_of_isNameStart hstart
    rw [(h.of_mem (c := c) (by simp)).1] at hname
    cases hname

/-- What ends in a text ends in its last character. -/
theorem getLast?_ne_of_append {c : Code} (h : (t ++ rest).getLast? ≠ some c) :
    rest.getLast? ≠ some c := by
  intro hrest
  rw [List.getLast?_append, hrest, Option.some_or] at h
  exact h rfl

section Insertion
variable {stem ending new : Text}

/-- Where an attribute in front of a new text ends, it ended before. -/
theorem endsBefore_insert_iff {quote : Quote} {value s : Text} (hclose : .char '>' ∉ s)
    (hending : IsEnding ending) (hvalue : s = [] → ending.head? = some (.char '>') → quote = .bare →
      value.getLast? ≠ some (.char '/')) (hslash : ending.head? = some (.char '>') →
        s.getLast? ≠ some (.char '/')) :
    EndsBefore quote value (s ++ ending) ↔ EndsBefore quote value (s ++ .char ' ' :: new) := by
  unfold EndsBefore
  refine forall_congr' fun hbare => ?_
  match s, hclose, hslash with
  | [], _, _ =>
    have hnew : endsBare (.char ' ' :: new) = true := rfl
    simp only [List.nil_append, hending.endsBare, hnew, true_and, LeavesSlash]
    by_cases hhead : ending.head? = some (.char '>')
    · simp [hhead, hvalue rfl hhead hbare]
    · simp [hhead]
  | [d], _, hslash =>
    have hslash' : d = '/' → ending.head? ≠ some (.char '>') := by
      rintro rfl hhead
      exact hslash hhead rfl
    by_cases hd : d = '/'
    · simp [endsBare, LeavesSlash, hslash' hd, hd]
    · simp [endsBare, LeavesSlash, hd]
  | d :: e :: s, _, _ => simp [endsBare, LeavesSlash]

theorem attributeAt?_insert_iff {s : Text} (hclose : .char '>' ∉ a.text ++ s)
    (hending : IsEnding ending)
    (hslash : ending.head? = some (.char '>') → (a.text ++ s).getLast? ≠ some (.char '/')) :
    attributeAt? before (a.text ++ (s ++ ending)) = some a ↔
      attributeAt? before (a.text ++ (s ++ .char ' ' :: new)) = some a := by
  rw [attributeAt?_append_eq_some_iff, attributeAt?_append_eq_some_iff]
  refine and_congr_right fun _ => and_congr_right fun ha => ?_
  rw [List.mem_append, not_or] at hclose
  refine endsBefore_insert_iff hclose.2 hending ?_ fun hhead => getLast?_ne_of_append (hslash hhead)
  rintro rfl hhead hbare
  have hlast := hslash hhead
  rw [List.append_nil, Attribute.text, hbare, Quote.mark, List.append_nil] at hlast
  exact getLast?_ne_of_append hlast

/-- An attribute that is read across the place of the new text encloses it in its quotes. -/
theorem exists_opening_of_insert (hnew : StartsOutside (fun c => isBlank c || c == '=') new)
    (hread : Attribute.readValue? new = none)
    (h : attributeAt? before (stem ++ .char ' ' :: new) = some a)
    (hcross : ∀ s, stem ≠ a.text ++ s) :
    a.quote ≠ .bare ∧ ∃ v, stem = a.opening ++ v := by
  obtain ⟨-, ha, rest, heq, hend⟩ := attributeAt?_eq_some_iff.1 h
  rcases append_eq_append_cons_iff.1 heq.symm with ⟨y, htext, rfl⟩ | ⟨x, hx, -⟩
  · cases Attribute.place_of_text_eq htext with
    | name x z here =>
      have hname := isNameChar_of_mem_name (c := ' ') ha.name (by simp [here])
      exact absurd hname (by decide)
    | gapBefore x z here _ hback =>
      -- Blanks and an equals sign would have to follow.
      cases z with
      | nil => simp [hback] at hnew
      | cons c z =>
        have hblank := ha.gapBefore c (by simp [here])
        simp [hback, hblank] at hnew
    | sign here => exact absurd here (by decide)
    | gapAfter x z here _ hback =>
      cases z with
      | nil =>
        have hvalue : Attribute.readValue? (y ++ rest) = some (a.quote, a.value) := by
          refine Attribute.readValue?_eq_some_iff.2 ⟨ha.value, rest, ?_, hend⟩
          simp [hback]
        rw [hread] at hvalue
        cases hvalue
      | cons c z =>
        have hblank := ha.gapAfter c (by simp [here])
        simp [hback, hblank] at hnew
    | mark here => cases hquote : a.quote <;> simp [hquote, Quote.mark] at here
    | value x z here hfront =>
      refine ⟨fun hbare => ?_, x, hfront⟩
      have hvalue := ha.value
      rw [hbare] at hvalue
      have hblank := (isBareChar_eq_true_iff.1 (hvalue.2 ' ' (by simp [here]))).1
      exact absurd hblank (by decide)
  · exact absurd hx (hcross x)

/-- A bare value that reaches into an ending lies in it: it is the slash. -/
theorem eq_nil_of_bare_ending {x y : Text} {d : Code} (hvalue : Quote.bare.encloses (x ++ d :: y))
    (hending : IsEnding (d :: (y ++ rest))) (hend : EndsBefore .bare (x ++ d :: y) rest) :
    x = [] := by
  have hchar {c : Code} (hc : c ∈ d :: y) := isBareChar_eq_true_iff.1
    (hvalue.2 c (List.mem_append_right _ hc))
  have hslash : d = '/' := by
    rcases hending.isBlank_of_mem List.mem_cons_self with hblank | hslash | rfl
    · rw [(hchar List.mem_cons_self).1] at hblank
      cases hblank
    · exact hslash
    · exact absurd (by decide) (hchar List.mem_cons_self).2
  subst hslash
  have hrest := hending.eq_of_slash
  cases y with
  | nil =>
    obtain ⟨-, hleaves⟩ := hend rfl
    simpa [LeavesSlash, show rest = [.char '>'] from hrest] using hleaves
  | cons c y =>
    obtain rfl : c = '>' := (List.cons.inj hrest).1
    exact absurd (by decide) (hchar (c := '>') (by simp)).2

/-- A value in an ending is its slash, and the `>` stands behind it. -/
theorem eq_slash_of_ending (ha : a.IsWritten)
    (hending : IsEnding (a.quote.mark ++ (a.value ++ (a.quote.mark ++ rest)))) :
    a.quote = .bare ∧ a.value = [.char '/'] ∧ rest = [.char '>'] := by
  by_cases hbare : a.quote = .bare
  · have hvalue := ha.value
    rw [hbare] at hvalue hending
    obtain ⟨c, v, hcons⟩ := List.exists_cons_of_ne_nil hvalue.1
    rw [hcons] at hvalue hending ⊢
    have hchar {d : Code} (hd : d ∈ c :: v) := isBareChar_eq_true_iff.1 (hvalue.2 d hd)
    obtain rfl : c = '/' := by
      rcases hending.isBlank_of_mem (c := c) (by simp [Quote.mark]) with hblank | hslash | rfl
      · rw [(hchar List.mem_cons_self).1] at hblank
        cases hblank
      · exact hslash
      · exact absurd (by decide) (hchar List.mem_cons_self).2
    have hrest : v ++ rest = [.char '>'] := hending.eq_of_slash
    cases v with
    | nil => exact ⟨hbare, rfl, hrest⟩
    | cons d v =>
      obtain rfl : d = '>' := (List.cons.inj hrest).1
      exact absurd (by decide) (hchar (d := '>') (by simp)).2
  · obtain ⟨q, hq, hmark, -⟩ := Attribute.exists_opening_eq hbare
    rw [(hending.of_mem (c := q) (by simp [hmark])).2.2] at hq
    cases hq

/-- An attribute that is read across the place of the new text when nothing is there has its
equals sign in front of that place, and only blanks between them. Its value is the slash of the
ending. -/
theorem exists_gapAfter_of_ending (hending : IsEnding ending)
    (h : attributeAt? before (stem ++ ending) = some a) (hcross : ∀ s, stem ≠ a.text ++ s) :
    a.IsWritten ∧ a.quote = .bare ∧ a.value = [.char '/'] ∧
      stem ++ ending = a.text ++ [Code.char '>'] ∧
      ∃ x y, a.gapAfter = x ++ y ∧ stem = a.name ++ (a.gapBefore ++ .char '=' :: x) := by
  obtain ⟨-, ha, rest, heq, hend⟩ := attributeAt?_eq_some_iff.1 h
  suffices hgap : ∃ x y, a.gapAfter = x ++ y ∧ stem = a.name ++ (a.gapBefore ++ .char '=' :: x) by
    obtain ⟨x, y, hafter, hstem⟩ := hgap
    have hback : ending = y ++ (a.quote.mark ++ (a.value ++ (a.quote.mark ++ rest))) := by
      rw [Attribute.text_append, hafter, hstem] at heq
      simpa using heq
    rw [hback] at hending
    obtain ⟨hbare, hvalue, hrest⟩ := eq_slash_of_ending ha
      (hending.of_append fun c hc => ha.gapAfter c (by simp [hafter, hc]))
    exact ⟨ha, hbare, hvalue, by rw [heq, hrest], x, y, hafter, hstem⟩
  obtain ⟨u, htext, rfl⟩ | ⟨s, hs, -⟩ := List.append_eq_append_iff.1 heq
  · obtain ⟨d, u, rfl⟩ := List.exists_cons_of_ne_nil (l := u)
      (by rintro rfl; exact hcross [] (by simpa using htext.symm))
    have hother {c : Code} (hc : c ∈ d :: u) :
        isNameChar c = false ∧ c ≠ '=' ∧ isQuote c = false :=
      hending.of_mem (List.mem_append_left _ hc)
    cases Attribute.place_of_text_eq htext with
    | name x y here =>
      have hname := isNameChar_of_mem_name (c := d) ha.name (by simp [here])
      rw [(hother List.mem_cons_self).1] at hname
      cases hname
    | gapBefore x y here _ hback => exact absurd rfl (hother (c := '=') (by simp [hback])).2.1
    | sign here => exact absurd here (hother List.mem_cons_self).2.1
    | gapAfter x y here hfront => exact ⟨x, d :: y, here, hfront⟩
    | mark here =>
      have hbare : a.quote ≠ .bare := by
        intro hbare
        simp [hbare, Quote.mark] at here
      obtain ⟨q, hq, hmark, -⟩ := Attribute.exists_opening_eq hbare
      obtain rfl : d = q := by simpa [hmark] using here.symm
      rw [(hother List.mem_cons_self).2.2] at hq
      cases hq
    | value x y here hfront hback =>
      by_cases hbare : a.quote = .bare
      · have hvalue := ha.value
        rw [hbare, here] at hvalue hend
        have hu : u = y := by simpa [hbare, Quote.mark] using hback
        obtain rfl := eq_nil_of_bare_ending hvalue (hu ▸ hending) hend
        refine ⟨a.gapAfter, [], by simp, ?_⟩
        simpa [Attribute.opening, hbare, Quote.mark] using hfront
      · obtain ⟨q, hq, hmark, -⟩ := Attribute.exists_opening_eq hbare
        rw [(hother (c := q) (by simp [hback, hmark])).2.2] at hq
        cases hq
  · exact absurd hs (hcross s)

/-- No quote stands in front of the gap behind an equals sign. -/
theorem isQuote_eq_false_of_front (ha : a.IsWritten) {x y : Text} (hgap : a.gapAfter = x ++ y)
    {q : Code} (hq : q ∈ a.name ++ (a.gapBefore ++ .char '=' :: x)) : isQuote q = false := by
  rcases List.mem_append.1 hq with hq | hq
  · exact isQuote_eq_false_of (by decide) (by decide) (isNameChar_of_mem_name ha.name hq)
  rcases List.mem_append.1 hq with hq | hq
  · exact isQuote_eq_false_of_isBlank (ha.gapBefore q hq)
  rcases List.mem_cons.1 hq with rfl | hq
  · decide
  · exact isQuote_eq_false_of_isBlank (ha.gapAfter q (by simp [hgap, hq]))

/-- Nothing is read in a stem over whose end an attribute reached, once a text is put there. -/
theorem attributesFrom_insert_of_cross (hclose : .char '>' ∉ stem) (hending : IsEnding ending)
    (hslash : ending.head? = some (.char '>') → stem.getLast? ≠ some (.char '/'))
    (hnew : StartsOutside (fun c => isBlank c || c == '=') new)
    (hread : Attribute.readValue? new = none)
    (h : attributeAt? before (stem ++ ending) = some a) (hcross : ∀ s, stem ≠ a.text ++ s) :
    attributesFrom before pos (stem ++ .char ' ' :: new) =
      attributesFrom (some (.char ' ')) (pos + stem.length + 1) new := by
  obtain ⟨ha, -, -, -, x, y, hgap, hstem⟩ := exists_gapAfter_of_ending hending h hcross
  have hfirst : attributeAt? before (stem ++ .char ' ' :: new) = none := by
    cases hfound : attributeAt? before (stem ++ .char ' ' :: new) with
    | none => rfl
    | some b =>
      by_cases hin : ∃ s, stem = b.text ++ s
      · obtain ⟨s, rfl⟩ := hin
        rw [List.append_assoc] at hfound h
        rw [(attributeAt?_insert_iff hclose hending hslash).2 hfound] at h
        cases h
        exact absurd rfl (hcross s)
      · obtain ⟨hquote, v, hv⟩ := exists_opening_of_insert hnew hread hfound
          fun s hs => hin ⟨s, hs⟩
        obtain ⟨q, hq, -, hopening⟩ := Attribute.exists_opening_eq hquote
        have hmem : q ∈ a.name ++ (a.gapBefore ++ .char '=' :: x) := by
          rw [← hstem, hv, hopening]
          simp
        rw [isQuote_eq_false_of_front ha hgap hmem] at hq
        cases hq
  have hnone : ∀ u c v, stem = u ++ c :: v →
      attributeAt? (u.getLast?.or before) (c :: (v ++ .char ' ' :: new)) = none := by
    intro u c v heq
    by_cases hu : u = []
    · subst hu
      rw [heq] at hfirst
      exact hfirst
    · have hopening : a.opening = u ++ c :: (v ++ (y ++ a.quote.mark)) := by
        have hsplit : a.opening = stem ++ (y ++ a.quote.mark) := by
          rw [hstem, Attribute.opening, hgap]
          simp
        rw [hsplit, heq]
        simp
      exact attributeAt?_of_opening_eq ha hopening hu _
  have hblank := attributeAt?_eq_none_of_not_isNameStart (c := ' ') (by decide)
    (stem.getLast?.or before) new
  rw [attributesFrom_append_of_none hnone, attributesFrom_of_none hblank]

/-- A new text lets nothing be read where nothing was read, unless a quote is stray. -/
theorem attributeAt?_insert_eq_none (hclose : .char '>' ∉ stem) (hending : IsEnding ending)
    (hslash : ending.head? = some (.char '>') → stem.getLast? ≠ some (.char '/'))
    (hnew : StartsOutside (fun c => isBlank c || c == '=') new)
    (hread : Attribute.readValue? new = none)
    (hquotes : QuotesCovered before pos (stem ++ ending))
    (h : attributeAt? before (stem ++ ending) = none) :
    attributeAt? before (stem ++ .char ' ' :: new) = none := by
  cases hfound : attributeAt? before (stem ++ .char ' ' :: new) with
  | none => rfl
  | some b =>
    by_cases hin : ∃ s, stem = b.text ++ s
    · obtain ⟨s, rfl⟩ := hin
      rw [List.append_assoc] at hfound h
      rw [(attributeAt?_insert_iff hclose hending hslash).2 hfound] at h
      cases h
    · obtain ⟨hquote, v, rfl⟩ := exists_opening_of_insert hnew hread hfound
        fun s hs => hin ⟨s, hs⟩
      have hb := (attributeAt?_eq_some_iff.1 hfound).2.1
      rw [List.append_assoc] at hquotes h
      exact absurd hquotes (not_quotesCovered hb hquote h)

/-- In front of a new text a scan finds what it found before, apart from an attribute whose value
was the slash at the end. -/
theorem exists_attributesFrom_insert (hclose : .char '>' ∉ stem) (hending : IsEnding ending)
    (hslash : ending.head? = some (.char '>') → stem.getLast? ≠ some (.char '/'))
    (hnew : StartsOutside (fun c => isBlank c || c == '=') new)
    (hread : Attribute.readValue? new = none)
    (hquotes : QuotesCovered before pos (stem ++ ending)) :
    ∃ found lost, (∀ e ∈ found, e.1 + e.2.text.length ≤ pos + stem.length) ∧
      (∀ e ∈ lost, e.2.quote = .bare ∧ e.2.value = [.char '/'] ∧
        e.1 + e.2.text.length + 1 = pos + (stem ++ ending).length) ∧
      attributesFrom before pos (stem ++ ending) = found ++ lost ∧
      attributesFrom before pos (stem ++ .char ' ' :: new) =
        found ++ attributesFrom (some (.char ' ')) (pos + stem.length + 1) new := by
  induction hlength : stem.length using Nat.strongRecOn generalizing before pos stem with
  | ind n ih =>
    subst hlength
    cases hold : attributeAt? before (stem ++ ending) with
    | some a =>
      by_cases hin : ∃ s, stem = a.text ++ s
      · obtain ⟨s, rfl⟩ := hin
        have hpos := a.text_length_pos
        have hlast : ending.head? = some (.char '>') → s.getLast? ≠ some (.char '/') :=
          fun hhead => getLast?_ne_of_append (hslash hhead)
        rw [List.append_assoc] at hold hquotes
        have hnow : attributeAt? before (a.text ++ (s ++ .char ' ' :: new)) = some a :=
          (attributeAt?_insert_iff hclose hending hslash).1 hold
        obtain ⟨found, lost, hfound, hlost, heq, heq'⟩ := ih s.length (by simp; omega)
          (fun hs => hclose (List.mem_append_right _ hs)) hlast (hquotes.of_some hold) rfl
        have hmoved (u : Text) :
            pos + (a.text ++ u).length = pos + a.text.length + u.length := by
          rw [List.length_append, Nat.add_assoc]
        refine ⟨(pos, a) :: found, lost, ?_, ?_, ?_, ?_⟩
        · intro e he
          rw [hmoved]
          rcases List.mem_cons.1 he with rfl | he
          · exact Nat.le_add_right _ _
          · exact hfound e he
        · intro e he
          rw [List.append_assoc, hmoved]
          exact hlost e he
        · rw [List.append_assoc, attributesFrom_of_some hold, heq, List.cons_append]
        · rw [List.append_assoc, attributesFrom_of_some hnow, heq', hmoved, List.cons_append]
      · have hcross : ∀ s, stem ≠ a.text ++ s := fun s hs => hin ⟨s, hs⟩
        obtain ⟨-, hbare, hvalue, heq, -⟩ := exists_gapAfter_of_ending hending hold hcross
        refine ⟨[], [(pos, a)], by simp, ?_, ?_,
          attributesFrom_insert_of_cross hclose hending hslash hnew hread hold hcross⟩
        · intro e he
          obtain rfl := List.mem_singleton.1 he
          rw [heq, List.length_append, List.length_singleton]
          exact ⟨hbare, hvalue, Nat.add_assoc _ _ _⟩
        · rw [heq] at hold ⊢
          rw [attributesFrom_of_some hold]
          have hrest : IsEnding [.char '>'] := ⟨[], by simp, .inl rfl⟩
          rw [hrest.attributesFrom_eq_nil]
          rfl
    | none =>
      have hskip := attributeAt?_insert_eq_none hclose hending hslash hnew hread hquotes hold
      cases stem with
      | nil =>
        exact ⟨[], [], by simp, by simp, hending.attributesFrom_eq_nil _ _,
          attributesFrom_of_none hskip⟩
      | cons c s =>
        have hlast : ending.head? = some (.char '>') → s.getLast? ≠ some (.char '/') :=
          fun hhead => getLast?_ne_of_append (t := [c]) (hslash hhead)
        rw [List.cons_append] at hold hskip hquotes
        obtain ⟨found, lost, hfound, hlost, heq, heq'⟩ := ih s.length (by simp)
          (fun hs => hclose (List.mem_cons_of_mem _ hs)) hlast (hquotes.of_none hold) rfl
        have hmoved (u : Text) : pos + (c :: u).length = pos + 1 + u.length := by
          rw [List.length_cons, Nat.add_assoc, Nat.add_comm 1]
        refine ⟨found, lost, ?_, ?_, ?_, ?_⟩
        · intro e he
          rw [hmoved]
          exact hfound e he
        · intro e he
          rw [List.cons_append, hmoved]
          exact hlost e he
        · rw [List.cons_append, attributesFrom_of_none hold, heq]
        · rw [List.cons_append, attributesFrom_of_none hskip, heq', hmoved]

end Insertion

/-! ## A new value -/

section Replacement
variable {front u v : Text}

/-- Where a bare value ends is decided by the next two characters. -/
theorem endsBefore_append_iff {quote : Quote} {value w : Text} (hw : 2 ≤ w.length) :
    EndsBefore quote value (w ++ u) ↔ EndsBefore quote value (w ++ v) := by
  match w with
  | c :: d :: w => simp [EndsBefore, endsBare, LeavesSlash]

theorem Attribute.two_le_length_head (ha : a.IsWritten) : 2 ≤ a.head.length := by
  obtain ⟨c, name, hname, -⟩ := Attribute.exists_name_eq_cons ha
  simp only [head, hname, List.length_append, List.length_cons]
  omega

/-- What is read in front of an attribute does not depend on its value. -/
theorem attributeAt?_head_iff {b : Attribute} {s : Text} (ha : a.IsWritten) :
    attributeAt? before (b.text ++ (s ++ (a.head ++ u))) = some b ↔
      attributeAt? before (b.text ++ (s ++ (a.head ++ v))) = some b := by
  have hlong := Attribute.two_le_length_head ha
  rw [attributeAt?_append_eq_some_iff, attributeAt?_append_eq_some_iff, ← List.append_assoc,
    ← List.append_assoc, endsBefore_append_iff (v := v) (by rw [List.length_append]; omega)]

/-- A bare value that reaches into an opening ends in its name. -/
theorem attributeAt?_of_bare {b : Attribute} {c : Code} {o z : Text} (hsign : .char '=' ∈ o)
    (hbare : b.quote = .bare) (hz : .char '=' ∉ z) (htext : b.text = front ++ c :: z)
    (h : attributeAt? before (front ++ (c :: o ++ v)) = some b) :
    attributeAt? before (front ++ (c :: o ++ u)) = some b := by
  obtain ⟨hbefore, hb, rest, heq, hend⟩ := attributeAt?_eq_some_iff.1 h
  have hsplit : o ++ v = z ++ rest := by
    rw [htext] at heq
    simpa using heq
  rcases List.append_eq_append_iff.1 hsplit with ⟨w, rfl, -⟩ | ⟨w, rfl, rfl⟩
  · exact absurd (List.mem_append_left _ hsign) hz
  · have hw : .char '=' ∈ w := (List.mem_append.1 hsign).resolve_left hz
    have hlong : 2 ≤ w.length := by
      match w, hw, hend with
      | [d], hw, hend =>
        obtain rfl : '=' = d := by simpa using hw
        exact absurd (hend hbare).1 (by simp [endsBare]; decide)
      | _ :: _ :: _, _, _ => simp
    have hread : attributeAt? before (b.text ++ (w ++ u)) = some b :=
      attributeAt?_append_eq_some_iff.2 ⟨hbefore, hb, (endsBefore_append_iff hlong).1 hend⟩
    rw [htext] at hread
    simpa using hread

/-- Another value lets nothing be read in front of it where nothing was read, unless a quote is
stray and the value brings one more. -/
theorem attributeAt?_replace_eq_none (ha : a.IsWritten) (hfront : front ≠ [])
    (hbehind : front.getLast?.any isNameChar = false)
    (hquotes : QuotesCovered before pos (front ++ (a.head ++ u)) ∨
      ∀ q, isQuote q = true → q ∈ a.head ++ v → q ∈ a.head ++ u)
    (h : attributeAt? before (front ++ (a.head ++ u)) = none) :
    attributeAt? before (front ++ (a.head ++ v)) = none := by
  cases hfound : attributeAt? before (front ++ (a.head ++ v)) with
  | none => rfl
  | some b =>
    obtain ⟨hbefore, hb, rest, heq, -⟩ := attributeAt?_eq_some_iff.1 hfound
    obtain ⟨c, name, hcons, hstart⟩ := Attribute.exists_name_eq_cons ha
    have hhead : a.head = c :: (name ++ (a.gapBefore ++ .char '=' :: a.gapAfter)) := by
      simp [Attribute.head, hcons]
    have hsplit : b.text ++ rest =
        front ++ c :: (name ++ (a.gapBefore ++ .char '=' :: a.gapAfter) ++ v) := by
      rw [← heq, hhead]
      rfl
    rcases append_eq_append_cons_iff.1 hsplit with ⟨y, htext, hy⟩ | ⟨s, rfl, -⟩
    · obtain ⟨x, z, hvalue, hx, hback⟩ :=
        Attribute.exists_value_of_isNameStart hb htext hfront hbehind hstart
      by_cases hbare : b.quote = .bare
      · have hwritten := hb.value
        rw [hbare] at hwritten
        have hz : .char '=' ∉ z := by
          intro hmem
          have hsign := (isBareChar_eq_true_iff.1 (hwritten.2 '=' (by simp [hvalue, hmem]))).2
          exact absurd (by decide) hsign
        rw [hback, hbare, Quote.mark, List.append_nil] at htext
        rw [hhead] at h hfound
        rw [attributeAt?_of_bare (by simp) hbare hz htext hfound] at h
        cases h
      · rw [hx, List.append_assoc] at hquotes h
        rcases hquotes with hquotes | hquotes
        · exact absurd hquotes (not_quotesCovered hb hbare h)
        · obtain ⟨q, hq, hmark, -⟩ := Attribute.exists_opening_eq hbare
          have hmem : q ∈ a.head ++ v := by
            rw [hhead, List.cons_append, hy, hback, hmark]
            simp
          exact absurd h (attributeAt?_opening_ne_none hbefore hb hmark
            (List.mem_append_right _ (hquotes q hq hmem)))
    · rw [List.append_assoc] at hfound h
      rw [(attributeAt?_head_iff ha).1 hfound] at h
      cases h

/-- An attribute that is found at the start of a text is read there. -/
theorem attributeAt?_of_mem_start (h : (pos, a) ∈ attributesFrom before pos t) :
    attributeAt? before t = some a := by
  obtain ⟨front, rest, rfl, hpos, hread⟩ := exists_of_mem_attributesFrom h
  obtain rfl : front = [] := List.length_eq_zero_iff.1 (by dsimp only at hpos; omega)
  exact hread

/-- What is found further on in a text leaves room for what is read at its start. -/
theorem exists_eq_text_append {d : Attribute} (hfront : front ≠ [])
    (hmem : (pos + front.length, a) ∈ attributesFrom before pos (front ++ t))
    (h : attributeAt? before (front ++ t) = some d) : ∃ s, front = d.text ++ s := by
  obtain ⟨-, -, tail, heq, -⟩ := attributeAt?_eq_some_iff.1 h
  have hlong := List.length_pos_iff.2 hfront
  rw [heq] at h hmem
  rw [attributesFrom_of_some h] at hmem
  have hle : d.text.length ≤ front.length := by
    rcases List.mem_cons.1 hmem with hhere | hmem
    · have := congrArg Prod.fst hhere
      dsimp only at this
      omega
    · have := le_of_mem_attributesFrom hmem
      dsimp only at this
      omega
  rcases List.append_eq_append_iff.1 heq with ⟨w, hw, -⟩ | ⟨s, hs, -⟩
  · rw [hw, List.length_append] at hle
    obtain rfl : w = [] := List.length_eq_zero_iff.1 (by omega)
    exact ⟨[], by simp [hw]⟩
  · exact ⟨s, hs⟩

/-- No character of a name stands in front of what is found. -/
theorem any_isNameChar_of_mem (hfront : front ≠ [])
    (hmem : (pos + front.length, a) ∈ attributesFrom before pos (front ++ t)) :
    front.getLast?.any isNameChar = false := by
  obtain ⟨front', rest, heq, hpos, hread⟩ := exists_of_mem_attributesFrom hmem
  dsimp only at hpos heq hread
  obtain ⟨rfl, -⟩ := List.append_inj heq (by omega)
  have hbefore := (attributeAt?_append_eq_some_iff.1 hread).1
  rw [List.getLast?_eq_some_getLast hfront] at hbefore ⊢
  exact hbefore

/-- What is found in a text depends on the character before it only where a name could start. -/
theorem attributesFrom_map_snd_congr {before' : Option Code} (pos' : Nat)
    (h : before'.any isNameChar = before.any isNameChar ∨ StartsOutside isNameStart rest) :
    (attributesFrom before' pos' rest).map Prod.snd =
      (attributesFrom before pos rest).map Prod.snd := by
  have hpos (before : Option Code) (pos : Nat) (t : Text) :
      (attributesFrom before pos t).map Prod.snd = (attributesFrom before 0 t).map Prod.snd := by
    have hadd : attributesFrom before (0 + pos) t =
        (attributesFrom before 0 t).map fun e => (e.1 + pos, e.2) := attributesFrom_add pos
    rw [Nat.zero_add] at hadd
    rw [hadd, List.map_map]
    rfl
  cases rest with
  | nil => rw [attributesFrom_nil, attributesFrom_nil]
  | cons c rest =>
    have hread : attributeAt? before' (c :: rest) = attributeAt? before (c :: rest) := by
      rcases h with h | h
      · rw [attributeAt?, attributeAt?, h]
      · have hc := startsOutside_cons.1 h
        rw [attributeAt?_eq_none_of_not_isNameStart hc,
          attributeAt?_eq_none_of_not_isNameStart hc]
    rw [attributesFrom, attributesFrom, hread]
    cases attributeAt? before (c :: rest) with
    | none => exact (hpos _ _ _).trans (hpos _ _ _).symm
    | some a =>
      simp only [List.map_cons]
      rw [hpos, ← hpos]

/-- Behind an attribute nothing depends on its value. -/
theorem map_snd_attributesFrom_behind {b : Attribute} (hquote : b.quote ≠ .bare) (pos' : Nat)
    (hread : attributeAt? before (a.text ++ rest) = some a) :
    (attributesFrom b.text.getLast? pos' rest).map Prod.snd =
      (attributesFrom a.text.getLast? pos rest).map Prod.snd := by
  have hlast {a : Attribute} (hquote : a.quote ≠ .bare) :
      a.text.getLast?.any isNameChar = false := by
    rw [Attribute.text]
    cases hq : a.quote with
    | double => simp [Quote.mark]; decide
    | single => simp [Quote.mark]; decide
    | bare => exact absurd hq hquote
  refine attributesFrom_map_snd_congr _ ?_
  by_cases hbare : a.quote = .bare
  · have hend := ((attributeAt?_append_eq_some_iff.1 hread).2.2 hbare).1
    refine .inr ?_
    cases rest with
    | nil => exact startsOutside_nil
    | cons c rest =>
      rw [startsOutside_cons]
      simp only [endsBare, Bool.or_eq_true, Bool.and_eq_true, beq_iff_eq] at hend
      rcases hend with (hblank | rfl) | ⟨rfl, -⟩
      · exact isNameStart_eq_false_of_isBlank hblank
      · decide
      · decide
  · exact .inl ((hlast hquote).trans (hlast hbare).symm)

/-- A scan finds the same in front of a new value and behind it, and between them the attribute
with its new value. -/
theorem exists_attributesFrom_replace {b : Attribute} (hb : b.IsWritten) (hquote : b.quote ≠ .bare)
    (hhead : b.head = a.head)
    (hmem : (pos + front.length, a) ∈ attributesFrom before pos (front ++ (a.text ++ rest)))
    (hquotes : QuotesCovered before pos (front ++ (a.text ++ rest)) ∨
      ∀ q, isQuote q = true → q ∈ b.text ++ rest → q ∈ a.text ++ rest) :
    ∃ found later later', (∀ e ∈ found, e.1 < pos + front.length) ∧
      attributesFrom before pos (front ++ (a.text ++ rest)) =
        found ++ (pos + front.length, a) :: later ∧
      attributesFrom before pos (front ++ (b.text ++ rest)) =
        found ++ (pos + front.length, b) :: later' ∧
      later'.map Prod.snd = later.map Prod.snd := by
  have ha : a.IsWritten := isWritten_of_mem_attributesFrom hmem
  have htexta : a.text ++ rest =
      a.head ++ (a.quote.mark ++ a.value ++ a.quote.mark ++ rest) := by
    simp [Attribute.text, Attribute.opening_eq]
  have htextb : b.text ++ rest =
      a.head ++ (b.quote.mark ++ b.value ++ b.quote.mark ++ rest) := by
    simp [Attribute.text, Attribute.opening_eq, hhead]
  induction hlength : front.length using Nat.strongRecOn generalizing before pos front with
  | ind n ih =>
    subst hlength
    by_cases hfront : front = []
    · subst hfront
      have hread : attributeAt? before (a.text ++ rest) = some a := attributeAt?_of_mem_start hmem
      have hreadb : attributeAt? before (b.text ++ rest) = some b :=
        attributeAt?_append_eq_some_iff.2 ⟨(attributeAt?_append_eq_some_iff.1 hread).1, hb,
          fun hbare => absurd hbare hquote⟩
      exact ⟨[], _, _, by simp, attributesFrom_of_some hread, attributesFrom_of_some hreadb,
        map_snd_attributesFrom_behind hquote _ hread⟩
    have hpos := List.length_pos_iff.2 hfront
    cases hold : attributeAt? before (front ++ (a.text ++ rest)) with
    | some d =>
      obtain ⟨s, rfl⟩ := exists_eq_text_append hfront hmem hold
      rw [List.append_assoc] at hold hmem hquotes
      rw [attributesFrom_of_some hold, List.length_append, ← Nat.add_assoc] at hmem
      have hlong := d.text_length_pos
      have hmem : (pos + d.text.length + s.length, a) ∈
          attributesFrom d.text.getLast? (pos + d.text.length) (s ++ (a.text ++ rest)) := by
        rcases List.mem_cons.1 hmem with heq | hmem
        · have := congrArg Prod.fst heq
          dsimp only at this
          omega
        · exact hmem
      have hnow : attributeAt? before (d.text ++ (s ++ (b.text ++ rest))) = some d := by
        rw [htextb]
        rw [htexta] at hold
        exact (attributeAt?_head_iff ha).1 hold
      obtain ⟨found, later, later', hlt, heq, heq', hlater⟩ :=
        ih s.length (by simp; omega) hmem (hquotes.imp_left (·.of_some hold)) rfl
      refine ⟨(pos, d) :: found, later, later', ?_, ?_, ?_, hlater⟩
      · intro e he
        rw [List.length_append, ← Nat.add_assoc]
        rcases List.mem_cons.1 he with rfl | he
        · dsimp only
          omega
        · exact hlt e he
      · rw [List.append_assoc, attributesFrom_of_some hold, heq, List.length_append,
          ← Nat.add_assoc, List.cons_append]
      · rw [List.append_assoc, attributesFrom_of_some hnow, heq', List.length_append,
          ← Nat.add_assoc, List.cons_append]
    | none =>
      have hname := any_isNameChar_of_mem hfront hmem
      have hnow : attributeAt? before (front ++ (b.text ++ rest)) = none := by
        rw [htextb] at hquotes ⊢
        rw [htexta] at hold hquotes
        exact attributeAt?_replace_eq_none ha hfront hname hquotes hold
      obtain ⟨c, s, rfl⟩ := List.exists_cons_of_ne_nil hfront
      rw [List.cons_append] at hold hnow hmem hquotes
      rw [attributesFrom_of_none hold, List.length_cons, Nat.add_comm s.length,
        ← Nat.add_assoc] at hmem
      obtain ⟨found, later, later', hlt, heq, heq', hlater⟩ :=
        ih s.length (by simp) hmem (hquotes.imp_left (·.of_none hold)) rfl
      refine ⟨found, later, later', ?_, ?_, ?_, hlater⟩
      · intro e he
        have := hlt e he
        rw [List.length_cons]
        omega
      · rw [List.cons_append, attributesFrom_of_none hold, heq, List.length_cons,
          Nat.add_comm s.length, ← Nat.add_assoc]
      · rw [List.cons_append, attributesFrom_of_none hnow, heq', List.length_cons,
          Nat.add_comm s.length, ← Nat.add_assoc]

end Replacement

end MarkupNaming.Markup
