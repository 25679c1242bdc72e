import MarkupNaming.Proofs.Markup.Attribute.Listing
import MarkupNaming.Proofs.Markup.Rewriting

/-!
# Start tags

What a browser reads in a start tag, as a reader that goes through the text character by character
and mentions each attribute when it is complete, with a value or without one. A tag that is put
together from a name, attributes and an ending is read back as these attributes, each in its place.
-/
namespace MarkupNaming.Markup
open Text

/-! ## Reading -/

/-- An attribute that is read in a tag: its name in lowercase and, if it has one, its value as it is
written and what encloses it. -/
structure Mention where
  name : Text
  value? : Option (Quote × Text)
deriving DecidableEq, Repr

/-- Where a reader of a tag is. -/
inductive Reader
  | tagName
  | between
  | name (read : Text)
  | behindName (name : Text)
  | beforeValue (name : Text)
  | value (name : Text) (quote : Quote) (read : Text)
  | closed
deriving DecidableEq, Repr

namespace Reader

/-- Where a character leads that belongs to no attribute yet. -/
def start (c : Code) : Reader :=
  if c = '>' then closed else if isBlank c || c = '/' then between else name [c]

/-- What is mentioned at a character, and where it leads. -/
def next : Reader → Code → List Mention × Reader
  | tagName, c => ([], if isBlank c || c = '/' || c = '>' then start c else tagName)
  | between, c => ([], start c)
  | name n, c =>
    if c = '=' then ([], beforeValue n)
    else if isBlank c then ([], behindName n)
    else if c = '/' || c = '>' then ([⟨lower n, none⟩], start c)
    else ([], name (n ++ [c]))
  | behindName n, c =>
    if c = '=' then ([], beforeValue n)
    else if isBlank c then ([], behindName n)
    else ([⟨lower n, none⟩], start c)
  | beforeValue n, c =>
    if isBlank c then ([], beforeValue n)
    else if c = '"' then ([], value n .double [])
    else if c = '\'' then ([], value n .single [])
    else if c = '>' then ([⟨lower n, some (.bare, [])⟩], closed)
    else ([], value n .bare [c])
  | value n .bare v, c =>
    if isBlank c || c = '>' then ([⟨lower n, some (.bare, v)⟩], start c)
    else ([], value n .bare (v ++ [c]))
  | value n quote v, c =>
    if quote.mark = [c] then ([⟨lower n, some (quote, v)⟩], between)
    else ([], value n quote (v ++ [c]))
  | closed, _ => ([], closed)

/-- What is mentioned in a text. -/
def mentions : Reader → Text → List Mention
  | _, [] => []
  | r, c :: t => (r.next c).1 ++ mentions (r.next c).2 t

variable {r : Reader} {t w rest ending : Text} {n : Text}

@[simp] theorem mentions_nil (r : Reader) : r.mentions [] = [] := rfl

theorem mentions_cons (r : Reader) (c : Code) (t : Text) :
    r.mentions (c :: t) = (r.next c).1 ++ (r.next c).2.mentions t := rfl

/-- A reader that takes up every character of a run has taken up the run. -/
theorem mentions_run {f : Text → Reader}
    (h : ∀ v, ∀ c ∈ w, (f v).next c = ([], f (v ++ [c]))) (v rest : Text) :
    (f v).mentions (w ++ rest) = (f (v ++ w)).mentions rest := by
  induction w generalizing v with
  | nil => simp
  | cons c w ih =>
    rw [List.cons_append, mentions_cons, h v c List.mem_cons_self,
      ih fun v d hd => h v d (List.mem_cons_of_mem _ hd)]
    simp

/-- A reader passes over characters at which it stays where it is. -/
theorem mentions_stay (h : ∀ c ∈ w, r.next c = ([], r)) (rest : Text) :
    r.mentions (w ++ rest) = r.mentions rest :=
  mentions_run (f := fun _ => r) (fun _ => h) [] rest

@[simp] theorem mentions_closed (t : Text) : closed.mentions t = [] := by
  have hstay : closed.mentions (t ++ []) = closed.mentions [] := mentions_stay (fun _ _ => rfl) []
  simpa using hstay

theorem mentions_between_of_blanks (hw : ∀ c ∈ w, isBlank c = true) (rest : Text) :
    between.mentions (w ++ rest) = between.mentions rest := by
  refine mentions_stay (fun c hc => ?_) rest
  have hclose : c ≠ '>' := by
    rintro rfl
    exact absurd (hw _ hc) (by decide)
  simp [next, start, hw c hc, hclose]

theorem mentions_ending (h : IsEnding ending) : between.mentions ending = [] := by
  obtain ⟨gap, hgap, rfl | rfl⟩ := h <;>
  · rw [mentions_between_of_blanks hgap]
    simp [mentions_cons, next, start]

/-! ## Reading a name -/

theorem of_isNameChar {c : Code} (h : isNameChar c = true) :
    isBlank c = false ∧ c ≠ '=' ∧ c ≠ '/' ∧ c ≠ '>' := by
  have hother : ∀ d, isNameChar d = false → c ≠ d := by
    rintro d hd rfl
    rw [h] at hd
    cases hd
  refine ⟨?_, hother '=' (by decide), hother '/' (by decide), hother '>' (by decide)⟩
  cases hblank : isBlank c with
  | false => rfl
  | true => exact absurd rfl (hother c (isNameChar_eq_false_of_isBlank hblank))

theorem mentions_attributeName (h : isAttributeName n = true) (rest : Text) :
    between.mentions (n ++ rest) = (name n).mentions rest := by
  cases n with
  | nil => cases h
  | cons c n =>
    have hchar : ∀ d ∈ c :: n, isNameChar d = true := fun d hd => isNameChar_of_mem_name h hd
    obtain ⟨hblank, -, hslash, hclose⟩ := of_isNameChar (hchar c List.mem_cons_self)
    have hrun : ∀ v, ∀ d ∈ n, (name v).next d = ([], name (v ++ [d])) := by
      intro v d hd
      obtain ⟨hblank, hsign, hslash, hclose⟩ := of_isNameChar (hchar d (List.mem_cons_of_mem _ hd))
      simp [next, hblank, hsign, hslash, hclose]
    have hstart : between.next c = ([], name [c]) := by
      simp [next, start, hblank, hslash, hclose]
    rw [List.cons_append, mentions_cons, hstart, List.nil_append, mentions_run hrun]
    rfl

theorem mentions_behindName_of_blanks (hw : ∀ c ∈ w, isBlank c = true) (rest : Text) :
    (behindName n).mentions (w ++ rest) = (behindName n).mentions rest := by
  refine mentions_stay (fun c hc => ?_) rest
  have hsign : c ≠ '=' := by
    rintro rfl
    exact absurd (hw _ hc) (by decide)
  simp [next, hw c hc, hsign]

/-- Blanks behind a name leave it open whether a value follows. -/
theorem mentions_name_of_blanks (hw : ∀ c ∈ w, isBlank c = true) (hne : w ≠ []) (rest : Text) :
    (name n).mentions (w ++ rest) = (behindName n).mentions rest := by
  obtain ⟨b, w, rfl⟩ := List.exists_cons_of_ne_nil hne
  have hb := hw b List.mem_cons_self
  have hsign : b ≠ '=' := by
    rintro rfl
    exact absurd hb (by decide)
  have hstep : (name n).next b = ([], behindName n) := by simp [next, hb, hsign]
  rw [List.cons_append, mentions_cons, hstep, List.nil_append,
    mentions_behindName_of_blanks fun c hc => hw c (List.mem_cons_of_mem _ hc)]

/-- A name with no equals sign behind it is an attribute without a value. -/
theorem mentions_name_of_follows (hrest : Follows rest) (hne : rest.dropWhile isBlank ≠ []) :
    (name n).mentions rest = ⟨lower n, none⟩ :: between.mentions rest := by
  obtain ⟨d, t, hdrop⟩ := List.exists_cons_of_ne_nil hne
  have hd : isBlank d = false := by
    have hout : StartsOutside isBlank (rest.dropWhile isBlank) := startsOutside_dropWhile
    rwa [hdrop, startsOutside_cons] at hout
  have hsign : d ≠ '=' := by
    have := hrest.head?_ne
    rw [hdrop] at this
    rintro rfl
    exact this rfl
  have hsplit : rest = rest.takeWhile isBlank ++ d :: t := by
    rw [← hdrop, List.takeWhile_append_dropWhile]
  by_cases hblanks : rest.takeWhile isBlank = []
  · rw [hblanks, List.nil_append] at hsplit
    have hend := hrest.endsBare
    rw [hsplit, endsBare, hd] at hend
    have hd' : d = '/' ∨ d = '>' := by
      simp only [Bool.false_or, Bool.or_eq_true, Bool.and_eq_true, beq_iff_eq] at hend
      exact hend.symm.imp_left And.left
    have hstep : (name n).next d = ([⟨lower n, none⟩], start d) := by
      simp [next, hsign, hd, hd']
    rw [hsplit, mentions_cons, mentions_cons, hstep]
    rfl
  · have hstep : (behindName n).next d = ([⟨lower n, none⟩], start d) := by
      simp [next, hsign, hd]
    rw [hsplit, mentions_name_of_blanks forall_mem_takeWhile hblanks,
      mentions_between_of_blanks forall_mem_takeWhile, mentions_cons, mentions_cons, hstep]
    rfl

/-- An equals sign behind a name leads to a value. -/
theorem mentions_name_sign (hw : ∀ c ∈ w, isBlank c = true) (rest : Text) :
    (name n).mentions (w ++ .char '=' :: rest) = (beforeValue n).mentions rest := by
  by_cases hne : w = []
  · rw [hne]
    simp [mentions_cons, next]
  · rw [mentions_name_of_blanks hw hne]
    simp [mentions_cons, next]

/-! ## Reading a value -/

/-- What ends a bare value. -/
def EndsBareValue (rest : Text) : Prop := ∃ c t, rest = c :: t ∧ (isBlank c = true ∨ c = '>')

theorem mentions_bareValue {v : Text} (hw : ∀ c ∈ w, isBlank c = false ∧ c ≠ '>')
    (hrest : EndsBareValue rest) : (value n .bare v).mentions (w ++ rest) =
      ⟨lower n, some (.bare, v ++ w)⟩ :: between.mentions rest := by
  obtain ⟨c, t, rfl, hc⟩ := hrest
  have hstep : (value n .bare (v ++ w)).next c =
      ([⟨lower n, some (.bare, v ++ w)⟩], start c) := by
    simp [next, hc]
  rw [mentions_run (f := value n .bare), mentions_cons, mentions_cons, hstep]
  · rfl
  · intro u d hd
    simp [next, hw d hd]

theorem next_quotedValue {quote : Quote} {q : Code} (hmark : quote.mark = [q]) (v : Text)
    (c : Code) : (value n quote v).next c =
      if q = c then ([⟨lower n, some (quote, v)⟩], between)
      else ([], value n quote (v ++ [c])) := by
  have hiff : quote.mark = [c] ↔ q = c := by rw [hmark, List.singleton_inj]
  rw [← if_congr hiff rfl rfl]
  cases quote with
  | double => rfl
  | single => rfl
  | bare => cases hmark

theorem mentions_quotedValue {quote : Quote} {q : Code} (hmark : quote.mark = [q]) (hq : q ∉ w)
    (rest : Text) : (value n quote []).mentions (w ++ q :: rest) =
      ⟨lower n, some (quote, w)⟩ :: between.mentions rest := by
  rw [mentions_run (f := value n quote), List.nil_append, mentions_cons,
    next_quotedValue hmark, if_pos rfl]
  · rfl
  · intro v c hc
    rw [next_quotedValue hmark, if_neg]
    rintro rfl
    exact hq hc

theorem mentions_beforeValue_of_blanks (hw : ∀ c ∈ w, isBlank c = true) (rest : Text) :
    (beforeValue n).mentions (w ++ rest) = (beforeValue n).mentions rest :=
  mentions_stay (fun c hc => by simp [next, hw c hc]) rest

theorem next_beforeValue {quote : Quote} {q : Code} (hmark : quote.mark = [q]) :
    (beforeValue n).next q = ([], value n quote []) := by
  cases quote with
  | double =>
    obtain rfl : '"' = q := by simpa [Quote.mark] using hmark
    simp [next, show isBlank '"' = false by decide]
  | single =>
    obtain rfl : '\'' = q := by simpa [Quote.mark] using hmark
    simp [next, show isBlank '\'' = false by decide]
  | bare => cases hmark

/-- A bare value starts with any character but a blank, a quote and `>`. -/
theorem next_beforeValue_bare {c : Code} (hblank : isBlank c = false) (hquote : isQuote c = false)
    (hclose : c ≠ '>') : (beforeValue n).next c = ([], value n .bare [c]) := by
  simp only [isQuote, Bool.or_eq_false_iff, beq_eq_false_iff_ne] at hquote
  simp [next, hblank, hquote, hclose]

/-- A value is read up to its end. -/
theorem mentions_beforeValue {quote : Quote} {v : Text} (hv : quote.encloses v)
    (hrest : quote = .bare → EndsBareValue rest) :
    (beforeValue n).mentions (quote.mark ++ (v ++ (quote.mark ++ rest))) =
      ⟨lower n, some (quote, v)⟩ :: between.mentions rest := by
  by_cases hquote : quote = .bare
  · subst hquote
    obtain ⟨hne, hbare⟩ := hv
    have hchar : ∀ c ∈ v, isBlank c = false ∧ isQuote c = false ∧ c ≠ '>' := by
      intro c hc
      obtain ⟨hblank, hmarks⟩ := isBareChar_eq_true_iff.1 (hbare c hc)
      refine ⟨hblank, isQuote_eq_false_of (by decide) (by decide) (hbare c hc), ?_⟩
      rintro rfl
      exact hmarks (by decide)
    obtain ⟨c, v, rfl⟩ := List.exists_cons_of_ne_nil hne
    obtain ⟨hblank, hmark, hclose⟩ := hchar c List.mem_cons_self
    change (beforeValue n).mentions (c :: (v ++ rest)) = _
    rw [mentions_cons, next_beforeValue_bare hblank hmark hclose, List.nil_append,
      mentions_bareValue _ (hrest rfl)]
    · rfl
    · intro d hd
      obtain ⟨hblank, -, hclose⟩ := hchar d (List.mem_cons_of_mem _ hd)
      exact ⟨hblank, hclose⟩
  · obtain ⟨q, hmark, -⟩ := Quote.exists_mark_eq hquote
    have hq := (Quote.encloses_iff_of_mark hmark v).1 hv
    rw [hmark, List.singleton_append, List.singleton_append, mentions_cons,
      next_beforeValue hmark, List.nil_append, mentions_quotedValue hmark hq]

end Reader

/-! ## Reading attributes -/

/-- What is to be read of an attribute. -/
def Attribute.mention (a : Attribute) : Mention := ⟨lower a.name, some (a.quote, a.value)⟩

namespace Part

/-- The name of an attribute in lowercase. -/
def lowerName : Part → Text
  | flag name _ => lower name
  | valued a _ => lower a.name

/-- What is to be read of an attribute. -/
def mention : Part → Mention
  | flag name _ => ⟨lower name, none⟩
  | valued a _ => a.mention

@[simp] theorem name_mention (part : Part) : part.mention.name = part.lowerName := by
  cases part <;> rfl

/-- Whether an attribute stands apart from the text behind it: a bare value takes up a slash. -/
def StandsApart (part : Part) (rest : Text) : Prop :=
  ∀ a written, part = .valued a written → a.quote = .bare → rest.head? ≠ some (.char '/')

variable {part : Part} {rest ending : Text} {parts : List (Gap × Part)}

/-- An attribute is read where it stands. -/
theorem mentions_append (hrest : Follows rest) (hne : rest.dropWhile isBlank ≠ [])
    (hapart : part.StandsApart rest) :
    Reader.between.mentions (part.text ++ rest) =
      part.mention :: Reader.between.mentions rest := by
  cases part with
  | flag name isName =>
    change Reader.between.mentions (name ++ rest) = _
    rw [Reader.mentions_attributeName isName, Reader.mentions_name_of_follows hrest hne]
    rfl
  | valued a written =>
    have hend : a.quote = .bare → Reader.EndsBareValue rest := by
      intro hbare
      have hslash := hapart a written rfl hbare
      have hends := hrest.endsBare
      cases rest with
      | nil => exact absurd rfl hne
      | cons c t =>
        have hc : c ≠ '/' := by simpa using hslash
        exact ⟨c, t, rfl, by simpa [endsBare, hc] using hends⟩
    change Reader.between.mentions (a.text ++ rest) = _
    rw [Attribute.text_append, Reader.mentions_attributeName written.name,
      Reader.mentions_name_sign written.gapBefore,
      Reader.mentions_beforeValue_of_blanks written.gapAfter,
      Reader.mentions_beforeValue written.value hend]
    rfl

theorem eachBefore_standsApart (hlast : ∀ p ∈ parts.getLast?, p.2.StandsApart ending) :
    EachBefore StandsApart ending parts := by
  refine eachBefore_of_last (fun part b t hb a written _ _ => ?_) hlast
  rintro ⟨⟩
  exact absurd hb (by decide)

end Part

section List
variable {rest ending : Text} {parts : List (Gap × Part)}

theorem dropWhile_append_ne_nil {p : Code → Bool} (t : Text) (h : rest.dropWhile p ≠ []) :
    (t ++ rest).dropWhile p ≠ [] := by
  rw [List.dropWhile_append]
  split
  · exact h
  · next hne =>
    rw [List.isEmpty_iff] at hne
    simp [hne]

theorem dropWhile_ne_nil_of_mem {p : Code → Bool} {t : Text} {c : Code} (hc : c ∈ t)
    (h : p c = false) : t.dropWhile p ≠ [] := by
  intro hnil
  have hall := List.takeWhile_append_dropWhile (p := p) (l := t)
  rw [hnil, List.append_nil] at hall
  rw [← hall] at hc
  rw [forall_mem_takeWhile c hc] at h
  cases h

theorem IsEnding.dropWhile_ne_nil (h : IsEnding ending) : ending.dropWhile isBlank ≠ [] := by
  refine dropWhile_ne_nil_of_mem (c := '>') ?_ (by decide)
  obtain ⟨gap, -, rfl | rfl⟩ := h <;> simp

/-- Attributes are read one after the other, and then what stands behind them. -/
theorem mentions_renderParts (hrest : Follows rest) (hne : rest.dropWhile isBlank ≠ [])
    (hapart : EachBefore Part.StandsApart rest parts) :
    Reader.between.mentions (renderParts parts ++ rest) =
      parts.map (·.2.mention) ++ Reader.between.mentions rest := by
  induction parts with
  | nil => rfl
  | cons p parts ih =>
    obtain ⟨gap, part⟩ := p
    rw [renderParts_cons, List.append_assoc, List.append_assoc,
      Reader.mentions_between_of_blanks gap.blank,
      Part.mentions_append (follows_renderParts hrest parts) (dropWhile_append_ne_nil _ hne)
        hapart.1, ih hapart.2]
    rfl

end List

/-! ## Tags -/

/-- What is mentioned in a tag, whose first character is its `<`. -/
def mentioned (tag : Text) : List Mention := Reader.tagName.mentions (tag.drop 1)

/-- A start tag as it is put together. -/
structure StartTag where
  name : TagName
  parts : List (Gap × Part)
  /-- Blanks behind the last attribute. -/
  gap : Text
  blank : ∀ c ∈ gap, isBlank c = true
  closesItself : Bool

namespace StartTag
variable (tag : StartTag)

/-- The end of the tag, behind its attributes. -/
def close : Text := tag.gap ++ if tag.closesItself then [.char '/', .char '>'] else [.char '>']

/-- The tag up to its end. -/
def front : Text := .char '<' :: (tag.name.text ++ renderParts tag.parts)

/-- The tag as it is written. -/
def text : Text := tag.front ++ tag.close

/-- Whether the last attribute stands apart from the end of the tag, so that the slash of the end
is none of a bare value. -/
def IsApart : Prop := ∀ p ∈ tag.parts.getLast?, p.2.StandsApart tag.close

theorem isEnding_close : IsEnding tag.close := by
  refine ⟨tag.gap, tag.blank, ?_⟩
  unfold close
  cases tag.closesItself <;> simp

/-- A reader is through with the name of a tag at a blank and at the end of the tag. -/
theorem mentioned_append {rest : Text} (n : TagName) (hne : rest ≠ [])
    (hends : endsBare rest = true) :
    mentioned (.char '<' :: (n.text ++ rest)) = Reader.between.mentions rest := by
  have hstay : ∀ c ∈ n.text, Reader.tagName.next c = ([], .tagName) := by
    intro c hc
    have hname : isNameChar c = true := by simp [isNameChar, n.isWord_of_mem hc]
    obtain ⟨hblank, -, hslash, hclose⟩ := Reader.of_isNameChar hname
    simp [Reader.next, hblank, hslash, hclose]
  obtain ⟨c, t, rfl⟩ := List.exists_cons_of_ne_nil hne
  have hc : isBlank c = true ∨ c = '/' ∨ c = '>' := by
    simp only [endsBare, Bool.or_eq_true, Bool.and_eq_true, beq_iff_eq] at hends
    rcases hends with (h | h) | h
    · exact .inl h
    · exact .inr (.inr h)
    · exact .inr (.inl h.1)
  have hstep : Reader.tagName.next c = Reader.between.next c := by
    simp only [Reader.next, Prod.mk.injEq, true_and]
    rw [if_pos (by simpa [or_assoc] using hc)]
  rw [mentioned, List.drop_one, List.tail_cons, Reader.mentions_stay hstay, Reader.mentions_cons,
    Reader.mentions_cons, hstep]

/-- In a tag its attributes are read, and then what stands behind them. -/
theorem mentioned_renderParts {rest : Text} {parts : List (Gap × Part)} (n : TagName)
    (hrest : Follows rest) (hne : rest.dropWhile isBlank ≠ [])
    (hlast : ∀ p ∈ parts.getLast?, p.2.StandsApart rest) :
    mentioned (.char '<' :: (n.text ++ (renderParts parts ++ rest))) =
      parts.map (·.2.mention) ++ Reader.between.mentions rest := by
  have hne' : renderParts parts ++ rest ≠ [] := fun hnil =>
    dropWhile_append_ne_nil (renderParts parts) hne (by rw [hnil]; rfl)
  rw [mentioned_append n hne' (follows_renderParts hrest parts).endsBare,
    mentions_renderParts hrest hne (Part.eachBefore_standsApart hlast)]

theorem text_eq : tag.text =
    .char '<' :: (tag.name.text ++ (renderParts tag.parts ++ tag.close)) := by
  simp [text, front]

/-- What is read in a tag are its attributes. -/
theorem mentioned_text (h : tag.IsApart) : mentioned tag.text = tag.parts.map (·.2.mention) := by
  have hclose := tag.isEnding_close
  rw [text_eq, mentioned_renderParts tag.name hclose.follows hclose.dropWhile_ne_nil h,
    Reader.mentions_ending hclose, List.append_nil]

end StartTag
end MarkupNaming.Markup
