import MarkupNaming.Markup.Attribute
import MarkupNaming.Proofs.Text.Characters
import MarkupNaming.Proofs.Text.Runs
import Mathlib.Logic.Basic

/-!
# Reading one attribute

Which attribute stands at the start of a text. An attribute is read exactly when the text begins
with its written form and what follows lets its value end there: a quoted value ends at its
quote, a bare one before a blank, `>` or `/>`, and it does not keep a slash that belongs to `/>`.
-/
namespace MarkupNaming.Markup
open Text

/-! ## Characters -/

theorem isNameChar_of_isNameStart {c : Code} (h : isNameStart c = true) : isNameChar c = true := by
  simp only [isNameStart, isNameChar, Bool.or_eq_true] at h ⊢
  rcases h with (h | h) | h
  · exact .inl (.inl (.inl (isWord_of_isAsciiLetter h)))
  · rw [beq_iff_eq.1 h]
    exact .inl (.inl (.inl (by decide)))
  · exact .inl (.inl (.inr h))

theorem isNameChar_eq_false_of_isBlank {c : Code} (h : isBlank c = true) :
    isNameChar c = false := by
  have hne : ∀ d, isBlank d = false → c ≠ d := by
    rintro d hd rfl
    simp [h] at hd
  simp [isNameChar, isWord_eq_false_of_isBlank h, hne ':' (by decide), hne '.' (by decide),
    hne '-' (by decide)]

theorem isNameStart_eq_false_of_isBlank {c : Code} (h : isBlank c = true) :
    isNameStart c = false := by
  cases hs : isNameStart c
  · rfl
  · rw [← isNameChar_of_isNameStart hs, isNameChar_eq_false_of_isBlank h]

theorem isBareChar_eq_true_iff {c : Code} :
    isBareChar c = true ↔ isBlank c = false ∧ c ∉ ("\"'=<>`" : Text) := by
  simp [isBareChar]

theorem endsBare_cons_of_isBareChar {c : Code} (h : isBareChar c = true) (rest : Text) :
    endsBare (c :: rest) = (c == '/' && rest.head? == some (.char '>')) := by
  rw [isBareChar_eq_true_iff] at h
  have hclose : c ≠ '>' := by
    rintro rfl
    exact h.2 (by decide)
  simp [endsBare, h.1, hclose]

/-! ## Bare values -/

/-- Whether a bare value that ends before a text leaves it no slash: the value is a slash alone,
or it does not end in the slash of a `/>`. -/
def LeavesSlash (value rest : Text) : Prop :=
  value.length = 1 ∨ value.getLast? ≠ some (.char '/') ∨ rest.head? ≠ some (.char '>')

/-- A longer value leaves the slash if its first character does not already end it. -/
theorem leavesSlash_cons {c : Code} {value rest : Text} (h : ∀ d ∈ value, isBareChar d = true) :
    LeavesSlash (c :: value) rest ↔
      value = [] ∨ endsBare (value ++ rest) = false ∧ LeavesSlash value rest := by
  match value with
  | [] => simp [LeavesSlash]
  | [d] =>
    rw [List.singleton_append, endsBare_cons_of_isBareChar (h d List.mem_cons_self)]
    simp [LeavesSlash, imp_iff_not_or]
  | d :: e :: value =>
    have he : e ≠ '>' := by
      rintro rfl
      exact absurd (h '>' (by simp)) (by decide)
    rw [List.cons_append, endsBare_cons_of_isBareChar (h d List.mem_cons_self)]
    simp [LeavesSlash, he]

theorem bareValue?_eq_some_iff {t value : Text} :
    bareValue? t = some value ↔ value ≠ [] ∧ (∀ c ∈ value, isBareChar c = true) ∧
      ∃ rest, t = value ++ rest ∧ endsBare rest = true ∧ LeavesSlash value rest := by
  induction t generalizing value with
  | nil =>
      simp only [bareValue?, reduceCtorEq, false_iff]
      rintro ⟨hne, -, rest, heq, -⟩
      exact hne (List.append_eq_nil_iff.1 heq.symm).1
  | cons c t ih =>
      rw [bareValue?]
      constructor
      · intro h
        split at h
        · next hc =>
          split at h
          · next hend =>
            cases h
            exact ⟨by simp, by simpa using hc, t, rfl, hend, .inl rfl⟩
          · next hend =>
            obtain ⟨w, hw, rfl⟩ := Option.map_eq_some_iff.1 h
            obtain ⟨hne, hbare, rest, rfl, hrest, hslash⟩ := ih.1 hw
            refine ⟨by simp, List.forall_mem_cons.2 ⟨hc, hbare⟩, rest, rfl, hrest, ?_⟩
            exact (leavesSlash_cons hbare).2 (.inr ⟨by simpa using hend, hslash⟩)
        · cases h
      · rintro ⟨hne, hbare, rest, heq, hrest, hslash⟩
        obtain ⟨d, w, rfl⟩ := List.exists_cons_of_ne_nil hne
        obtain ⟨rfl, rfl⟩ := List.cons.inj heq
        obtain ⟨hc, hw⟩ := List.forall_mem_cons.1 hbare
        rw [if_pos hc]
        rcases (leavesSlash_cons hw).1 hslash with rfl | ⟨hend, hslash⟩
        · rw [List.append_eq, List.nil_append, if_pos hrest]
        · rw [List.append_eq, hend, if_neg Bool.false_ne_true, Option.map_eq_some_iff]
          refine ⟨w, ih.2 ⟨?_, hw, rest, rfl, hrest, hslash⟩, rfl⟩
          rintro rfl
          simp [hrest] at hend

/-! ## Names -/

/-- Whether a text is the name of an attribute. -/
def isAttributeName : Text → Bool
  | [] => false
  | c :: rest => isNameStart c && rest.all isNameChar

theorem isNameChar_of_mem_name {name : Text} (h : isAttributeName name = true) {c : Code}
    (hc : c ∈ name) : isNameChar c = true := by
  match name with
  | d :: rest =>
    simp only [isAttributeName, Bool.and_eq_true, List.all_eq_true] at h
    rcases List.mem_cons.1 hc with rfl | hc
    · exact isNameChar_of_isNameStart h.1
    · exact h.2 c hc

theorem leadingName_append {name rest : Text} (h : isAttributeName name = true)
    (hrest : StartsOutside isNameChar rest) : leadingName (name ++ rest) = name := by
  match name with
  | c :: name =>
    simp only [isAttributeName, Bool.and_eq_true, List.all_eq_true] at h
    rw [List.cons_append, leadingName, if_pos h.1, takeWhile_append_of_startsOutside h.2 hrest]

/-- A text is its leading name and a text that does not continue the name. -/
theorem leadingName_spec (t : Text) : leadingName t = [] ∨ isAttributeName (leadingName t) = true ∧
    ∃ rest, t = leadingName t ++ rest ∧ StartsOutside isNameChar rest := by
  match t with
  | [] => exact .inl rfl
  | c :: t =>
    rw [leadingName]
    split
    · next hc =>
      refine .inr ⟨?_, t.dropWhile isNameChar, ?_, startsOutside_dropWhile⟩
      · simp only [isAttributeName, Bool.and_eq_true, List.all_eq_true]
        exact ⟨hc, forall_mem_takeWhile⟩
      · rw [List.cons_append, List.takeWhile_append_dropWhile]
    · exact .inl rfl

/-! ## Values -/

/-- Whether a value can stand between its marks. -/
def Quote.encloses : Quote → Text → Prop
  | .double, value => .char '"' ∉ value
  | .single, value => .char '\'' ∉ value
  | .bare, value => value ≠ [] ∧ ∀ c ∈ value, isBareChar c = true

/-- A text before which a value ends. -/
def EndsBefore (quote : Quote) (value rest : Text) : Prop :=
  quote = .bare → endsBare rest = true ∧ LeavesSlash value rest

/-- A text that holds a character, cut at its first occurrence. -/
theorem exists_takeWhile_ne {q : Code} {t : Text} (h : q ∈ t) :
    q ∉ t.takeWhile (· != q) ∧ ∃ rest, t = t.takeWhile (· != q) ++ q :: rest := by
  obtain ⟨front, rest, rfl, hq⟩ := List.eq_append_cons_of_mem h
  have hfront : (front ++ q :: rest).takeWhile (· != q) = front := by
    refine takeWhile_append_of_startsOutside (fun c hc => ?_) (by simp)
    simpa using fun heq : c = q => hq (heq ▸ hc)
  rw [hfront]
  exact ⟨hq, rest, rfl⟩

theorem takeWhile_ne {q : Code} {front : Text} (h : q ∉ front) (rest : Text) :
    (front ++ q :: rest).takeWhile (· != q) = front := by
  refine takeWhile_append_of_startsOutside (fun c hc => ?_) (by simp)
  simpa using fun heq : c = q => h (heq ▸ hc)

namespace Attribute

theorem readValue?_eq_some_iff {t value : Text} {quote : Quote} :
    readValue? t = some (quote, value) ↔ quote.encloses value ∧
      ∃ rest, t = quote.mark ++ (value ++ (quote.mark ++ rest)) ∧ EndsBefore quote value rest := by
  constructor
  · intro h
    unfold readValue? at h
    split at h
    · next r =>
      split at h
      · next hmem =>
        cases h
        obtain ⟨hvalue, rest, heq⟩ := exists_takeWhile_ne hmem
        exact ⟨hvalue, rest, congrArg (.char '"' :: ·) heq, by simp [EndsBefore]⟩
      · cases h
    · next r =>
      split at h
      · next hmem =>
        cases h
        obtain ⟨hvalue, rest, heq⟩ := exists_takeWhile_ne hmem
        exact ⟨hvalue, rest, congrArg (.char '\'' :: ·) heq, by simp [EndsBefore]⟩
      · cases h
    · obtain ⟨w, hw, heq⟩ := Option.map_eq_some_iff.1 h
      cases heq
      obtain ⟨hne, hbare, rest, rfl, hend⟩ := bareValue?_eq_some_iff.1 hw
      exact ⟨⟨hne, hbare⟩, rest, rfl, fun _ => hend⟩
  · rintro ⟨hvalue, rest, rfl, hend⟩
    cases quote with
    | double =>
      have hmem : .char '"' ∈ value ++ .char '"' :: rest := by simp
      have hread := congrArg (fun w => some (Quote.double, w)) (takeWhile_ne hvalue rest)
      exact (if_pos hmem).trans hread
    | single =>
      have hmem : .char '\'' ∈ value ++ .char '\'' :: rest := by simp
      have hread := congrArg (fun w => some (Quote.single, w)) (takeWhile_ne hvalue rest)
      exact (if_pos hmem).trans hread
    | bare =>
      obtain ⟨hne, hbare⟩ := hvalue
      have hread := bareValue?_eq_some_iff.2 ⟨hne, hbare, rest, rfl, hend rfl⟩
      obtain ⟨c, w, rfl⟩ := List.exists_cons_of_ne_nil hne
      have hc := (isBareChar_eq_true_iff.1 (hbare c List.mem_cons_self)).2
      change readValue? (c :: (w ++ rest)) = _
      unfold readValue?
      split
      · next heq => cases heq; exact absurd (by decide) hc
      · next heq => cases heq; exact absurd (by decide) hc
      · exact congrArg (Option.map _) hread

/-! ## Attributes -/

/-- An attribute whose parts are what they are called: a name, blanks and a value. -/
structure IsWritten (a : Attribute) : Prop where
  name : isAttributeName a.name = true
  gapBefore : ∀ c ∈ a.gapBefore, isBlank c = true
  gapAfter : ∀ c ∈ a.gapAfter, isBlank c = true
  value : a.quote.encloses a.value

variable {a : Attribute} {t : Text}

theorem text_append (a : Attribute) (rest : Text) : a.text ++ rest =
    a.name ++ (a.gapBefore ++ .char '=' :: (a.gapAfter ++
      (a.quote.mark ++ (a.value ++ (a.quote.mark ++ rest))))) := by
  simp [text, opening]

theorem startsOutside_isBlank_of_encloses {quote : Quote} {value : Text} (h : quote.encloses value)
    (rest : Text) : StartsOutside isBlank (quote.mark ++ (value ++ rest)) := by
  cases quote with
  | double => exact startsOutside_cons.2 (by decide)
  | single => exact startsOutside_cons.2 (by decide)
  | bare =>
    obtain ⟨c, w, rfl⟩ := List.exists_cons_of_ne_nil h.1
    exact startsOutside_cons.2 (isBareChar_eq_true_iff.1 (h.2 c List.mem_cons_self)).1

/-- The name ends in front of the blanks and the equals sign. -/
theorem startsOutside_isNameChar_sign (ha : a.IsWritten) (rest : Text) :
    StartsOutside isNameChar (a.gapBefore ++ .char '=' :: rest) := by
  cases hgap : a.gapBefore with
  | nil => exact startsOutside_cons.2 (by decide)
  | cons c gap =>
    exact startsOutside_cons.2 (isNameChar_eq_false_of_isBlank (ha.gapBefore c (by simp [hgap])))

/-- An attribute is read where its written form stands and its value ends. -/
theorem read?_eq_some_iff : read? t = some a ↔
    a.IsWritten ∧ ∃ rest, t = a.text ++ rest ∧ EndsBefore a.quote a.value rest := by
  constructor
  · intro h
    rw [read?] at h
    split at h
    · cases h
    · next hname =>
      rcases leadingName_spec t with hnil | ⟨hisName, rest, heq, -⟩
      · rw [hnil] at hname
        exact absurd rfl hname
      · have hdrop : t.drop (leadingName t).length = rest :=
          (congrArg (List.drop _) heq).trans List.drop_left
        simp only [hdrop] at h
        split at h
        · next afterSign hsign =>
          obtain ⟨⟨quote, value⟩, hvalue, ha⟩ := Option.map_eq_some_iff.1 h
          obtain ⟨hencloses, tail, htail, hend⟩ := readValue?_eq_some_iff.1 hvalue
          subst ha
          refine ⟨⟨hisName, forall_mem_takeWhile, forall_mem_takeWhile, hencloses⟩, tail, ?_, hend⟩
          rw [text_append]
          change t = leadingName t ++ (rest.takeWhile isBlank ++ .char '=' ::
            (afterSign.takeWhile isBlank ++ (quote.mark ++ (value ++ (quote.mark ++ tail)))))
          rw [← htail, List.takeWhile_append_dropWhile, ← hsign, List.takeWhile_append_dropWhile]
          exact heq
        · cases h
  · rintro ⟨hw, rest, rfl, hend⟩
    obtain ⟨name, gapBefore, gapAfter, quote, value⟩ := a
    have hne : name.isEmpty = false := by
      have := hw.name
      cases name <;> simp_all [isAttributeName]
    have hsign : StartsOutside isNameChar (gapBefore ++ .char '=' :: (gapAfter ++
        (quote.mark ++ (value ++ (quote.mark ++ rest))))) := startsOutside_isNameChar_sign hw _
    have hequals : StartsOutside isBlank (.char '=' :: (gapAfter ++
        (quote.mark ++ (value ++ (quote.mark ++ rest))))) := startsOutside_cons.2 (by decide)
    have hvalue := startsOutside_isBlank_of_encloses hw.value (quote.mark ++ rest)
    have hread : readValue? (quote.mark ++ (value ++ (quote.mark ++ rest))) = some (quote, value) :=
      readValue?_eq_some_iff.2 ⟨hw.value, rest, rfl, hend⟩
    rw [text_append]
    simp only [read?, leadingName_append hw.name hsign, hne, Bool.false_eq_true, if_false,
      List.drop_left, dropWhile_append_of_startsOutside hw.gapBefore hequals,
      takeWhile_append_of_startsOutside hw.gapBefore hequals,
      dropWhile_append_of_startsOutside hw.gapAfter hvalue,
      takeWhile_append_of_startsOutside hw.gapAfter hvalue, hread, Option.map_some]

end Attribute
end MarkupNaming.Markup
