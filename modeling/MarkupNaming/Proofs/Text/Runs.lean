import MarkupNaming.Text.Blank

/-!
# Runs

Splitting a text where a run of characters of one class ends. What was put together from a run
and a text outside of the class is taken apart again. Trimming and words are the two cases in
use: a trimmed text is the text less a run of blanks, and a blank parts the words before it from
the words after it. Joining puts texts together and adds nothing but separators.
-/
namespace MarkupNaming.Text
variable {p : Code → Bool} {t u : Text}

/-- A text that is empty or starts with a character outside of a class. -/
def StartsOutside (p : Code → Bool) (t : Text) : Prop := ∀ c ∈ t.head?, p c = false

@[simp] theorem startsOutside_nil : StartsOutside p [] := by simp [StartsOutside]

@[simp] theorem startsOutside_cons {c : Code} : StartsOutside p (c :: t) ↔ p c = false := by
  simp [StartsOutside]

theorem startsOutside_append (ht : t ≠ []) : StartsOutside p (t ++ u) ↔ StartsOutside p t := by
  cases t with
  | nil => exact absurd rfl ht
  | cons c t => simp

theorem startsOutside_dropWhile : StartsOutside p (t.dropWhile p) := by
  intro c hc
  have := List.head?_dropWhile_not p t
  rw [Option.mem_def.1 hc] at this
  simpa using this

/-- A run does not reach into a text outside of its class. -/
theorem takeWhile_append (t : Text) (hu : StartsOutside p u) :
    (t ++ u).takeWhile p = t.takeWhile p := by
  induction t with
  | nil =>
    cases u with
    | nil => rfl
    | cons c u => rw [List.nil_append, List.takeWhile_cons, startsOutside_cons.1 hu]; rfl
  | cons c t ih => rw [List.cons_append, List.takeWhile_cons, List.takeWhile_cons, ih]

theorem dropWhile_append (t : Text) (hu : StartsOutside p u) :
    (t ++ u).dropWhile p = t.dropWhile p ++ u := by
  induction t with
  | nil =>
    cases u with
    | nil => rfl
    | cons c u => rw [List.nil_append, List.dropWhile_cons, startsOutside_cons.1 hu]; rfl
  | cons c t ih =>
    rw [List.cons_append, List.dropWhile_cons, List.dropWhile_cons, ih]
    split <;> rfl

theorem takeWhile_append_of_startsOutside (ht : ∀ c ∈ t, p c = true) (hu : StartsOutside p u) :
    (t ++ u).takeWhile p = t := by
  have hrun : u.takeWhile p = [] := takeWhile_append [] hu
  rw [List.takeWhile_append_of_pos ht, hrun, List.append_nil]

theorem dropWhile_append_of_startsOutside (ht : ∀ c ∈ t, p c = true) (hu : StartsOutside p u) :
    (t ++ u).dropWhile p = u := by
  rw [List.dropWhile_append_of_pos ht]
  exact dropWhile_append [] hu

theorem dropWhile_of_forall (ht : ∀ c ∈ t, p c = true) : t.dropWhile p = [] := by
  have h := dropWhile_append_of_startsOutside ht startsOutside_nil
  rwa [List.append_nil] at h

theorem forall_mem_takeWhile : ∀ c ∈ t.takeWhile p, p c = true :=
  List.all_eq_true.1 List.all_takeWhile

/-! ## Trimming -/

/-- What trimming takes from the end of a text is a run of blanks. -/
theorem exists_trimEnd_append (t : Text) :
    ∃ gap, (∀ c ∈ gap, isBlank c = true) ∧ t = trimEnd t ++ gap := by
  refine ⟨(t.reverse.takeWhile isBlank).reverse, ?_, ?_⟩
  · intro c hc
    exact forall_mem_takeWhile c (List.mem_reverse.1 hc)
  · rw [trimEnd, ← List.reverse_append, List.takeWhile_append_dropWhile, List.reverse_reverse]

/-- Only what follows the last character that is no blank is trimmed. -/
theorem trimEnd_append (t u : Text) :
    trimEnd (t ++ u) = if trimEnd u = [] then trimEnd t else t ++ trimEnd u := by
  simp only [trimEnd, List.reverse_append, List.dropWhile_append, List.reverse_eq_nil_iff,
    List.isEmpty_iff]
  split <;> simp

theorem trimEnd_of_blanks (h : ∀ c ∈ t, isBlank c = true) : trimEnd t = [] := by
  rw [trimEnd, dropWhile_of_forall fun c hc => h c (List.mem_reverse.1 hc), List.reverse_nil]

theorem trimEnd_eq_self (h : ∀ c ∈ t.getLast?, isBlank c = false) : trimEnd t = t := by
  cases hr : t.reverse with
  | nil => simp [trimEnd, List.reverse_eq_nil_iff.1 hr]
  | cons c rest =>
      have hc : isBlank c = false := by
        refine h c ?_
        rw [Option.mem_def, List.getLast?_eq_head?_reverse, hr, List.head?_cons]
      rw [trimEnd, hr, List.dropWhile_cons, hc]
      simp only [Bool.false_eq_true, if_false]
      rw [← hr, List.reverse_reverse]

theorem isBlank_of_getLast?_trimEnd {c : Code} (h : (trimEnd t).getLast? = some c) :
    isBlank c = false := by
  rw [trimEnd, List.getLast?_reverse] at h
  exact startsOutside_dropWhile c h

theorem length_trimEnd_le (t : Text) : (trimEnd t).length ≤ t.length := by
  obtain ⟨u, -, heq⟩ := exists_trimEnd_append t
  have hlength := congrArg List.length heq
  rw [List.length_append] at hlength
  omega

theorem length_trimEnd_eq_iff :
    (trimEnd t).length = t.length ↔ ∀ c ∈ t.getLast?, isBlank c = false := by
  constructor
  · intro h
    obtain ⟨u, -, heq⟩ := exists_trimEnd_append t
    have hu : u = [] := by
      have hlength := congrArg List.length heq
      rw [List.length_append] at hlength
      exact List.length_eq_zero_iff.1 (by omega)
    rw [hu, List.append_nil] at heq
    rw [heq]
    exact fun c hc => isBlank_of_getLast?_trimEnd hc
  · intro h
    rw [trimEnd_eq_self h]

theorem length_trimEnd_append_eq_iff (hu : ∀ c ∈ u, isBlank c = true) :
    (trimEnd (t ++ u)).length = t.length ↔ ∀ c ∈ t.getLast?, isBlank c = false := by
  rw [trimEnd_append, if_pos (trimEnd_of_blanks hu), length_trimEnd_eq_iff]

/-- What trimming takes from the two ends of a text are runs of blanks. -/
theorem exists_trim_append (t : Text) :
    ∃ front back, (∀ c ∈ front, isBlank c = true) ∧ (∀ c ∈ back, isBlank c = true) ∧
      t = front ++ (trim t ++ back) := by
  obtain ⟨back, hback, hend⟩ := exists_trimEnd_append (trimStart t)
  have hstart : t = t.takeWhile isBlank ++ trimStart t := List.takeWhile_append_dropWhile.symm
  exact ⟨t.takeWhile isBlank, back, forall_mem_takeWhile, hback, by rw [trim, ← hend, ← hstart]⟩

theorem startsOutside_trim : StartsOutside isBlank (trim t) := by
  by_cases hnil : trim t = []
  · rw [hnil]
    exact startsOutside_nil
  · obtain ⟨gap, -, heq⟩ := exists_trimEnd_append (trimStart t)
    have hstart : StartsOutside isBlank (trimStart t) := startsOutside_dropWhile
    rw [heq] at hstart
    exact (startsOutside_append hnil).1 hstart

/-- A text is blank if what is left of it by trimming is. -/
theorem forall_mem_trim : (∀ c ∈ trim t, isBlank c = true) ↔ ∀ c ∈ t, isBlank c = true := by
  obtain ⟨front, back, hfront, hback, heq⟩ := exists_trim_append t
  constructor
  · intro h
    rw [heq, List.forall_mem_append, List.forall_mem_append]
    exact ⟨hfront, h, hback⟩
  · intro h
    rw [heq, List.forall_mem_append, List.forall_mem_append] at h
    exact h.2.1

theorem trim_eq_nil_iff : trim t = [] ↔ ∀ c ∈ t, isBlank c = true := by
  refine ⟨fun h => forall_mem_trim.1 (h ▸ List.forall_mem_nil _), fun h => ?_⟩
  have hstart : trimStart t = [] := dropWhile_of_forall h
  rw [trim, hstart]
  rfl

theorem trim_trim_eq_nil_iff : trim (trim t) = [] ↔ trim t = [] := by
  rw [trim_eq_nil_iff, trim_eq_nil_iff, forall_mem_trim]

/-! ## Words -/

theorem flush_append (w : Text) (ws vs : List Text) : flush w (ws ++ vs) = flush w ws ++ vs := by
  cases w <;> rfl

theorem leadingWord_append_blank {b : Code} (hb : isBlank b = true) (t u : Text) :
    leadingWord (t ++ b :: u) = ((leadingWord t).1, (leadingWord t).2 ++ words u) := by
  induction t with
  | nil => simp [leadingWord, hb, words]
  | cons c t ih =>
      rw [List.cons_append, leadingWord, leadingWord, ih]
      cases isBlank c <;> simp [flush_append]

/-- A blank parts the words before it from the words after it. -/
theorem words_append_blank {b : Code} (hb : isBlank b = true) (t u : Text) :
    words (t ++ b :: u) = words t ++ words u := by
  rw [words, leadingWord_append_blank hb, flush_append]
  rfl

theorem words_of_blanks (ht : ∀ c ∈ t, isBlank c = true) : words t = [] := by
  induction t with
  | nil => rfl
  | cons b t ih =>
    rw [words_cons_blank (ht b List.mem_cons_self)]
    exact ih fun c hc => ht c (List.mem_cons_of_mem _ hc)

@[simp] theorem words_trimEnd (t : Text) : words (trimEnd t) = words t := by
  obtain ⟨gap, hgap, heq⟩ := exists_trimEnd_append t
  suffices h : words (trimEnd t ++ gap) = words (trimEnd t) by rw [← h, ← heq]
  cases gap with
  | nil => rw [List.append_nil]
  | cons b gap =>
    rw [words_append_blank (hgap b List.mem_cons_self),
      words_of_blanks fun c hc => hgap c (List.mem_cons_of_mem _ hc), List.append_nil]

theorem leadingWord_of_solid (ht : ∀ c ∈ t, isBlank c = false) : leadingWord t = (t, []) := by
  induction t with
  | nil => rfl
  | cons c t ih =>
      rw [leadingWord, ih fun d hd => ht d (List.mem_cons_of_mem _ hd), ht c List.mem_cons_self]
      rfl

/-- A text without blanks is one word. -/
theorem words_of_solid (hne : t ≠ []) (ht : ∀ c ∈ t, isBlank c = false) : words t = [t] := by
  rw [words, leadingWord_of_solid ht]
  cases t with
  | nil => exact absurd rfl hne
  | cons c t => rfl

theorem mem_of_mem_flush {w u : Text} {ws : List Text} (h : u ∈ flush w ws) : u = w ∨ u ∈ ws := by
  cases w with
  | nil => exact .inr h
  | cons c w => exact List.mem_cons.1 h

/-- The characters of the words of a text are its characters other than blanks. -/
theorem of_mem_leadingWord (t : Text) :
    ∀ w, w = (leadingWord t).1 ∨ w ∈ (leadingWord t).2 → ∀ c ∈ w, c ∈ t ∧ isBlank c = false := by
  induction t with
  | nil => simp [leadingWord]
  | cons d t ih =>
    intro w hw c hc
    rw [leadingWord] at hw
    cases hd : isBlank d with
    | true =>
      simp only [hd, if_true] at hw
      rcases hw with rfl | hw
      · cases hc
      · exact (ih w (mem_of_mem_flush hw) c hc).imp_left (List.mem_cons_of_mem d)
    | false =>
      simp only [hd, Bool.false_eq_true, if_false] at hw
      rcases hw with rfl | hw
      · rcases List.mem_cons.1 hc with rfl | hc
        · exact ⟨List.mem_cons_self, hd⟩
        · exact (ih _ (.inl rfl) c hc).imp_left (List.mem_cons_of_mem d)
      · exact (ih w (.inr hw) c hc).imp_left (List.mem_cons_of_mem d)

/-- There is no blank in a word. -/
theorem isBlank_eq_false_of_mem_words {w : Text} (h : w ∈ words t) {c : Code} (hc : c ∈ w) :
    isBlank c = false :=
  (of_mem_leadingWord t w (mem_of_mem_flush h) c hc).2

theorem mem_of_mem_words {w : Text} (h : w ∈ words t) {c : Code} (hc : c ∈ w) : c ∈ t :=
  (of_mem_leadingWord t w (mem_of_mem_flush h) c hc).1

/-! ## Joining -/

section Join
variable {separator : Text} {parts : List Text}

@[simp] theorem join_nil : join separator [] = [] := rfl

@[simp] theorem join_singleton : join separator [t] = t := by
  simp [join, List.intercalate]

@[simp] theorem join_cons_cons : join separator (t :: u :: parts) =
    t ++ (separator ++ join separator (u :: parts)) := by
  simp [join, List.intercalate]

theorem mem_join {c : Code} (h : c ∈ join separator parts) :
    c ∈ separator ∨ ∃ part ∈ parts, c ∈ part := by
  induction parts with
  | nil => simp at h
  | cons t parts ih =>
    cases parts with
    | nil => exact .inr ⟨t, by simp, by simpa using h⟩
    | cons u parts =>
      rw [join_cons_cons, List.mem_append, List.mem_append] at h
      rcases h with h | h | h
      · exact .inr ⟨t, by simp, h⟩
      · exact .inl h
      · rcases ih h with h | ⟨part, hpart, hc⟩
        · exact .inl h
        · exact .inr ⟨part, List.mem_cons_of_mem _ hpart, hc⟩

theorem mem_join_of_mem {c : Code} (h : t ∈ parts) (hc : c ∈ t) : c ∈ join separator parts := by
  induction parts with
  | nil => cases h
  | cons u parts ih =>
    cases parts with
    | nil =>
      obtain rfl : t = u := by simpa using h
      simpa using hc
    | cons v parts =>
      rw [join_cons_cons, List.mem_append, List.mem_append]
      rcases List.mem_cons.1 h with rfl | h
      · exact .inl hc
      · exact .inr (.inr (ih h))

/-- Outside of separators, joined texts have the characters of their parts. -/
theorem mem_join_iff {c : Code} (hc : c ∉ separator) :
    c ∈ join separator parts ↔ ∃ part ∈ parts, c ∈ part :=
  ⟨fun h => (mem_join h).resolve_left hc, fun ⟨_, hpart, h⟩ => mem_join_of_mem hpart h⟩

theorem join_ne_nil (h : t ∈ parts) (ht : t ≠ []) : join separator parts ≠ [] := by
  induction parts with
  | nil => cases h
  | cons u parts ih =>
    cases parts with
    | nil =>
      obtain rfl : t = u := by simpa using h
      simpa using ht
    | cons v parts =>
      rw [join_cons_cons]
      rcases List.mem_cons.1 h with rfl | h
      · simp [ht]
      · simp [ih h]

theorem join_concat (h : parts ≠ []) (t : Text) :
    join separator (parts ++ [t]) = join separator parts ++ (separator ++ t) := by
  induction parts with
  | nil => exact absurd rfl h
  | cons u parts ih =>
    cases parts with
    | nil => simp
    | cons v parts =>
      rw [List.cons_append, List.cons_append, join_cons_cons, ← List.cons_append,
        ih (List.cons_ne_nil v parts), join_cons_cons]
      simp

theorem prefix_join (separator t : Text) (parts : List Text) :
    t <+: join separator (t :: parts) := by
  cases parts with
  | nil => simp
  | cons u parts =>
    rw [join_cons_cons]
    exact List.prefix_append _ _

theorem suffix_join (separator t : Text) (parts : List Text) :
    t <:+ join separator (parts ++ [t]) := by
  cases parts with
  | nil => simp
  | cons u parts =>
    rw [join_concat (List.cons_ne_nil u parts), ← List.append_assoc]
    exact List.suffix_append _ _

end Join

end MarkupNaming.Text
