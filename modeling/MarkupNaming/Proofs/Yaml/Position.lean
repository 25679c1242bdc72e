import MarkupNaming.Proofs.Text.Runs
import MarkupNaming.Yaml.Source

/-!
# Reading positions

Where a position is behind some characters: on the same line as long as they break none and have
a width, and otherwise on a later one, in the column that the spaces behind the break give.
-/
namespace MarkupNaming.Yaml
open Text

/-- A character that breaks no line and has a width. -/
def isInline (c : Code) : Bool := !isBreak c && c != '\uFEFF'

theorem isInline_iff {c : Code} : isInline c = true ↔ isBreak c = false ∧ c ≠ '\uFEFF' := by
  simp [isInline]

namespace Source
variable {s : Source} {c : Code} {t w : Text} {k m n : Nat}

/-! ## One character -/

theorem next_of_inline (h : s.rest = c :: t) (hc : isInline c = true) : s.next = ⟨s.right, t⟩ := by
  obtain ⟨hbreak, hmark⟩ := isInline_iff.1 hc
  simp [next, h, hbreak, hmark]

theorem next_of_break (h : s.rest = c :: t) (hc : isBreak c = true) (hreturn : c ≠ '\r') :
    s.next = ⟨⟨s.index + 1, s.line + 1, 0⟩, t⟩ := by
  simp [next, h, hc, hreturn]

@[simp] theorem rest_next (s : Source) : s.next.rest = s.rest.tail := by
  unfold next
  split
  · next h => simp [h]
  · next h =>
    rw [h]
    split
    · rfl
    · split <;> rfl

theorem line_le_next (s : Source) : s.line ≤ s.next.line := by
  unfold next
  split
  · exact Nat.le_refl _
  · split
    · exact Nat.le_succ _
    · split <;> exact Nat.le_refl _

/-! ## Several characters -/

theorem skip_succ (s : Source) (n : Nat) : s.skip (n + 1) = s.next.skip n := rfl

@[simp] theorem skip_zero (s : Source) : s.skip 0 = s := rfl

@[simp] theorem rest_skip (s : Source) (n : Nat) : (s.skip n).rest = s.rest.drop n := by
  induction n generalizing s with
  | zero => rfl
  | succ n ih => rw [skip_succ, ih, rest_next, List.drop_tail]

theorem skip_add (s : Source) (m n : Nat) : s.skip (m + n) = (s.skip m).skip n := by
  induction m generalizing s with
  | zero => rw [Nat.zero_add, skip_zero]
  | succ m ih => rw [Nat.succ_add, skip_succ, skip_succ, ih]

theorem line_le_skip (s : Source) (n : Nat) : s.line ≤ (s.skip n).line := by
  induction n generalizing s with
  | zero => exact Nat.le_refl _
  | succ n ih => exact Nat.le_trans s.line_le_next (ih s.next)

theorem rest_skip_append (h : s.rest = w ++ t) : (s.skip w.length).rest = t := by
  rw [rest_skip, h, List.drop_left]

/-- A position behind characters of a line is on the same line. -/
theorem skip_inline (h : s.rest = w ++ t) (hw : ∀ c ∈ w, isInline c = true) :
    s.skip w.length = ⟨⟨s.index + w.length, s.line, s.column + w.length⟩, t⟩ := by
  induction w generalizing s with
  | nil =>
    obtain ⟨⟨index, line, column⟩, rest⟩ := s
    obtain rfl : rest = t := h
    rfl
  | cons c w ih =>
    have hnext := next_of_inline h (hw c List.mem_cons_self)
    have hrest : s.next.rest = w ++ t := by
      rw [hnext]
      rfl
    rw [List.length_cons, skip_succ, ih hrest fun d hd => hw d (List.mem_cons_of_mem _ hd), hnext]
    simp [Mark.right, Nat.add_comm, Nat.add_left_comm]

theorem isInline_of_mem_replicate (h : c ∈ List.replicate k (Code.char ' ')) :
    isInline c = true := by
  rw [(List.mem_replicate.1 h).2]
  decide

theorem skip_spaces (h : s.rest = List.replicate k (Code.char ' ') ++ t) :
    s.skip k = ⟨⟨s.index + k, s.line, s.column + k⟩, t⟩ := by
  have := skip_inline h fun c => isInline_of_mem_replicate
  rwa [List.length_replicate] at this

/-- A position behind a word and spaces is on the same line. -/
theorem skip_word (h : s.rest = w ++ (List.replicate k (Code.char ' ') ++ t))
    (hw : ∀ c ∈ w, isInline c = true) : s.skip (w.length + k) =
      ⟨⟨s.index + w.length + k, s.line, s.column + w.length + k⟩, t⟩ := by
  have hword := skip_inline h hw
  rw [skip_add, skip_spaces (congrArg Source.rest hword), hword]

/-- A position behind a line break and spaces is in their column. -/
theorem skip_line (h : s.rest = w ++ .char '\n' :: (List.replicate k (Code.char ' ') ++ t)) :
    (s.skip (w.length + (k + 1))).rest = t ∧ (s.skip (w.length + (k + 1))).column = k ∧
      s.line < (s.skip (w.length + (k + 1))).line := by
  have hbreak := next_of_break (rest_skip_append h) (by decide) (by decide)
  have hspaces := skip_spaces (congrArg Source.rest hbreak)
  rw [skip_add, Nat.add_comm k 1, Nat.add_comm 1 k, skip_succ, hspaces, hbreak]
  have hle := s.line_le_skip w.length
  exact ⟨rfl, by simp, by simpa using Nat.lt_succ_of_le hle⟩

/-! ## Spaces -/

theorem takeWhile_spaces (h : s.rest = List.replicate n (Code.char ' ') ++ t)
    (ht : t.head? ≠ some (.char ' ')) :
    s.rest.takeWhile (· == .char ' ') = List.replicate n (Code.char ' ') := by
  rw [h]
  refine takeWhile_append_of_startsOutside (by simp) fun c hc => ?_
  have : c ≠ ' ' := by
    rintro rfl
    exact ht hc
  simpa using this

theorem skipSpaces_eq (h : s.rest = List.replicate n (Code.char ' ') ++ t)
    (ht : t.head? ≠ some (.char ' ')) :
    s.skipSpaces = s.skip n := by
  rw [skipSpaces, skipWhile, takeWhile_spaces h ht, List.length_replicate]

/-! ## Line breaks -/

theorem lineBreak?_of_not_break (h : ∀ c ∈ s.rest.head?, isBreak c = false) :
    s.lineBreak? = none := by
  unfold lineBreak?
  split
  · next hrest =>
    rw [hrest] at h
    exact absurd (h '\r' rfl) (by decide)
  · next c rest _ hrest =>
    rw [hrest] at h
    have hc := h c rfl
    simp only [isBreak, Bool.or_eq_false_iff] at hc
    simp [hc]
  · rfl

theorem lineBreak?_lineFeed (h : s.rest = .char '\n' :: t) :
    s.lineBreak? = some ([.char '\n'], s.next) := by
  simp [lineBreak?, h]

theorem atSeparator_of_head (h : ∀ c ∈ s.rest.head?, c ≠ '-' ∧ c ≠ '.') :
    s.atSeparator = false := by
  unfold atSeparator
  split
  · next hrest =>
    rw [hrest] at h
    exact absurd rfl (h '-' rfl).1
  · next hrest =>
    rw [hrest] at h
    exact absurd rfl (h '.' rfl).2
  · rfl

end Source
end MarkupNaming.Yaml
