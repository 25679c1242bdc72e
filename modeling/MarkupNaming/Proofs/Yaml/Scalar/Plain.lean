import MarkupNaming.Proofs.Yaml.Position
import MarkupNaming.Proofs.Yaml.Scalar.Folding
import MarkupNaming.Yaml.Scalar.Plain

/-!
# Reading plain scalars

A text that can stand without quotes is a sequence of words with spaces between them. It is read
as it was, be it on one line or on several, and reading it ends at the start of the next line.
-/
namespace MarkupNaming.Yaml
open Text Written

/-! ## Words -/

/-- A word of a plain scalar: it holds no gap, does not start a comment and does not end in a
colon. -/
structure IsPlainWord (w : Text) : Prop where
  ne_nil : w ≠ []
  inline : ∀ c ∈ w, isGap c = false ∧ c ≠ '\uFEFF'
  head : w.head? ≠ some (.char '#')
  last : w.getLast? ≠ some (.char ':')

/-- Words with spaces between them. -/
inductive PlainWords : Text → Prop
  | word {w : Text} (hw : IsPlainWord w) : PlainWords w
  | cons {w rest : Text} {n : Nat} (hw : IsPlainWord w) (hpos : 0 < n) (hrest : PlainWords rest) :
    PlainWords (w ++ (List.replicate n (Code.char ' ') ++ rest))

theorem isInline_of_not_gap {c : Code} (h : isGap c = false) (hmark : c ≠ '\uFEFF') :
    isInline c = true := isInline_iff.2 ⟨(isGap_eq_false_iff.1 h).2.2, hmark⟩

theorem isBreak_of_isWrittenBreak {c : Code} (h : Style.isWrittenBreak c = true) :
    isBreak c = true := by
  simp only [Style.isWrittenBreak, Bool.or_eq_true, beq_iff_eq] at h
  rcases h with ((rfl | rfl) | rfl) | rfl <;> decide

theorem kind_of_not_gap {c : Code} (h : isGap c = false) : Kind.of c = .other := by
  obtain ⟨hspace, -, hbreak⟩ := isGap_eq_false_iff.1 h
  refine kind_eq_other_iff.2 ⟨hspace, ?_⟩
  cases hwritten : Style.isWrittenBreak c with
  | false => rfl
  | true =>
    rw [isBreak_of_isWrittenBreak hwritten] at hbreak
    cases hbreak

namespace IsPlainWord
variable {w : Text}

theorem isInline (h : IsPlainWord w) : ∀ c ∈ w, isInline c = true := fun c hc =>
  isInline_of_not_gap (h.inline c hc).1 (h.inline c hc).2

theorem kind (h : IsPlainWord w) : ∀ c ∈ w, Kind.of c = .other := fun c hc =>
  kind_of_not_gap (h.inline c hc).1

theorem exists_cons (h : IsPlainWord w) : ∃ c rest, w = c :: rest ∧ isGap c = false ∧ c ≠ '#' := by
  obtain ⟨c, rest, rfl⟩ := List.exists_cons_of_ne_nil h.ne_nil
  refine ⟨c, rest, rfl, (h.inline c List.mem_cons_self).1, ?_⟩
  rintro rfl
  exact h.head rfl

end IsPlainWord

namespace PlainWords
variable {t : Text}

theorem exists_cons (h : PlainWords t) : ∃ c rest, t = c :: rest ∧ isGap c = false ∧ c ≠ '#' := by
  cases h with
  | word hw => exact hw.exists_cons
  | cons hw hpos hrest =>
    obtain ⟨c, rest, rfl, hc⟩ := hw.exists_cons
    exact ⟨c, _, List.cons_append, hc⟩

theorem runs_word {w : Text} (hw : IsPlainWord w) : runs w = [w] := by
  have := @runs_append _ _ [] hw.ne_nil hw.kind (by simp)
  rwa [List.append_nil, runs_nil] at this

theorem runs_cons {w rest : Text} {n : Nat} (hw : IsPlainWord w) (hpos : 0 < n)
    (hrest : PlainWords rest) : runs (w ++ (List.replicate n (Code.char ' ') ++ rest)) =
      w :: List.replicate n (Code.char ' ') :: runs rest := by
  obtain ⟨c, rest, rfl, hc, -⟩ := hrest.exists_cons
  have hspaces : (List.replicate n (Code.char ' ') ++ c :: rest).head? = some (Code.char ' ') := by
    obtain ⟨n, rfl⟩ : ∃ m, n = m + 1 := ⟨n - 1, by omega⟩
    rfl
  rw [runs_append hw.ne_nil hw.kind, runs_append]
  · simpa using Nat.pos_iff_ne_zero.1 hpos
  · intro d hd
    rw [(List.mem_replicate.1 hd).2]
  · intro d hd
    obtain rfl : c = d := by simpa using hd
    rw [kind_of_not_gap hc]
    decide
  · intro d hd
    rw [hspaces] at hd
    obtain rfl := Option.mem_some.1 hd
    decide

end PlainWords

/-- A word is written as it is. -/
theorem IsPlainWord.folded_runs {w : Text} (hw : IsPlainWord w) (indent column : Nat)
    (first : Bool) : folded indent id column first (runs w) = w := by
  rw [PlainWords.runs_word hw, folded_word hw.ne_nil hw.kind, folded_nil, List.append_nil, id]

/-! ## Gaps -/

/-- Whether a text can stand at the start of a line behind a scalar: there is no gap, no comment
and no mark of a document. -/
def StartsLine (t : Text) : Prop :=
  ∀ c ∈ t.head?, isGap c = false ∧ c ≠ '#' ∧ c ≠ '.' ∧ (c = '-' → t.tail.head? = some (.char ' '))

variable {s : Source} {t after : Text} {k m n indent column : Nat} {first : Bool}

theorem ne_space_of_not_gap (h : ∀ c ∈ t.head?, isGap c = false) : t.head? ≠
    some (.char ' ') := fun hc =>
  absurd (h ' ' hc) (by decide)

theorem atSeparator_of_startsLine (h : s.rest = List.replicate k (Code.char ' ') ++ after)
    (hafter : k = 0 → StartsLine after) : s.atSeparator = false := by
  cases k with
  | zero =>
    have hafter := hafter rfl
    unfold Source.atSeparator
    split
    · next hrest =>
      rw [hrest] at h
      obtain rfl := h.symm
      simpa using (hafter '-' rfl).2.2.2 rfl
    · next hrest =>
      rw [hrest] at h
      obtain rfl := h.symm
      exact absurd rfl (hafter '.' rfl).2.2.1
    · rfl
  | succ k =>
    refine Source.atSeparator_of_head fun c hc => ?_
    rw [h] at hc
    obtain rfl : ' ' = c := by simpa [List.replicate_succ] using hc
    decide

theorem plainBreaks_spaces (h : s.rest = List.replicate k (Code.char ' ') ++ after)
    (hafter : ∀ c ∈ after.head?, isGap c = false) {fuel : Nat} (hfuel : k ≤ fuel) :
    plainBreaks fuel s = (some [], s.skip k) := by
  induction k generalizing s fuel with
  | zero =>
    have hspace : s.rest.head? ≠ some (.char ' ') := h ▸ ne_space_of_not_gap hafter
    have hbreak : s.lineBreak? = none := by
      refine Source.lineBreak?_of_not_break fun c hc => ?_
      rw [h] at hc
      exact (isGap_eq_false_iff.1 (hafter c hc)).2.2
    cases fuel with
    | zero => rfl
    | succ fuel => rw [plainBreaks, if_neg hspace, hbreak, Source.skip_zero]
  | succ k ih =>
    obtain ⟨fuel, rfl⟩ : ∃ f, fuel = f + 1 := ⟨fuel - 1, by omega⟩
    have hspace : s.rest.head? = some (.char ' ') := by
      rw [h]
      rfl
    have hnext : s.next.rest = List.replicate k (Code.char ' ') ++ after := by
      rw [Source.rest_next, h]
      rfl
    rw [plainBreaks, if_pos hspace, ih hnext (by omega), Source.skip_succ]

/-- A line break and the spaces behind it count as one space. -/
theorem plainGap_line (h : s.rest = .char '\n' :: (List.replicate k (Code.char ' ') ++ after))
    (hafter : ∀ c ∈ after.head?, isGap c = false) (hstart : k = 0 → StartsLine after) :
    plainGap s = (some [.char ' '], s.skip (k + 1), true) := by
  have hskip : s.skipSpaces = s := Source.skipSpaces_eq (n := 0) h (by simp)
  have hnext : s.next.rest = List.replicate k (Code.char ' ') ++ after := by
    rw [Source.rest_next, h]
    rfl
  have hle : k ≤ s.next.rest.length := by
    rw [hnext, List.length_append, List.length_replicate]
    exact Nat.le_add_right _ _
  have hbreaks := plainBreaks_spaces hnext hafter hle
  have hseparator := atSeparator_of_startsLine hnext hstart
  unfold plainGap
  simp only [hskip, Source.lineBreak?_lineFeed h, hseparator, hbreaks]
  rfl

/-- Spaces within a line count as they are. -/
theorem plainGap_spaces (h : s.rest = List.replicate n (Code.char ' ') ++ t) (hpos : 0 < n)
    (ht : ∀ c ∈ t.head?, isGap c = false) :
    plainGap s = (some (List.replicate n (Code.char ' ')), s.skip n, false) := by
  have hspaces := Source.takeWhile_spaces h (ne_space_of_not_gap ht)
  have hskip := Source.skipSpaces_eq h (ne_space_of_not_gap ht)
  have hbreak : (s.skip n).lineBreak? = none := by
    refine Source.lineBreak?_of_not_break fun c hc => ?_
    rw [Source.rest_skip, h, List.drop_left' (by simp)] at hc
    exact (isGap_eq_false_iff.1 (ht c hc)).2.2
  have hempty : (List.replicate n (Code.char ' ')).isEmpty = false := by
    simpa using Nat.pos_iff_ne_zero.1 hpos
  unfold plainGap
  simp [hspaces, hskip, hbreak, hempty]

theorem plainGap_of_not_gap (h : ∀ c ∈ s.rest.head?, isGap c = false) :
    plainGap s = (none, s, false) := by
  have hspaces := Source.takeWhile_spaces (n := 0) rfl (ne_space_of_not_gap h)
  have hskip : s.skipSpaces = s := Source.skipSpaces_eq (n := 0) rfl (ne_space_of_not_gap h)
  have hbreak := Source.lineBreak?_of_not_break fun c hc => (isGap_eq_false_iff.1 (h c hc)).2.2
  unfold plainGap
  simp only [hskip, hspaces, hbreak]
  rfl

/-- A word belongs to a scalar as a whole. -/
theorem plainRun_append {w : Text} (hw : ∀ c ∈ w, isGap c = false)
    (hlast : w.getLast? ≠ some (.char ':')) :
    plainRun false (w ++ t) = w ++ plainRun false t := by
  induction w with
  | nil => rfl
  | cons c w ih =>
    have hc := hw c List.mem_cons_self
    have hcolon : (c == ':' && endsAtColon false (w ++ t)) = false := by
      cases w with
      | nil =>
        have : c ≠ ':' := by
          rintro rfl
          exact hlast rfl
        simp [this]
      | cons d w =>
        have hd := hw d (by simp)
        simp [endsAtColon, atGap, hd]
    have hrest := ih (fun d hd => hw d (List.mem_cons_of_mem _ hd)) ?_
    · rw [List.cons_append, plainRun, hc, hcolon, hrest]
      rfl
    · intro h
      cases w with
      | nil => cases h
      | cons d w => exact hlast (by rw [List.getLast?_cons_cons, h])

theorem plainRun_of_atGap (h : atGap t = true) : plainRun false t = [] := by
  cases t with
  | nil => rfl
  | cons c t =>
    have hc : isGap c = true := by simpa [atGap] using h
    simp [plainRun, hc]

theorem plainRun_colon (h : atGap t = true) : plainRun false (.char ':' :: t) = [] := by
  simp [plainRun, endsAtColon, h]

/-! ## Scalars -/

section Words
variable {w gap gap' more : Text} {behind final : Source} {broken ends : Bool} {fuel : Nat}

/-- A word is a scalar of its own in front of a colon. -/
theorem plainRest_key (hw : IsPlainWord w) (hs : s.rest = w ++ .char ':' :: t)
    (ht : atGap t = true) :
    plainRest false m (fuel + 1) gap s broken = (gap ++ w, s.skip w.length, false) := by
  have hrun : plainRun false s.rest = w := by
    rw [hs, plainRun_append (fun c hc => (hw.inline c hc).1) hw.last, plainRun_colon ht,
      List.append_nil]
  have hgap : plainGap (s.skip w.length) = (none, s.skip w.length, false) := by
    refine plainGap_of_not_gap fun c hc => ?_
    rw [Source.rest_skip_append hs] at hc
    obtain rfl : ':' = c := by simpa using hc
    decide
  have hhead : s.rest.head? ≠ some (.char '#') := by
    obtain ⟨c, rest, rfl, -, hc⟩ := hw.exists_cons
    rw [hs]
    simpa using hc
  have hempty : w.isEmpty = false := List.isEmpty_eq_false_iff.2 hw.ne_nil
  rw [plainRest, if_neg hhead, hrun]
  simp only [hempty, hgap]
  rfl

/-- A word behind which a scalar may go on. -/
theorem plainRest_of_some (hw : IsPlainWord w) (hs : s.rest = w ++ t) (ht : atGap t = true)
    (hgap : plainGap (s.skip w.length) = (some gap', behind, ends)) :
    plainRest false m (fuel + 1) gap s broken =
      if behind.rest.head? = some (.char '#') ∨ behind.column < m then (gap ++ w, behind, ends)
      else
        let (more, final, broken) := plainRest false m fuel gap' behind ends
        (gap ++ w ++ more, final, broken) := by
  have hrun : plainRun false s.rest = w := by
    rw [hs, plainRun_append (fun c hc => (hw.inline c hc).1) hw.last, plainRun_of_atGap ht,
      List.append_nil]
  have hhead : s.rest.head? ≠ some (.char '#') := by
    obtain ⟨c, rest, rfl, -, hc⟩ := hw.exists_cons
    rw [hs]
    simpa using hc
  have hempty : w.isEmpty = false := List.isEmpty_eq_false_iff.2 hw.ne_nil
  rw [plainRest, if_neg hhead, hrun]
  simp only [hempty, hgap, Bool.false_eq_true, if_false, Bool.not_false, true_and]

/-- A word behind which a scalar goes on. -/
theorem plainRest_cons (hw : IsPlainWord w) (hs : s.rest = w ++ t) (ht : atGap t = true)
    (hgap : plainGap (s.skip w.length) = (some gap', behind, ends))
    (hcomment : behind.rest.head? ≠ some (.char '#')) (hle : m ≤ behind.column)
    (hmore : plainRest false m fuel gap' behind ends = (more, final, true)) :
    plainRest false m (fuel + 1) gap s broken = (gap ++ (w ++ more), final, true) := by
  rw [plainRest_of_some hw hs ht hgap, if_neg (not_or.2 ⟨hcomment, Nat.not_lt.2 hle⟩), hmore]
  dsimp only
  rw [List.append_assoc]

/-- A word at the end of a line behind which a scalar goes on in the next one. -/
theorem plainRest_line (hw : IsPlainWord w)
    (hs : s.rest = w ++ .char '\n' :: (List.replicate k (Code.char ' ') ++ t))
    (ht : ∀ c ∈ t.head?, isGap c = false ∧ c ≠ '#') (hle : m ≤ k) (hpos : 0 < k)
    (hmore :
      plainRest false m fuel [.char ' '] (s.skip (w.length + (k + 1))) true = (more, final, true)) :
    plainRest false m (fuel + 1) gap s broken = (gap ++ (w ++ more), final, true) := by
  obtain ⟨hrest, hcolumn, -⟩ := Source.skip_line hs
  have hgap := plainGap_line (Source.rest_skip_append hs) (fun c hc => (ht c hc).1) (by omega)
  rw [← Source.skip_add] at hgap
  refine plainRest_cons hw hs (by simp [atGap, isGap, isBreak]) hgap (fun hhead => ?_)
    (by omega) hmore
  rw [hrest] at hhead
  exact (ht '#' hhead).2 rfl

/-- A word with spaces behind it. -/
theorem plainRest_spaces (hw : IsPlainWord w)
    (hs : s.rest = w ++ (List.replicate n (Code.char ' ') ++ t))
    (ht : ∀ c ∈ t.head?, isGap c = false ∧ c ≠ '#') (hpos : 0 < n) (hle : m ≤ s.column)
    (hmore :
      plainRest false m fuel (List.replicate n (Code.char ' ')) (s.skip (w.length + n)) false =
      (more, final, true)) :
    plainRest false m (fuel + 1) gap s broken = (gap ++ (w ++ more), final, true) := by
  have hspaces := Source.skip_word hs hw.isInline
  have hgap := plainGap_spaces (Source.rest_skip_append hs) hpos fun c hc => (ht c hc).1
  rw [← Source.skip_add] at hgap
  refine plainRest_cons hw hs ?_ hgap (fun hhead => ?_) ?_ hmore
  · obtain ⟨n, rfl⟩ : ∃ m, n = m + 1 := ⟨n - 1, by omega⟩
    rfl
  · rw [hspaces] at hhead
    exact (ht '#' hhead).2 rfl
  · rw [hspaces]
    dsimp only
    omega

end Words

/-- Words are written one after the other, the first one in front. -/
theorem PlainWords.exists_folded (h : PlainWords t) (indent column : Nat) (first : Bool) :
    ∃ w rest written, IsPlainWord w ∧ t = w ++ rest ∧
      folded indent id column first (runs t) = w ++ written ∧ Style.standsAlone rest = true := by
  cases h with
  | @word w hw =>
    exact ⟨t, [], [], hw, by simp, by rw [hw.folded_runs, List.append_nil], rfl⟩
  | @cons w rest n hw hn hrest =>
    rw [runs_cons hw hn hrest, folded_word hw.ne_nil hw.kind]
    obtain ⟨n, rfl⟩ : ∃ m, n = m + 1 := ⟨n - 1, by omega⟩
    exact ⟨w, _, _, hw, rfl, rfl, by simp [Style.standsAlone, Style.isAround, isGap,
      List.replicate_succ]⟩

theorem PlainWords.head_folded (h : PlainWords t) : ∀ c ∈
    (folded indent id column first (runs t) ++ after).head?, isGap c = false ∧ c ≠ '#' := by
  intro d hd
  obtain ⟨w, rest, written, hw, -, hwritten, -⟩ := h.exists_folded indent column first
  obtain ⟨c, w, rfl, hc⟩ := hw.exists_cons
  rw [hwritten] at hd
  obtain rfl : c = d := by simpa using hd
  exact hc

/-- Words are read as they are, wherever they are folded, and reading ends at the start of the
next line, which is indented less than they are. -/
theorem plainRest_folded (h : PlainWords t) (hindent : m ≤ indent) (hpos : 0 < m) (hk : k < m)
    (hafter : StartsLine after) {gap : Text} {broken : Bool} {fuel : Nat}
    (hs : s.rest = folded indent id column first (runs t) ++
      .char '\n' :: (List.replicate k (Code.char ' ') ++ after))
    (hcolumn : m ≤ s.column) (hfuel : s.rest.length ≤ fuel) :
    plainRest false m fuel gap s broken =
      (gap ++ t, s.skip ((folded indent id column first (runs t)).length + (k + 1)), true) := by
  induction h generalizing s gap broken fuel column first with
  | @word w hw =>
    rw [hw.folded_runs] at hs ⊢
    obtain ⟨fuel, rfl⟩ : ∃ f, fuel = f + 1 := by
      rw [hs, List.length_append, List.length_cons] at hfuel
      exact ⟨fuel - 1, by omega⟩
    have hline := plainGap_line (Source.rest_skip_append hs) (fun c hc => (hafter c hc).1)
      fun _ => hafter
    rw [← Source.skip_add] at hline
    have hlt : (s.skip (w.length + (k + 1))).column < m := by
      rwa [(Source.skip_line hs).2.1]
    rw [plainRest_of_some hw hs (by simp [atGap, isGap, isBreak]) hline]
    exact if_pos (.inr hlt)
  | @cons w rest n hw hn hrest ih =>
    rw [PlainWords.runs_cons hw hn hrest, folded_word hw.ne_nil hw.kind, folded_spaces hn,
      id] at hs ⊢
    obtain ⟨fuel, rfl⟩ : ∃ f, fuel = f + 1 := by
      have := List.length_pos_iff.2 hw.ne_nil
      rw [hs, List.length_append, List.length_append] at hfuel
      exact ⟨fuel - 1, by omega⟩
    have hfuel (j : Nat) (hj : 0 < j) : (s.skip (w.length + j)).rest.length ≤ fuel := by
      rw [Source.rest_skip, List.length_drop]
      omega
    rw [List.append_assoc] at hs
    split at hs
    · next hline =>
      -- The single space behind the word gave way to a new line.
      rw [if_pos hline]
      obtain ⟨rfl, -⟩ := hline
      rw [newLine, List.append_assoc, List.cons_append] at hs
      obtain ⟨hbehind, hcolumn', -⟩ := Source.skip_line hs
      rw [plainRest_line hw hs hrest.head_folded hindent (by omega)
          (ih hbehind (by omega) (hfuel (indent + 1) (by omega))), ← Source.skip_add]
      simp only [newLine, List.length_append, List.length_cons, List.length_replicate,
        Nat.add_assoc, Nat.add_left_comm]
      rfl
    · next hline =>
      rw [if_neg hline]
      rw [List.append_assoc] at hs
      have hspaces := Source.skip_word hs hw.isInline
      have hcolumn' : m ≤ (s.skip (w.length + n)).column := by
        rw [hspaces]
        dsimp only
        omega
      rw [plainRest_spaces hw hs hrest.head_folded hn hcolumn
          (ih (congrArg Source.rest hspaces) hcolumn' (hfuel n hn)), ← Source.skip_add]
      simp only [List.length_append, List.length_replicate, Nat.add_assoc]

/-- Words are read as they are by the scalar that starts with them. -/
theorem readPlain_plain (h : PlainWords t) (hindent : m ≤ indent) (hpos : 0 < m) (hk : k < m)
    (hafter : StartsLine after)
    (hs : s.rest = plain indent column t ++ .char '\n' ::
      (List.replicate k (Code.char ' ') ++ after))
    (hcolumn : m ≤ s.column) : readPlain false m s =
      (t, s.skip ((plain indent column t).length + (k + 1)), true) :=
  plainRest_folded h hindent hpos hk hafter hs hcolumn (Nat.le_refl _)

/-- A word in front of a colon is read as it is. -/
theorem readPlain_key {w : Text} (hw : IsPlainWord w) (hs : s.rest = w ++ .char ':' :: t)
    (ht : atGap t = true) : readPlain false m s = (w, s.skip w.length, false) := by
  obtain ⟨fuel, hfuel⟩ : ∃ f, s.rest.length = f + 1 := by
    rw [hs, List.length_append, List.length_cons]
    exact ⟨_, rfl⟩
  rw [readPlain, hfuel, plainRest_key hw hs ht, List.nil_append]

/-! ## Texts without quotes -/

theorem Style.endsInside_behind {p c : Code} {front : Text}
    (h : endsInside p (front ++ c :: t) = false) :
    endsInside c t = false ∧ (c = ':' → standsAlone t = false) := by
  induction front generalizing p with
  | nil =>
    simp only [List.nil_append, endsInside, Bool.or_eq_false_iff] at h
    refine ⟨h.2, ?_⟩
    rintro rfl
    simpa using h.1.1
  | cons d front ih =>
    simp only [List.cons_append, endsInside, Bool.or_eq_false_iff] at h
    exact ih h.2

theorem isPlainWord_of_isLiteral {w u : Text}
    (hall : ∀ c ∈ w, Style.isLiteral c = true ∧ Style.isWrittenBreak c = false ∧ c ≠ ' ')
    (hne : w ≠ []) (hends : Style.endsInside ' ' (w ++ u) = false)
    (hu : ∀ c ∈ u.head?, c = ' ') : IsPlainWord w where
  ne_nil := hne
  inline c hc := by
    obtain ⟨hliteral, hbreak, hspace⟩ := hall c hc
    refine ⟨isGap_eq_false_of_isLiteral hliteral (kind_eq_other_iff.2 ⟨hspace, hbreak⟩), ?_⟩
    rintro rfl
    exact absurd hliteral (by decide)
  head := by
    intro h
    obtain ⟨w, rfl⟩ := List.head?_eq_some_iff.1 h
    simp [Style.endsInside, Style.isAround, isGap] at hends
  last := by
    intro h
    obtain ⟨front, rfl⟩ := List.getLast?_eq_some_iff.1 h
    rw [List.append_assoc] at hends
    have halone : Style.standsAlone u = false := (Style.endsInside_behind hends).2 rfl
    cases u with
    | nil => cases halone
    | cons c u =>
      obtain rfl := hu c rfl
      exact absurd halone (by simp [Style.standsAlone, Style.isAround, isGap])

/-- A text that neither starts nor ends with a space is one word, or a word, spaces and a shorter
such text. -/
theorem exists_word (hne : t ≠ []) (hhead : t.head? ≠ some (.char ' '))
    (hlast : t.getLast? ≠ some (.char ' ')) :
    (∀ c ∈ t, c ≠ ' ') ∨ ∃ (w : Text) (n : Nat) (rest : Text),
      t = w ++ (List.replicate n (Code.char ' ') ++ rest) ∧ w ≠ [] ∧
      (∀ c ∈ w, c ≠ ' ') ∧ 0 < n ∧ rest ≠ [] ∧ rest.head? ≠ some (.char ' ') ∧
        rest.getLast? ≠ some (.char ' ') := by
  have hsplit : t.takeWhile (· != .char ' ') ++ t.dropWhile (· != .char ' ') = t :=
    List.takeWhile_append_dropWhile
  have hword : ∀ c ∈ t.takeWhile (· != .char ' '), c ≠ ' ' := fun c hc => by
    simpa using forall_mem_takeWhile c hc
  have hgap : ∀ c ∈ (t.dropWhile (· != .char ' ')).head?, c = ' ' := fun c hc => by
    simpa using startsOutside_dropWhile c hc
  generalize t.takeWhile (· != .char ' ') = w at hsplit hword
  generalize t.dropWhile (· != .char ' ') = u at hsplit hgap
  subst hsplit
  cases u with
  | nil => exact .inl fun c hc => hword c (by simpa using hc)
  | cons c u =>
    obtain rfl := hgap c rfl
    have hspaces : u.takeWhile (· == .char ' ') ++ u.dropWhile (· == .char ' ') = u :=
      List.takeWhile_append_dropWhile
    have hrun : u.takeWhile (· == .char ' ') =
        List.replicate (u.takeWhile (· == .char ' ')).length (.char ' ') :=
      List.eq_replicate_iff.2 ⟨rfl, fun c hc => by simpa using forall_mem_takeWhile c hc⟩
    have hrest : ∀ c ∈ (u.dropWhile (· == .char ' ')).head?, c ≠ ' ' := fun c hc => by
      simpa using startsOutside_dropWhile c hc
    generalize (u.takeWhile (· == .char ' ')).length = n at hrun
    rw [hrun] at hspaces
    generalize u.dropWhile (· == .char ' ') = rest at hspaces hrest
    subst hspaces
    have hsucc : .char ' ' :: (List.replicate n (Code.char ' ') ++ rest) =
        List.replicate (n + 1) (Code.char ' ') ++ rest := rfl
    rw [hsucc] at hlast hhead ⊢
    have hrest_ne : rest ≠ [] := by
      rintro rfl
      simp [List.getLast?_replicate] at hlast
    refine .inr ⟨w, n + 1, rest, rfl, ?_, hword, by omega, hrest_ne, ?_, ?_⟩
    · rintro rfl
      exact hhead rfl
    · exact fun h => hrest ' ' h rfl
    · rwa [List.getLast?_append_of_ne_nil _ (by simp),
        List.getLast?_append_of_ne_nil _ hrest_ne] at hlast

/-- A text of literal characters in which no indicator ends a scalar is a sequence of words. -/
theorem plainWords_of_isLiteral {t : Text}
    (hall : ∀ c ∈ t, Style.isLiteral c = true ∧ Style.isWrittenBreak c = false) (hne : t ≠ [])
    (hhead : t.head? ≠ some (.char ' ')) (hlast : t.getLast? ≠ some (.char ' '))
    (hends : Style.endsInside ' ' t = false) : PlainWords t := by
  rcases exists_word hne hhead hlast with
    hword | ⟨w, n, rest, ht, hw, hword, hn, hrest, hrest_head, hrest_last⟩
  · rw [← List.append_nil t] at hends
    exact .word (isPlainWord_of_isLiteral (fun c hc => ⟨(hall c hc).1, (hall c hc).2, hword c hc⟩)
      hne hends (by simp))
  · have hlt : rest.length < t.length := by
      rw [ht, List.length_append, List.length_append, List.length_replicate]
      omega
    obtain ⟨n, rfl⟩ : ∃ m, n = m + 1 := ⟨n - 1, by omega⟩
    rw [ht] at hall hends ⊢
    refine .cons (isPlainWord_of_isLiteral (fun c hc => ?_) hw hends ?_) hn ?_
    · have := hall c (List.mem_append_left _ hc)
      exact ⟨this.1, this.2, hword c hc⟩
    · simp [List.replicate_succ]
    · rw [List.replicate_succ', List.append_assoc, ← List.append_assoc] at hends
      exact plainWords_of_isLiteral
        (fun c hc => hall c (List.mem_append_right _ (List.mem_append_right _ hc)))
        hrest hrest_head hrest_last (Style.endsInside_behind hends).1
termination_by t.length
decreasing_by exact hlt

theorem plainWords_of_allowsPlain (h : Style.allowsPlain t = true) : PlainWords t := by
  cases t with
  | nil => cases h
  | cons c t =>
    simp only [Style.allowsPlain, Style.startsOther, Bool.and_eq_true, Bool.not_eq_true',
      Bool.or_eq_false_iff, List.all_eq_true, bne_iff_ne, ne_eq] at h
    obtain ⟨⟨⟨⟨⟨hstart, hends⟩, hspace⟩, hlast⟩, hall⟩, -⟩ := h
    refine plainWords_of_isLiteral hall (by simp) (by simpa using hspace) hlast ?_
    have hindicator : c ≠ '#' := by
      rintro rfl
      exact absurd hstart.1.1.1 (by decide)
    simp only [Style.endsInside, hends, Bool.or_false, Bool.or_eq_false_iff]
    refine ⟨?_, by simp [hindicator]⟩
    have halone := hstart.1.1.2
    rw [Bool.and_eq_false_iff] at halone ⊢
    refine halone.imp (fun h => ?_) id
    simp only [Bool.or_eq_false_iff] at h
    exact h.1.2

end MarkupNaming.Yaml
