import Mathlib.Data.Nat.Count
import Mathlib.Data.Prod.Lex
import Mathlib.Order.Hom.Set
import MarkupNaming.Position
import MarkupNaming.Proofs.Text.Runs

/-!
# Lines and columns

A line break is a carriage return, a line feed or both together, and it parts two lines. A line
and a column name the offset in front of which as many breaks end as there are lines above, and
as many characters of the line stand as there are columns in front. So the positions of a document
in the order of lines, and of columns in a line, are its offsets in their order, less those between
the two characters of one break.
-/
namespace MarkupNaming
open Text

namespace Text
variable {t rest : Text} {c : Code} {start stop pos i o o' : Nat}

/-! ## Line breaks -/

/-- Whether a character can stand in a line break. -/
def isBreakChar (c : Code) : Bool := c == '\r' || c == '\n'

/-- Whether the character at a place is the last one of a line break. -/
def EndsBreak (t : Text) (i : Nat) : Prop :=
  t[i]? = some (.char '\n') ∨ t[i]? = some (.char '\r') ∧ t[i + 1]? ≠ some (.char '\n')

instance (t : Text) : DecidablePred (EndsBreak t) := fun _ => inferInstanceAs (Decidable (_ ∨ _))

/-- The number of line breaks that end in front of a place. -/
def breaksBefore (t : Text) (o : Nat) : Nat := Nat.count (EndsBreak t) o

/-- The number of characters in front of a place that stand on its line. -/
def columnsBefore (t : Text) (o : Nat) : Nat :=
  ((t.take o).reverse.takeWhile (!isBreakChar ·)).length

/-- Whether a place lies between the two characters of one line break. -/
def SplitsBreak (t : Text) (o : Nat) : Prop :=
  0 < o ∧ t[o - 1]? = some (.char '\r') ∧ t[o]? = some (.char '\n')

/-- Whether a place is one at which a line of the text can be left or entered. -/
structure IsCaret (t : Text) (o : Nat) : Prop where
  le_length : o ≤ t.length
  not_splits : ¬ SplitsBreak t o

theorem isBreakChar_eq_true_iff : isBreakChar c = true ↔ c = '\r' ∨ c = '\n' := by
  simp [isBreakChar]

theorem isBreakChar_eq_false (hreturn : c ≠ '\r') (hfeed : c ≠ '\n') : isBreakChar c = false := by
  rw [Bool.eq_false_iff, Ne, isBreakChar_eq_true_iff]
  exact not_or.2 ⟨hreturn, hfeed⟩

theorem EndsBreak.exists_isBreakChar (h : EndsBreak t i) :
    ∃ c, t[i]? = some c ∧ isBreakChar c = true := by
  rcases h with h | ⟨h, -⟩
  · exact ⟨_, h, by decide⟩
  · exact ⟨_, h, by decide⟩

/-- A break has ended behind each of its characters, unless the place lies inside of it. -/
theorem breaksBefore_lt_of_isBreakChar (hc : t[i]? = some c) (hbreak : isBreakChar c = true)
    (hi : i < o) (ho : ¬ SplitsBreak t o) : breaksBefore t i < breaksBefore t o := by
  by_cases hends : EndsBreak t i
  · exact Nat.count_strict_mono hends hi
  -- The character is a carriage return in front of a line feed, with which the break ends.
  obtain ⟨hreturn, hfeed⟩ : t[i]? = some (.char '\r') ∧ t[i + 1]? = some (.char '\n') := by
    rcases isBreakChar_eq_true_iff.1 hbreak with rfl | rfl
    · exact ⟨hc, not_not.1 fun hne => hends (.inr ⟨hc, hne⟩)⟩
    · exact absurd (.inl hc) hends
  have hlt : i + 1 < o := by
    refine Nat.lt_of_le_of_ne hi ?_
    rintro rfl
    exact ho ⟨Nat.succ_pos i, hreturn, hfeed⟩
  calc breaksBefore t i ≤ breaksBefore t (i + 1) := Nat.count_monotone _ (Nat.le_succ i)
    _ < breaksBefore t o := Nat.count_strict_mono (.inl hfeed) hlt

theorem breaksBefore_succ (hends : EndsBreak t pos) :
    breaksBefore t (pos + 1) = breaksBefore t pos + 1 :=
  Nat.count_succ_eq_succ_count_iff.2 hends

theorem breaksBefore_succ_of_not (hends : ¬ EndsBreak t pos) :
    breaksBefore t (pos + 1) = breaksBefore t pos :=
  Nat.count_succ_eq_count_iff.2 hends

/-! ## What is left of a text -/

theorem getElem?_of_drop (h : t.drop pos = c :: rest) : t[pos]? = some c := by
  have := congrArg (·[0]?) h
  simpa using this

theorem lt_length_of_drop (h : t.drop pos = c :: rest) : pos < t.length :=
  (List.getElem?_eq_some_iff.1 (getElem?_of_drop h)).1

theorem drop_of_drop (h : t.drop pos = c :: rest) : t.drop (pos + 1) = rest := by
  rw [← List.drop_drop, h]
  rfl

theorem exists_drop_eq_cons (h : t[i]? = some c) : ∃ rest, t.drop i = c :: rest := by
  obtain ⟨hi, hc⟩ := List.getElem?_eq_some_iff.1 h
  exact ⟨t.drop (i + 1), hc ▸ List.drop_eq_getElem_cons hi⟩

theorem endsBreak_of_return (h : t.drop pos = .char '\r' :: rest)
    (hne : ∀ rest', rest = .char '\n' :: rest' → False) : EndsBreak t pos := by
  refine .inr ⟨getElem?_of_drop h, fun hfeed => ?_⟩
  obtain ⟨rest', hrest'⟩ := exists_drop_eq_cons hfeed
  exact hne rest' ((drop_of_drop h).symm.trans hrest')

/-- A carriage return and a line feed are one break. -/
theorem breaksBefore_pair (h : t.drop pos = .char '\r' :: .char '\n' :: rest) :
    breaksBefore t (pos + 2) = breaksBefore t pos + 1 := by
  have hfeed := getElem?_of_drop (drop_of_drop h)
  rw [breaksBefore_succ (.inl hfeed), breaksBefore_succ_of_not]
  rintro (hends | ⟨-, hne⟩)
  · cases (getElem?_of_drop h).symm.trans hends
  · exact hne hfeed

/-! ## Beginnings of lines -/

/-- Whether the line of a place begins at `start`: at the start of the text or behind a break,
with no other break up to the place. -/
structure BeginsLine (t : Text) (start o : Nat) : Prop where
  le : start ≤ o
  opens : start = 0 ∨ EndsBreak t (start - 1)
  inner : ∀ i c, start ≤ i → i < o → t[i]? = some c → isBreakChar c = false

theorem beginsLine_self (h : start = 0 ∨ EndsBreak t (start - 1)) : BeginsLine t start start :=
  ⟨Nat.le_refl _, h, fun _ _ hle hlt => by omega⟩

theorem BeginsLine.up_to (h : BeginsLine t start stop) (hle : start ≤ o) (ho : o ≤ stop) :
    BeginsLine t start o :=
  ⟨hle, h.opens, fun i c hi hlt => h.inner i c hi (hlt.trans_le ho)⟩

theorem BeginsLine.succ (h : BeginsLine t start pos) (hc : t[pos]? = some c)
    (hinner : isBreakChar c = false) : BeginsLine t start (pos + 1) := by
  refine ⟨h.le.trans (Nat.le_succ _), h.opens, fun i d hi hlt hd => ?_⟩
  rcases Nat.lt_succ_iff_lt_or_eq.1 hlt with hlt | rfl
  · exact h.inner i d hi hlt hd
  · exact Option.some.inj (hc.symm.trans hd) ▸ hinner

theorem BeginsLine.breaksBefore_eq (h : BeginsLine t start o) :
    breaksBefore t o = breaksBefore t start := by
  obtain ⟨n, rfl⟩ := Nat.exists_eq_add_of_le h.le
  have hnone : Nat.count (fun k => EndsBreak t (start + k)) n = 0 := by
    refine Nat.count_iff_forall_not.2 fun k hk hends => ?_
    obtain ⟨c, hc, hbreak⟩ := hends.exists_isBreakChar
    rw [h.inner (start + k) c (by omega) (by omega) hc] at hbreak
    cases hbreak
  rw [breaksBefore, Nat.count_add, hnone, Nat.add_zero, breaksBefore]

theorem BeginsLine.columnsBefore_eq (h : BeginsLine t start o) (ho : o ≤ t.length) :
    columnsBefore t o = o - start := by
  have hsplit : t.take o = t.take start ++ (t.take o).drop start := by
    conv_lhs => rw [← List.take_append_drop start (t.take o), List.take_take, Nat.min_eq_left h.le]
  have hline : ∀ c ∈ ((t.take o).drop start).reverse, (!isBreakChar c) = true := by
    intro c hc
    obtain ⟨i, hi⟩ := List.mem_iff_getElem?.1 (List.mem_reverse.1 hc)
    rw [List.getElem?_drop, List.getElem?_take, Option.ite_none_right_eq_some] at hi
    rw [h.inner (start + i) c (by omega) hi.1 hi.2]
    rfl
  have habove : StartsOutside (!isBreakChar ·) (t.take start).reverse := by
    intro c hc
    rcases h.opens with rfl | hends
    · simp at hc
    · obtain ⟨d, hd, hbreak⟩ := hends.exists_isBreakChar
      rw [List.head?_reverse, List.getLast?_eq_getElem?, List.length_take,
        Nat.min_eq_left (h.le.trans ho), List.getElem?_take, Option.mem_def,
        Option.ite_none_right_eq_some, hd] at hc
      obtain rfl := Option.some.inj hc.2
      exact congrArg not hbreak
  rw [columnsBefore, hsplit, List.reverse_append,
    takeWhile_append_of_startsOutside hline habove, List.length_reverse, List.length_drop,
    List.length_take, Nat.min_eq_left ho]

/-- A place on a line is no place inside of a break. -/
theorem BeginsLine.not_splits (h : BeginsLine t start o) : ¬ SplitsBreak t o := by
  rintro ⟨hpos, hreturn, hfeed⟩
  rcases Nat.lt_or_eq_of_le h.le with hlt | rfl
  · cases h.inner (o - 1) '\r' (by omega) (by omega) hreturn
  · rcases h.opens with hzero | hends | ⟨-, hne⟩
    · omega
    · cases hreturn.symm.trans hends
    · exact hne (Nat.sub_add_cancel hpos ▸ hfeed)

/-! ## Lines of a document -/

/-- Whether a line reaches from its beginning to the next break, or to the end of the text. -/
structure IsLine (t : Text) (l : Line) : Prop where
  begins : BeginsLine t l.start l.stop
  closes : l.stop = t.length ∨ ∃ c, t[l.stop]? = some c ∧ isBreakChar c = true

theorem IsLine.stop_le {l : Line} (h : IsLine t l) : l.stop ≤ t.length := by
  rcases h.closes with heq | ⟨c, hc, -⟩
  · exact Nat.le_of_eq heq
  · exact Nat.le_of_lt (List.getElem?_eq_some_iff.1 hc).1

/-- A line up to a break, in front of the lines behind the break. -/
theorem isLine_cons {next : Nat} {lines : List Line} (h : BeginsLine t start pos)
    (hc : t[pos]? = some c) (hbreak : isBreakChar c = true)
    (hnext : breaksBefore t next = breaksBefore t pos + 1)
    (hlines : ∀ k l, lines[k]? = some l → IsLine t l ∧
      breaksBefore t l.start = breaksBefore t next + k)
    {k : Nat} {l : Line} (hl : (⟨start, pos⟩ :: lines)[k]? = some l) :
    IsLine t l ∧ breaksBefore t l.start = breaksBefore t start + k := by
  cases k with
  | zero =>
    obtain rfl := Option.some.inj hl
    exact ⟨⟨h, .inr ⟨c, hc, hbreak⟩⟩, rfl⟩
  | succ k =>
    obtain ⟨hline, hcount⟩ := hlines k l hl
    have hstart := h.breaksBefore_eq
    exact ⟨hline, by omega⟩

/-- Each line that is read from a place on is a line of the text, with its number in front. -/
theorem isLine_of_linesFrom (hrest : t.drop pos = rest) (hpos : pos ≤ t.length)
    (h : BeginsLine t start pos) {k : Nat} {l : Line}
    (hl : (linesFrom start pos rest)[k]? = some l) :
    IsLine t l ∧ breaksBefore t l.start = breaksBefore t start + k := by
  fun_induction linesFrom start pos rest generalizing k l with
  | case1 start pos =>
    have hend : pos = t.length := Nat.le_antisymm hpos (List.drop_eq_nil_iff.1 hrest)
    obtain ⟨rfl, rfl⟩ : k = 0 ∧ ⟨start, pos⟩ = l := by
      rwa [List.getElem?_singleton, Option.ite_none_right_eq_some, Option.some.injEq] at hl
    exact ⟨⟨h, .inl hend⟩, rfl⟩
  | case2 start pos rest ih =>
    have hfeed := getElem?_of_drop (drop_of_drop hrest)
    refine isLine_cons h (getElem?_of_drop hrest) (by decide) (breaksBefore_pair hrest)
      (fun k l hl => ?_) hl
    exact ih (drop_of_drop (drop_of_drop hrest)) (lt_length_of_drop (drop_of_drop hrest))
      (beginsLine_self (.inr (.inl hfeed))) hl
  | case3 start pos rest hne ih =>
    have hends := endsBreak_of_return hrest hne
    refine isLine_cons h (getElem?_of_drop hrest) (by decide) (breaksBefore_succ hends)
      (fun k l hl => ?_) hl
    exact ih (drop_of_drop hrest) (lt_length_of_drop hrest) (beginsLine_self (.inr hends)) hl
  | case4 start pos rest ih =>
    have hends : EndsBreak t pos := .inl (getElem?_of_drop hrest)
    refine isLine_cons h (getElem?_of_drop hrest) (by decide) (breaksBefore_succ hends)
      (fun k l hl => ?_) hl
    exact ih (drop_of_drop hrest) (lt_length_of_drop hrest) (beginsLine_self (.inr hends)) hl
  | case5 start pos c rest hpair hreturn hfeed ih =>
    have hinner := isBreakChar_eq_false hreturn hfeed
    exact ih (drop_of_drop hrest) (lt_length_of_drop hrest)
      (h.succ (getElem?_of_drop hrest) hinner) hl

/-- From a place on there is one line more than there are breaks. -/
theorem length_linesFrom (hrest : t.drop pos = rest) (hpos : pos ≤ t.length) :
    breaksBefore t pos + (linesFrom start pos rest).length = breaksBefore t t.length + 1 := by
  fun_induction linesFrom start pos rest with
  | case1 start pos =>
    rw [Nat.le_antisymm hpos (List.drop_eq_nil_iff.1 hrest), List.length_singleton]
  | case2 start pos rest ih =>
    have hlines := ih (drop_of_drop (drop_of_drop hrest)) (lt_length_of_drop (drop_of_drop hrest))
    have hcount := breaksBefore_pair hrest
    rw [List.length_cons]
    omega
  | case3 start pos rest hne ih =>
    have hlines := ih (drop_of_drop hrest) (lt_length_of_drop hrest)
    have hcount := breaksBefore_succ (endsBreak_of_return hrest hne)
    rw [List.length_cons]
    omega
  | case4 start pos rest ih =>
    have hlines := ih (drop_of_drop hrest) (lt_length_of_drop hrest)
    have hcount := breaksBefore_succ (.inl (getElem?_of_drop hrest))
    rw [List.length_cons]
    omega
  | case5 start pos c rest hpair hreturn hfeed ih =>
    have hlines := ih (drop_of_drop hrest) (lt_length_of_drop hrest)
    have hcount : breaksBefore t (pos + 1) = breaksBefore t pos := by
      refine breaksBefore_succ_of_not fun hends => ?_
      obtain ⟨d, hd, hbreak⟩ := hends.exists_isBreakChar
      obtain rfl := Option.some.inj ((getElem?_of_drop hrest).symm.trans hd)
      cases (isBreakChar_eq_false hreturn hfeed).symm.trans hbreak
    omega

theorem length_lines (t : Text) : (lines t).length = breaksBefore t t.length + 1 := by
  have hlines : breaksBefore t 0 + (lines t).length = breaksBefore t t.length + 1 :=
    length_linesFrom List.drop_zero (Nat.zero_le _)
  rwa [breaksBefore, Nat.count_zero, Nat.zero_add] at hlines

theorem isLine_of_getElem? {k : Nat} {l : Line} (hl : (lines t)[k]? = some l) :
    IsLine t l ∧ breaksBefore t l.start = k := by
  have hline := isLine_of_linesFrom List.drop_zero (Nat.zero_le _) (beginsLine_self (.inl rfl)) hl
  rwa [breaksBefore, breaksBefore, Nat.count_zero, Nat.zero_add] at hline

/-- A caret stands on the line with as many lines above as breaks end in front of it. -/
theorem IsCaret.exists_line (h : IsCaret t o) :
    ∃ l, (lines t)[breaksBefore t o]? = some l ∧ BeginsLine t l.start o ∧ o ≤ l.stop := by
  have hlt : breaksBefore t o < (lines t).length := by
    rw [length_lines]
    exact Nat.lt_succ_of_le (Nat.count_monotone _ h.le_length)
  refine ⟨(lines t)[breaksBefore t o], List.getElem?_eq_getElem hlt, ?_⟩
  generalize hl : (lines t)[breaksBefore t o] = l
  obtain ⟨hline, hcount⟩ := isLine_of_getElem? (hl ▸ List.getElem?_eq_getElem hlt)
  have hle : l.start ≤ o := by
    refine Nat.le_of_not_lt fun hlt => ?_
    rcases hline.begins.opens with hzero | hends
    · omega
    · have hbefore : breaksBefore t o ≤ breaksBefore t (l.start - 1) :=
        Nat.count_monotone _ (by omega)
      have hstart := breaksBefore_succ hends
      rw [Nat.sub_add_cancel (by omega)] at hstart
      omega
  have hstop : o ≤ l.stop := by
    refine Nat.le_of_not_lt fun hlt => ?_
    rcases hline.closes with hend | ⟨c, hc, hbreak⟩
    · exact absurd h.le_length (by omega)
    · have hbehind := breaksBefore_lt_of_isBreakChar hc hbreak hlt h.not_splits
      rw [hline.begins.breaksBefore_eq] at hbehind
      omega
  exact ⟨hline.begins.up_to hle hstop, hstop⟩

/-- Carets are in the order of their lines, and of their columns in a line. -/
theorem IsCaret.lex_lt (h : IsCaret t o) (h' : IsCaret t o') (hlt : o < o') :
    breaksBefore t o < breaksBefore t o' ∨
      breaksBefore t o = breaksBefore t o' ∧ columnsBefore t o < columnsBefore t o' := by
  have hle : breaksBefore t o ≤ breaksBefore t o' := Nat.count_monotone _ (Nat.le_of_lt hlt)
  rcases Nat.lt_or_eq_of_le hle with hbreaks | hbreaks
  · exact .inl hbreaks
  · obtain ⟨l, hl, hbegins, -⟩ := h.exists_line
    obtain ⟨l', hl', hbegins', -⟩ := h'.exists_line
    obtain rfl : l = l' := by
      rw [hbreaks] at hl
      exact Option.some.inj (hl.symm.trans hl')
    rw [hbegins.columnsBefore_eq h.le_length, hbegins'.columnsBefore_eq h'.le_length]
    have := hbegins.le
    exact .inr ⟨hbreaks, by omega⟩

end Text

/-! ## Positions -/

/-- The line and the column of a place, both counted from one. -/
def positionAt (document : Text) (o : Nat) : ℤ ×ₗ ℤ :=
  toLex (breaksBefore document o + 1, columnsBefore document o + 1)

/-- Why a line and a column are refused that name no offset. -/
def refusal (document : Text) (line column : Int) : PositionFault :=
  let count := breaksBefore document document.length + 1
  if line < 1 ∨ column < 1 then .notPositive line column
  else if line > count then .lineTooLarge line count
  else .columnTooLarge line column

section Positions
variable {document : Text} {line column : Int} {o : Nat}

theorem offsetOfPosition_cases (document : Text) (line column : Int) :
    (∃ l, 1 ≤ line ∧ 1 ≤ column ∧ (lines document)[line.toNat - 1]? = some l ∧
      column ≤ l.stop - l.start + 1 ∧
      offsetOfPosition document line column = .ok (l.start + column.toNat - 1)) ∨
    offsetOfPosition document line column = .error (refusal document line column) := by
  have hlength := length_lines document
  by_cases hpos : line < 1 ∨ column < 1
  · exact .inr (by rw [offsetOfPosition, refusal, if_pos hpos, if_pos hpos])
  rw [offsetOfPosition, refusal, if_neg hpos, if_neg hpos]
  cases hl : (lines document)[line.toNat - 1]? with
  | none =>
    have hle := List.getElem?_eq_none_iff.1 hl
    have hlarge : line > (breaksBefore document document.length + 1 : Nat) := by omega
    exact .inr (by rw [if_pos hlarge, hlength])
  | some l =>
    obtain ⟨hlt, -⟩ := List.getElem?_eq_some_iff.1 hl
    have hsmall : ¬ line > (breaksBefore document document.length + 1 : Nat) := by omega
    by_cases hcolumn : column > l.stop - l.start + 1
    · exact .inr (by rw [if_neg hsmall]; exact if_pos hcolumn)
    · exact .inl ⟨l, by omega, by omega, rfl, by omega, if_neg hcolumn⟩

/-- A line and a column name the caret with as many breaks and characters of its line in front. -/
theorem offsetOfPosition_eq_ok_iff : offsetOfPosition document line column = .ok o ↔
    IsCaret document o ∧ line = breaksBefore document o + 1 ∧
      column = columnsBefore document o + 1 := by
  constructor
  · intro h
    rcases offsetOfPosition_cases document line column with
      ⟨l, hline, hcolumn, hl, hle, hok⟩ | herror
    · obtain rfl := Except.ok.inj (hok.symm.trans h)
      obtain ⟨hisLine, hcount⟩ := isLine_of_getElem? hl
      have hstop := hisLine.stop_le
      have hstart := hisLine.begins.le
      have hbegins : BeginsLine document l.start (l.start + column.toNat - 1) :=
        hisLine.begins.up_to (by omega) (by omega)
      have hlength : l.start + column.toNat - 1 ≤ document.length := by omega
      refine ⟨⟨hlength, hbegins.not_splits⟩, ?_, ?_⟩
      · rw [hbegins.breaksBefore_eq, hcount]
        omega
      · rw [hbegins.columnsBefore_eq hlength]
        omega
    · cases herror.symm.trans h
  · rintro ⟨hcaret, rfl, rfl⟩
    obtain ⟨l, hl, hbegins, hstop⟩ := hcaret.exists_line
    have hcolumns := hbegins.columnsBefore_eq hcaret.le_length
    have hle := hbegins.le
    have hline : ((breaksBefore document o : Int) + 1).toNat - 1 = breaksBefore document o := by
      omega
    rw [offsetOfPosition, if_neg (by omega), hline, hl]
    refine (if_neg (by omega)).trans (congrArg Except.ok ?_)
    omega

theorem positionAt_lt {o' : Nat} (h : IsCaret document o) (h' : IsCaret document o')
    (hlt : o < o') : positionAt document o < positionAt document o' := by
  refine Prod.Lex.toLex_lt_toLex.2 ?_
  have hlex := h.lex_lt h' hlt
  simp only
  omega

theorem image_positionAt (document : Text) :
    positionAt document '' {o | IsCaret document o} =
      {p | ∃ o, offsetOfPosition document (ofLex p).1 (ofLex p).2 = .ok o} := by
  refine Set.ext fun p => exists_congr fun o => ?_
  rw [offsetOfPosition_eq_ok_iff]
  refine and_congr_right fun _ => ⟨?_, fun ⟨hline, hcolumn⟩ => ?_⟩
  · rintro rfl
    exact ⟨rfl, rfl⟩
  · exact congrArg toLex (Prod.ext hline.symm hcolumn.symm)

/-- The positions of a document, in the order of lines and then of columns, are its carets in the
order of offsets. Each other pair is refused, and the lines are one more than the breaks. -/
theorem exists_orderIso_offsetOfPosition (document : Text) :
    (∃ e : {p : ℤ ×ₗ ℤ | ∃ o, offsetOfPosition document (ofLex p).1 (ofLex p).2 = .ok o} ≃o
        {o : ℕ | IsCaret document o},
      ∀ p, offsetOfPosition document (ofLex p.1).1 (ofLex p.1).2 = .ok (e p)) ∧
    (∀ line column o, offsetOfPosition document line column = .ok o ↔
      IsCaret document o ∧ line = breaksBefore document o + 1 ∧
        column = columnsBefore document o + 1) ∧
    (∀ line column, (∀ o, offsetOfPosition document line column ≠ .ok o) →
      offsetOfPosition document line column = .error (refusal document line column)) ∧
    (lines document).length = breaksBefore document document.length + 1 := by
  have hmono : StrictMonoOn (positionAt document) {o | IsCaret document o} :=
    fun _ h _ h' hlt => positionAt_lt h h' hlt
  let e := hmono.orderIso.trans (OrderIso.setCongr _ _ (image_positionAt document))
  refine ⟨⟨e.symm, fun p => ?_⟩, fun line column o => offsetOfPosition_eq_ok_iff,
    fun line column hrefused => ?_, length_lines document⟩
  · obtain ⟨o, rfl⟩ := e.surjective p
    rw [e.symm_apply_apply]
    exact offsetOfPosition_eq_ok_iff.2 ⟨o.2, rfl, rfl⟩
  · rcases offsetOfPosition_cases document line column with ⟨l, -, -, -, -, hok⟩ | herror
    · exact absurd hok (hrefused _)
    · exact herror

/-- A line feed behind a carriage return and its line feed is a break of its own. -/
example : offsetOfPosition "a\r\n\nb" 3 1 = .ok 4 := by decide

end Positions
end MarkupNaming
