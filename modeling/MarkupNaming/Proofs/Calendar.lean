import MarkupNaming.Calendar

/-!
# Days in order

The order of days, and the last day of the calendar: no text writes a day behind it.
-/
namespace MarkupNaming.Date

variable {a b c : Date}

theorem le_trans (h : a ≤ b) (h' : b ≤ c) : a ≤ c := Nat.le_trans h h'

theorem le_of_lt (h : a < b) : a ≤ b := Nat.le_of_lt h

theorem not_le : ¬ a ≤ b ↔ b < a := Nat.not_le

/-! ## The last day -/

theorem rank_le_last {year month day : Nat} (hyear : year ≤ 9999) (hmonth : month ≤ 12)
    (hday : day ≤ daysInMonth year month) : (⟨year, month, day⟩ : Date) ≤ last := by
  have hmost : daysInMonth year month ≤ 31 := by
    unfold daysInMonth
    split
    · split <;> omega
    · split <;> omega
  change year * 10000 + month * 100 + day ≤ 9999 * 10000 + 12 * 100 + 31
  omega

theorem le_last_of_ofNumbers {year month day : Nat} {d : Date}
    (h : ofNumbers year month day = .ok d) : d ≤ last := by
  unfold ofNumbers at h
  split at h
  · cases h
  split at h
  · cases h
  split at h
  · cases h
  obtain rfl := Except.ok.inj h
  exact rank_le_last (by omega) (by omega) (by omega)

theorem le_last_of_inMonths {year month offset months : Nat} {d : Date} (hyear : year ≤ 9999)
    (hmonths : month + months ≤ 13) (h : inMonths year month offset months = some d) :
    d ≤ last := by
  induction months generalizing month offset with
  | zero => cases h
  | succ months ih =>
    rw [inMonths] at h
    split at h
    · obtain rfl := Option.some.inj h
      exact rank_le_last hyear (by omega) (by omega)
    · exact ih (by omega) h

theorem le_last_of_ofDaysNear {year days : Nat} {d : Date} (h : ofDaysNear year days = some d) :
    d ≤ last := by
  obtain ⟨y, -, hy⟩ := List.exists_of_findSome?_eq_some h
  rw [Option.ite_none_right_eq_some] at hy
  exact le_last_of_inMonths hy.1.2.1 (Nat.le_refl _) hy.2

theorem le_last_of_ofWeek {year week weekday : Nat} {d : Date}
    (h : ofWeek year week weekday = some d) : d ≤ last := by
  unfold ofWeek at h
  split at h
  · cases h
  exact le_last_of_ofDaysNear h

theorem le_last_of_ofDigits {year month day : Text} {d : Date}
    (h : ofDigits year month day = some d) : d ≤ last := by
  simp only [ofDigits, Option.bind_eq_bind, Option.bind_eq_some_iff] at h
  obtain ⟨y, -, m, -, n, -, hd⟩ := h
  cases hnumbers : ofNumbers y m n with
  | error fault =>
    rw [hnumbers] at hd
    cases hd
  | ok day =>
    rw [hnumbers] at hd
    obtain rfl := Option.some.inj hd
    exact le_last_of_ofNumbers hnumbers

theorem le_last_of_ofWeekDigits {year week weekday : Text} {d : Date}
    (h : ofWeekDigits year week weekday = some d) : d ≤ last := by
  simp only [ofWeekDigits, Option.bind_eq_bind, Option.bind_eq_some_iff] at h
  obtain ⟨y, -, w, -, n, -, hd⟩ := h
  exact le_last_of_ofWeek hd

/-- No text writes a day behind the last one. -/
theorem le_last_of_ofText? {t : Text} {d : Date} (h : ofText? t = some d) : d ≤ last := by
  obtain ⟨written, -, hwritten⟩ := Option.bind_eq_some_iff.1 h
  split at hwritten
  · exact le_last_of_ofWeekDigits hwritten
  · exact le_last_of_ofWeekDigits hwritten
  · exact le_last_of_ofDigits hwritten
  · exact le_last_of_ofWeekDigits hwritten
  · exact le_last_of_ofWeekDigits hwritten
  · exact le_last_of_ofDigits hwritten
  · cases hwritten

end MarkupNaming.Date
