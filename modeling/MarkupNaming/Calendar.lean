import MarkupNaming.Text.Number
import MarkupNaming.Text.Utf8

/-!
# Calendar

Days of the Gregorian calendar in the years 1 to 9999, and the written forms of a day: year,
month and day, or year, week and weekday, where weeks begin on Monday and the first week of a
year is the one with its first Thursday. A moment is a time on a day.
-/
namespace MarkupNaming

/-- A day of the calendar. -/
structure Date where
  year : Nat
  month : Nat
  day : Nat
deriving DecidableEq, Repr, Inhabited

namespace Date

/-- Whether a year has a 29th of February. -/
def isLeap (year : Nat) : Bool := year % 4 == 0 && (year % 100 != 0 || year % 400 == 0)

/-- The number of days in a month of a year. -/
def daysInMonth (year month : Nat) : Nat :=
  if month = 2 then (if isLeap year then 29 else 28)
  else if month ∈ [4, 6, 9, 11] then 30 else 31

/-- Why numbers name no day. -/
inductive Fault
  | year (year : Nat)
  | month
  | day
deriving DecidableEq, Repr

/-- The day with the given numbers. -/
def ofNumbers (year month day : Nat) : Except Fault Date :=
  if year = 0 ∨ 9999 < year then .error (.year year)
  else if month = 0 ∨ 12 < month then .error .month
  else if day = 0 ∨ daysInMonth year month < day then .error .day
  else .ok ⟨year, month, day⟩

/-- A number that grows from each day to the next. -/
def rank (d : Date) : Nat := d.year * 10000 + d.month * 100 + d.day

instance : LE Date := ⟨fun a b => a.rank ≤ b.rank⟩
instance : LT Date := ⟨fun a b => a.rank < b.rank⟩
instance (a b : Date) : Decidable (a ≤ b) := inferInstanceAs (Decidable (a.rank ≤ b.rank))
instance (a b : Date) : Decidable (a < b) := inferInstanceAs (Decidable (a.rank < b.rank))

/-- The last day of the calendar. -/
def last : Date := ⟨9999, 12, 31⟩

/-- Decimal digits of a number, padded with zeros to `width`. -/
def padded (width n : Nat) : Text :=
  let digits := Text.ofNat n
  List.replicate (width - digits.length) (Code.char '0') ++ digits

/-- A day as year, month and day. -/
def text (d : Date) : Text :=
  padded 4 d.year ++ .char '-' :: padded 2 d.month ++ .char '-' :: padded 2 d.day

/-- Days before the first day of a year, counted from the beginning of the calendar. -/
def daysBefore (year : Nat) : Nat :=
  let y := year - 1
  y * 365 + y / 4 - y / 100 + y / 400

/-- Days in the first months of a year. -/
def daysInMonths (year : Nat) : (months : Nat) → Nat
  | 0 => 0
  | months + 1 => daysInMonths year months + daysInMonth year (months + 1)

/-- Days before a day, counted from the beginning of the calendar. -/
def number (d : Date) : Nat := daysBefore d.year + daysInMonths d.year (d.month - 1) + (d.day - 1)

/-- The day at a distance from the first day of a month, for as many months as `months`. -/
def inMonths (year month offset : Nat) : Nat → Option Date
  | 0 => none
  | months + 1 =>
    if offset < daysInMonth year month then some ⟨year, month, offset + 1⟩
    else inMonths year (month + 1) (offset - daysInMonth year month) months

/-- The day with a given number of days before it in the calendar, near `year`. -/
def ofDaysNear (year days : Nat) : Option Date :=
  [year - 1, year, year + 1].findSome? fun y =>
    if 1 ≤ y ∧ y ≤ 9999 ∧ daysBefore y ≤ days ∧ days < daysBefore (y + 1) then
      inMonths y 1 (days - daysBefore y) 12
    else none

/-- The day of a time in seconds since the beginning of 1970. -/
def ofSeconds (seconds : Nat) : Date :=
  let days := daysBefore 1970 + seconds / 86400
  (ofDaysNear (days / 365) days).getD last

/-- Whether a year has a week 53. -/
def hasLongYear (year : Nat) : Bool :=
  let weekday := daysBefore year % 7
  weekday == 3 || (weekday == 2 && isLeap year)

/-- The day in a week of a year; weeks and weekdays count from one. -/
def ofWeek (year week weekday : Nat) : Option Date :=
  if year = 0 ∨ week = 0 ∨ 53 < week ∨ (week = 53 ∧ !hasLongYear year) ∨ weekday = 0 ∨ 7 < weekday
  then none
  else
    let first := daysBefore year
    let monday := if first % 7 ≤ 3 then first - first % 7 else first + 7 - first % 7
    ofDaysNear year (monday + 7 * (week - 1) + (weekday - 1))

/-- The day of a numbered month. -/
def ofDigits (year month day : Text) : Option Date := do
  (ofNumbers (← Text.plainNumber? year) (← Text.plainNumber? month)
    (← Text.plainNumber? day)).toOption

/-- The day of a numbered week. -/
def ofWeekDigits (year week weekday : Text) : Option Date := do
  ofWeek (← Text.plainNumber? year) (← Text.plainNumber? week) (← Text.plainNumber? weekday)

/-- The part of a written day that is read: a form without separators may be followed by two
more bytes. -/
def significant (t : Text) : Option Text := do
  let size := (← (Utf8.encode .strict t).toOption).length
  if size = 7 ∨ size = 8 then some t
  else if size = 10 then
    if t.getD 4 '-' = '-' then some t else some (t.take 8)
  else none

/-- The day that a text writes. -/
def ofText? (t : Text) : Option Date := do
  match ← significant t with
  | [a, b, c, d, '-', 'W', e, f] => ofWeekDigits [a, b, c, d] [e, f] ['1']
  | [a, b, c, d, '-', 'W', e, f, '-', g] => ofWeekDigits [a, b, c, d] [e, f] [g]
  | [a, b, c, d, '-', e, f, '-', g, h] => ofDigits [a, b, c, d] [e, f] [g, h]
  | [a, b, c, d, 'W', e, f] => ofWeekDigits [a, b, c, d] [e, f] ['1']
  | [a, b, c, d, 'W', e, f, g] => ofWeekDigits [a, b, c, d] [e, f] [g]
  | [a, b, c, d, e, f, g, h] => ofDigits [a, b, c, d] [e, f] [g, h]
  | _ => none

end Date

/-- A time on a day. -/
structure Moment where
  date : Date
  /-- Microseconds since the beginning of the day. -/
  time : Nat
  /-- The distance of the place from universal time in seconds, if it is known. -/
  zone : Option Int
deriving DecidableEq, Repr, Inhabited

namespace Moment

/-- Microseconds since the beginning of the calendar, as the clocks of the place show them. -/
def clock (m : Moment) : Int := m.date.number * 86400000000 + m.time

/-- Whether two moments are the same. Where the place is known, the clocks of two places may
differ; a moment at an unknown place differs from each at a known one. -/
def isSame (a b : Moment) : Bool :=
  match a.zone, b.zone with
  | none, none => a.clock == b.clock
  | some x, some y => a.clock - 1000000 * x == b.clock - 1000000 * y
  | _, _ => false

/-- A moment as a day and the hours, minutes and seconds of its clocks. -/
def text (m : Moment) : Text :=
  let seconds := m.time / 1000000
  m.date.text ++ .char ' ' :: Date.padded 2 (seconds / 3600) ++ .char ':' ::
    Date.padded 2 (seconds / 60 % 60)
    ++ .char ':' :: Date.padded 2 (seconds % 60)

end Moment
end MarkupNaming
