import SqlAccess.Text.Digits

/-!
# Dates

Days of the Gregorian calendar, extended to all years. `Date.next` and `Date.previous` undo each
other. Dates that are read or built from parts lie within `minYear` and `maxYear`; a shift by a
day may leave that range, and `inRange` tells.
-/

namespace SqlAccess.Calendar

open SqlAccess.Text

/-- A year divisible by 4, but by 100 only if also by 400. -/
def isLeapYear (year : Int) : Bool :=
  year % 4 == 0 && (year % 100 != 0 || year % 400 == 0)

/-- The number of days of a month, counted from 1 for January; zero for any other number. -/
def daysInMonth (year : Int) : Nat → Nat
  | 1 | 3 | 5 | 7 | 8 | 10 | 12 => 31
  | 4 | 6 | 9 | 11 => 30
  | 2 => if isLeapYear year then 29 else 28
  | _ => 0

/-- The first and the last year of the range. -/
def minYear : Int := -262143
@[inherit_doc minYear] def maxYear : Int := 262142

/-- A day of the Gregorian calendar. -/
structure Date where
  year : Int
  month : Nat
  day : Nat
  day_pos : 1 ≤ day
  day_le : day ≤ daysInMonth year month
deriving DecidableEq

namespace Date

/-- Within the range of years. -/
def inRange (d : Date) : Bool :=
  minYear ≤ d.year && d.year ≤ maxYear

/-- The day with these numbers, if there is one in range. -/
def ofParts? (year : Int) (month day : Nat) : Option Date :=
  if h : 1 ≤ day ∧ day ≤ daysInMonth year month then
    let d : Date := ⟨year, month, day, h.1, h.2⟩
    if d.inRange then some d else none
  else none

/-- The first of January 1970. -/
def epoch : Date := ⟨1970, 1, 1, by decide, by decide⟩

instance : Inhabited Date := ⟨epoch⟩

private theorem month_mem {year : Int} {month day : Nat} (h1 : 1 ≤ day)
    (h2 : day ≤ daysInMonth year month) : 1 ≤ month ∧ month ≤ 12 := by
  unfold daysInMonth at h2
  split at h2 <;> omega

theorem month_range (d : Date) : 1 ≤ d.month ∧ d.month ≤ 12 :=
  month_mem d.day_pos d.day_le

private theorem daysInMonth_pos {year : Int} {month : Nat} (h1 : 1 ≤ month) (h2 : month ≤ 12) :
    1 ≤ daysInMonth year month := by
  have hcases : month = 1 ∨ month = 2 ∨ month = 3 ∨ month = 4 ∨ month = 5 ∨ month = 6 ∨
      month = 7 ∨ month = 8 ∨ month = 9 ∨ month = 10 ∨ month = 11 ∨ month = 12 := by omega
  rcases hcases with rfl | rfl | rfl | rfl | rfl | rfl | rfl | rfl | rfl | rfl | rfl | rfl <;>
    simp only [daysInMonth, Nat.reduceLeDiff]
  cases isLeapYear year <;> decide

/-- The following day. -/
def next (d : Date) : Date :=
  if h : d.day < daysInMonth d.year d.month then
    ⟨d.year, d.month, d.day + 1, by omega, h⟩
  else if hm : d.month < 12 then
    ⟨d.year, d.month + 1, 1, by decide, daysInMonth_pos (by omega) (by omega)⟩
  else
    ⟨d.year + 1, 1, 1, by decide, by simp [daysInMonth]⟩

/-- The preceding day. -/
def previous (d : Date) : Date :=
  if h : 1 < d.day then
    ⟨d.year, d.month, d.day - 1, by omega, by have := d.day_le; omega⟩
  else if hm : 1 < d.month then
    ⟨d.year, d.month - 1, daysInMonth d.year (d.month - 1),
      daysInMonth_pos (by omega) (by have := d.month_range; omega), Nat.le_refl _⟩
  else
    ⟨d.year - 1, 12, 31, by decide, by simp [daysInMonth]⟩

/-- Moves by at most one day, in the direction of the sign. -/
def moveDay (d : Date) (days : Int) : Date :=
  if days = 0 then d else if 0 < days then d.next else d.previous

theorem previous_next (d : Date) : d.next.previous = d := by
  have hr := d.month_range
  have h1 := d.day_pos
  have h2 := d.day_le
  unfold next
  split
  · next h => simp [previous, show 1 < d.day + 1 by omega]
  · next h =>
    -- The day is the last of its month, so the following one is the first of the next.
    have hlast : d.day = daysInMonth d.year d.month := by omega
    split
    · next hm =>
      simp only [previous, Nat.lt_irrefl, dif_neg, not_false_eq_true,
        show 1 < d.month + 1 by omega, dif_pos, Nat.add_sub_cancel]
      cases d
      simp_all
    · next hm =>
      -- The year ends on the last of December.
      have h12 : d.month = 12 := by omega
      have h31 : d.day = 31 := by rw [hlast, h12]; rfl
      simp only [previous, Nat.lt_irrefl, dif_neg, not_false_eq_true]
      cases d
      simp_all

theorem next_previous (d : Date) : d.previous.next = d := by
  have hr := d.month_range
  have h1 := d.day_pos
  have h2 := d.day_le
  unfold previous
  split
  · next h =>
    have hlt : d.day - 1 < daysInMonth d.year d.month := by omega
    simp only [next, hlt, dif_pos, Nat.sub_add_cancel h1]
  · next h =>
    -- The day is the first of its month, so the preceding one is the last of the month before.
    have hfirst : d.day = 1 := by omega
    split
    · next hm =>
      simp only [next, Nat.lt_irrefl, dif_neg, not_false_eq_true,
        show d.month - 1 < 12 by omega, dif_pos, Nat.sub_add_cancel hr.1]
      cases d
      simp_all
    · next hm =>
      have h1m : d.month = 1 := by omega
      simp only [next, daysInMonth, Nat.lt_irrefl, dif_neg, not_false_eq_true]
      cases d
      simp_all

/-! ## Text -/

/-- The text of a year: four digits from 0 to 9999, else a sign and at least four digits. -/
def yearText (year : Int) : List Char :=
  if 0 ≤ year ∧ year ≤ 9999 then paddedDigits 4 year.natAbs
  else (if year < 0 then '-' else '+') :: paddedDigits 4 year.natAbs

/-- Year, month and day, joined by hyphens. -/
def text (d : Date) : List Char :=
  yearText d.year ++ '-' :: paddedDigits 2 d.month ++ '-' :: paddedDigits 2 d.day

end Date

end SqlAccess.Calendar
