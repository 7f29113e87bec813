import SqlAccess.Text.Digits

/-!
# Times of day and offsets

A time of day counts seconds from midnight and nanoseconds; in a leap second the nanoseconds go on
from 10^9. An offset is a distance from UTC of less than a day. There are two ways to move a
time: `moveClock` turns the clock and keeps the nanoseconds, which is how a local time is
taken to another offset, and `addSeconds` adds a duration, which leaves a leap second.
-/

namespace SqlAccess.Calendar

open SqlAccess.Text

/-- A distance from UTC in seconds, positive to the east. -/
structure Offset where
  seconds : Int
  abs_lt : seconds.natAbs < 86400
deriving DecidableEq

namespace Offset

/-- UTC itself. -/
def utc : Offset := ⟨0, by decide⟩

instance : Inhabited Offset := ⟨utc⟩

/-- The offset of so many seconds, if it is less than a day. -/
def ofSeconds? (seconds : Int) : Option Offset :=
  if h : seconds.natAbs < 86400 then some ⟨seconds, h⟩ else none

/-- The sign of an offset; zero is positive. -/
def signText (o : Offset) : Char :=
  if o.seconds < 0 then '-' else '+'

/-- Sign, hours and minutes, and the seconds if there are any. -/
def text (o : Offset) : List Char :=
  let n := o.seconds.natAbs
  o.signText :: paddedDigits 2 (n / 3600) ++ ':' :: paddedDigits 2 (n / 60 % 60)
    ++ if n % 60 = 0 then [] else ':' :: paddedDigits 2 (n % 60)

/-- Sign, hours and minutes, rounded to the nearest minute. -/
def minuteText (o : Offset) : List Char :=
  let minutes := (o.seconds.natAbs + 30) / 60
  o.signText :: paddedDigits 2 (minutes / 60) ++ ':' :: paddedDigits 2 (minutes % 60)

theorem eq_of_seconds_eq {a b : Offset} (h : a.seconds = b.seconds) : a = b := by
  cases a
  cases b
  cases h
  rfl

theorem ofSeconds?_eq_some_iff {n : Int} {o : Offset} : ofSeconds? n = some o ↔ o.seconds = n := by
  unfold ofSeconds?
  split
  · constructor
    · rintro ⟨⟩
      rfl
    · intro h
      exact congrArg some (eq_of_seconds_eq h.symm)
  · next hbound =>
    constructor
    · intro h
      cases h
    · rintro rfl
      exact absurd o.abs_lt hbound

end Offset

/-- A time of day. -/
structure TimeOfDay where
  second : Nat
  nano : Nat
  second_lt : second < 86400
  nano_lt : nano < 2000000000
deriving DecidableEq

namespace TimeOfDay

/-- The start of the day. -/
def midnight : TimeOfDay := ⟨0, 0, by decide, by decide⟩

instance : Inhabited TimeOfDay := ⟨midnight⟩

/-- The time with these parts. A leap second is one that follows the second 59. -/
def ofParts? (hour minute second nano : Nat) : Option TimeOfDay :=
  if h : (hour < 24 ∧ minute < 60 ∧ second < 60) ∧ nano < 2000000000 ∧
      (nano < 1000000000 ∨ second = 59) then
    some ⟨hour * 3600 + minute * 60 + second, nano, by omega, h.2.1⟩
  else none

/-- Whole hours since midnight. -/
def hour (t : TimeOfDay) : Nat := t.second / 3600

/-- Minutes of the hour. -/
def minute (t : TimeOfDay) : Nat := t.second / 60 % 60

/-- Seconds of the minute. -/
def secondOfMinute (t : TimeOfDay) : Nat := t.second % 60

/-- The time lies in a leap second. -/
def isLeap (t : TimeOfDay) : Bool := 1000000000 ≤ t.nano

/-! ## Moving -/

private theorem wrapped_lt (n : Int) : (n % 86400).toNat < 86400 := by omega

/-- Turns the clock by so many seconds. The nanoseconds stay, also in a leap second. -/
def moveClock (t : TimeOfDay) (seconds : Int) : TimeOfDay :=
  ⟨((t.second + seconds) % 86400).toNat, t.nano, wrapped_lt _, t.nano_lt⟩

/-- The days that turning the clock passes. -/
def daysMoved (t : TimeOfDay) (seconds : Int) : Int :=
  (t.second + seconds) / 86400

/-- Adds a duration of whole seconds, wrapping at midnight. A step forward from a leap second
starts from the second before it, a step back from the second after it. -/
def addSeconds (t : TimeOfDay) (seconds : Int) : TimeOfDay :=
  if h : 1000000000 ≤ t.nano then
    if seconds = 0 then t
    else
      let base : TimeOfDay := ⟨t.second, t.nano - 1000000000, t.second_lt, by have := t.nano_lt; omega⟩
      base.moveClock (if seconds < 0 then seconds + 1 else seconds)
  else t.moveClock seconds

@[simp] theorem isLeap_moveClock (t : TimeOfDay) (seconds : Int) :
    (t.moveClock seconds).isLeap = t.isLeap := rfl

theorem addSeconds_of_not_leap {t : TimeOfDay} (h : t.isLeap = false) (seconds : Int) :
    t.addSeconds seconds = t.moveClock seconds := by
  simp only [isLeap, decide_eq_false_iff_not] at h
  simp [addSeconds, h]

theorem moveClock_moveClock (t : TimeOfDay) (a b : Int) :
    (t.moveClock a).moveClock b = t.moveClock (a + b) := by
  simp only [moveClock, mk.injEq, and_true]
  omega

theorem moveClock_zero (t : TimeOfDay) : t.moveClock 0 = t := by
  have := t.second_lt
  cases t
  simp only [moveClock, mk.injEq, and_true]
  omega

theorem addSeconds_zero (t : TimeOfDay) : t.addSeconds 0 = t := by
  unfold addSeconds
  split
  · rfl
  · exact t.moveClock_zero

/-- A step of any length ends outside of leap seconds. -/
theorem isLeap_addSeconds (t : TimeOfDay) {seconds : Int} (h : seconds ≠ 0) :
    (t.addSeconds seconds).isLeap = false := by
  have hnano := t.nano_lt
  by_cases hleap : 1000000000 ≤ t.nano
  · -- What is left of the nanoseconds is counted on the second before or after.
    have hrest : ¬1000000000 ≤ t.nano - 1000000000 := by omega
    rw [addSeconds, dif_pos hleap, if_neg h, isLeap_moveClock]
    exact decide_eq_false hrest
  · have hplain : t.isLeap = false := decide_eq_false hleap
    rw [addSeconds_of_not_leap hplain, isLeap_moveClock, hplain]

/-! ## Text -/

/-- Hours, minutes and seconds; a leap second counts one more than the second before it. -/
def clockText (t : TimeOfDay) : List Char :=
  paddedDigits 2 t.hour ++ ':' :: paddedDigits 2 t.minute
    ++ ':' :: paddedDigits 2 (t.secondOfMinute + t.nano / 1000000000)

/-- A point and three, six or nine digits, as many as are needed; nothing for a whole second. -/
def fractionText (t : TimeOfDay) : List Char :=
  let nano := t.nano % 1000000000
  if nano = 0 then []
  else if nano % 1000000 = 0 then '.' :: paddedDigits 3 (nano / 1000000)
  else if nano % 1000 = 0 then '.' :: paddedDigits 6 (nano / 1000)
  else '.' :: paddedDigits 9 nano

/-- Clock and fraction. -/
def text (t : TimeOfDay) : List Char :=
  t.clockText ++ t.fractionText

end TimeOfDay

end SqlAccess.Calendar
