import SqlAccess.Calendar.Date
import SqlAccess.Calendar.TimeOfDay

/-!
# Timestamps

A timestamp is a date with a time of day. A zoned timestamp is an instant, kept as a timestamp in
UTC, with the offset it is shown in. Taking a local timestamp to UTC and back gives the local
timestamp again (`ZonedTimestamp.toLocal_of_ofLocal?`).
-/

namespace SqlAccess.Calendar

/-- A date with a time of day. -/
structure Timestamp where
  date : Date
  time : TimeOfDay
deriving DecidableEq, Inhabited

namespace Timestamp

/-- Midnight of a date. -/
def ofDate (date : Date) : Timestamp :=
  ⟨date, .midnight⟩

/-- Turns clock and calendar by less than a day, keeping the nanoseconds. -/
def move (ts : Timestamp) (seconds : Int) : Timestamp :=
  ⟨ts.date.moveDay (ts.time.daysMoved seconds), ts.time.moveClock seconds⟩

theorem move_neg_move (ts : Timestamp) {seconds : Int} (h : seconds.natAbs < 86400) :
    (ts.move (-seconds)).move seconds = ts := by
  have hs := ts.time.second_lt
  have htime : (ts.time.moveClock (-seconds)).moveClock seconds = ts.time := by
    rw [TimeOfDay.moveClock_moveClock, Int.add_left_neg, TimeOfDay.moveClock_zero]
  -- Turning back passes midnight as often as turning there did.
  have hdays : (ts.time.moveClock (-seconds)).daysMoved seconds
      = -(ts.time.daysMoved (-seconds)) := by
    simp only [TimeOfDay.moveClock, TimeOfDay.daysMoved]
    omega
  -- By less than a day, it is passed at most once.
  have hcases : ts.time.daysMoved (-seconds) = 0 ∨ ts.time.daysMoved (-seconds) = 1 ∨
      ts.time.daysMoved (-seconds) = -1 := by
    simp only [TimeOfDay.daysMoved]
    omega
  obtain ⟨date, time⟩ := ts
  simp only [move, mk.injEq] at *
  refine ⟨?_, htime⟩
  rw [hdays]
  rcases hcases with h0 | h1 | h1 <;> simp_all [Date.moveDay, Date.previous_next,
    Date.next_previous]

/-- Date and time, joined by a space. -/
def text (ts : Timestamp) : List Char :=
  ts.date.text ++ ' ' :: ts.time.text

end Timestamp

/-- An instant, and the offset it is shown in. -/
structure ZonedTimestamp where
  utc : Timestamp
  offset : Offset
deriving DecidableEq, Inhabited

namespace ZonedTimestamp

/-- The instant that a local timestamp names at an offset, if its date in UTC is in range. -/
def ofLocal? (ts : Timestamp) (offset : Offset) : Option ZonedTimestamp :=
  let utc := ts.move (-offset.seconds)
  if utc.date.inRange then some ⟨utc, offset⟩ else none

/-- The local timestamp at the instant's own offset. -/
def toLocal (z : ZonedTimestamp) : Timestamp :=
  z.utc.move z.offset.seconds

/-- The same instant, shown in another offset. -/
def atOffset (z : ZonedTimestamp) (offset : Offset) : ZonedTimestamp :=
  ⟨z.utc, offset⟩

/-- Two zoned timestamps are equal if they are the same instant. -/
def sameInstant (x y : ZonedTimestamp) : Bool :=
  x.utc == y.utc

theorem toLocal_of_ofLocal? {ts : Timestamp} {offset : Offset} {z : ZonedTimestamp}
    (h : ofLocal? ts offset = some z) : z.toLocal = ts ∧ z.offset = offset := by
  unfold ofLocal? at h
  simp only at h
  split at h
  · cases h
    exact ⟨Timestamp.move_neg_move ts offset.abs_lt, rfl⟩
  · cases h

theorem atOffset_of_ofLocal? {ts : Timestamp} {offset : Offset} {z : ZonedTimestamp}
    (h : ofLocal? ts offset = some z) : z.atOffset offset = z := by
  rw [← (toLocal_of_ofLocal? h).2]
  rfl

/-- Local timestamp and offset to the minute. -/
def text (z : ZonedTimestamp) : List Char :=
  z.toLocal.text ++ z.offset.minuteText

end ZonedTimestamp

end SqlAccess.Calendar
