import SqlAccess.Calendar.Literal
import SqlAccess.Error
import SqlAccess.Number.Integer
import SqlAccess.Text.Cut

/-!
# Times with an offset

A time of day as a clock at some offset from UTC shows it. Taking it to another offset keeps the
instant (`utcTime_atOffset`), except that a leap second is left when the clock moves.
-/

namespace SqlAccess.Calendar

open SqlAccess.Text SqlAccess.Number

/-- A local time of day and the offset of the clock that shows it. -/
structure OffsetTime where
  time : TimeOfDay
  offset : Offset
deriving DecidableEq, Inhabited

namespace Offset

/-- Reads a signed integer of 32 bits. -/
def signed32? (s : List Char) : Option Int :=
  (signed? s).filter fits32

/-- The sign, the hours and the minutes of an offset: minutes are optional, and stand after a colon.
Hours and minutes are integers of their own. -/
def parts? (s : List Char) : Option (Int × Int × Int) := do
  let (sign, body) ← match s with
    | '+' :: body => some ((1 : Int), body)
    | '-' :: body => some (-1, body)
    | _ => none
  match cutFirst ':' body with
  | some (hours, minutes) => return (sign, ← signed32? hours, ← signed32? minutes)
  | none => return (sign, ← signed32? body, 0)

/-- Reads an offset of at most 14 hours and at most 59 minutes. Its seconds are a 32-bit integer,
and wrap like one (see `overflows`). -/
def ofText? (s : List Char) : Option Offset := do
  let (sign, hours, minutes) ← parts? s
  if 14 < hours ∨ 59 < minutes then none
  else ofSeconds? (Int32.ofInt (sign * (hours * 3600 + minutes * 60))).toInt

/-- On the way to the seconds of an offset there is an integer that is none of 32 bits. A program
that checks its arithmetic stops there, and one that does not goes on with the integer that it
wraps to. -/
def overflows (s : List Char) : Bool :=
  match parts? s with
  | some (sign, hours, minutes) =>
    hours ≤ 14 && minutes ≤ 59 &&
      !(fits32 (hours * 3600) && fits32 (minutes * 60) && fits32 (hours * 3600 + minutes * 60) &&
        fits32 (sign * (hours * 3600 + minutes * 60)))
  | none => false

end Offset

namespace OffsetTime

/-- The same instant on a clock in UTC. -/
def utcTime (t : OffsetTime) : TimeOfDay :=
  t.time.addSeconds (-t.offset.seconds)

/-- The same instant on a clock at another offset. -/
def atOffset (t : OffsetTime) (offset : Offset) : OffsetTime :=
  ⟨t.utcTime.addSeconds offset.seconds, offset⟩

/-- Clock, fraction and offset. -/
def text (t : OffsetTime) : List Char :=
  t.time.text ++ t.offset.text

/-- Reads a time and the offset that starts at the last sign. -/
def ofText? (s : List Char) : Option OffsetTime := do
  let (time, offset) ← cutBeforeLast (fun c => c == '+' || c == '-') (trim s)
  return ⟨← TimeOfDay.ofText? time, ← Offset.ofText? offset⟩

/-- Reads a time with an offset, or says which text is none. -/
def parse (s : String) : Except Error OffsetTime :=
  match ofText? s.toList with
  | some t => .ok t
  | none => .error (.invalidFormat .timeWithTimeZone s)

theorem utcTime_atOffset {t : OffsetTime} (h : t.time.isLeap = false) (offset : Offset) :
    (t.atOffset offset).utcTime = t.utcTime := by
  have hutc : t.utcTime.isLeap = false := by
    simp [utcTime, TimeOfDay.addSeconds_of_not_leap h, h]
  unfold atOffset
  simp only [utcTime] at hutc ⊢
  rw [TimeOfDay.addSeconds_of_not_leap hutc, TimeOfDay.addSeconds_of_not_leap,
    TimeOfDay.moveClock_moveClock, Int.add_right_neg, TimeOfDay.moveClock_zero]
  simpa using hutc

end OffsetTime

end SqlAccess.Calendar
