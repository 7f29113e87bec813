import SqlAccess.Interval.YearMonth

/-!
# Day-time intervals

A day-time interval is a signed number of seconds, held in 64 bits, and a fraction in
nanoseconds. Building one carries the nanoseconds into the seconds, so that the fraction stays
below a second and has the sign of the whole (`DayTime.total_ofSecondsNanos`). Its literal form is
days and a clock, such as `3 04:05:06.5`, after an optional sign. A `Duration` is the narrower
span of time that callers use: an exact number of nanoseconds, bounded in milliseconds.
-/

namespace SqlAccess

open SqlAccess.Text SqlAccess.Number

/-- A signed number of seconds with a fraction in nanoseconds. -/
structure DayTime where
  seconds : Int64
  nanos : Int
  nanos_lt : nanos.natAbs < 1000000000
deriving DecidableEq

/-- A span of time in nanoseconds, of at most 2^63 - 1 milliseconds either way. -/
structure Duration where
  nanos : Int
  abs_le : nanos.natAbs ≤ 9223372036854775807000000
deriving DecidableEq

namespace Duration

/-- The span of so many nanoseconds, if it is in range. -/
def ofNanos? (nanos : Int) : Option Duration :=
  if h : nanos.natAbs ≤ 9223372036854775807000000 then some ⟨nanos, h⟩ else none

/-- Whole seconds, toward zero. -/
def wholeSeconds (d : Duration) : Int := d.nanos.tdiv 1000000000

/-- Nanoseconds beyond the whole seconds, with the sign of the span. -/
def fraction (d : Duration) : Int := d.nanos.tmod 1000000000

end Duration

namespace DayTime

instance : Inhabited DayTime := ⟨⟨0, 0, by decide⟩⟩

private theorem tmod_lt (n : Int) : (n.tmod 1000000000).natAbs < 1000000000 := by
  rw [Int.natAbs_tmod]
  exact Nat.mod_lt _ (by decide)

/-- Seconds and nanoseconds of either sign; the nanoseconds are carried into the seconds, which
wrap around at 64 bits. -/
def ofSecondsNanos (seconds nanos : Int) : DayTime :=
  let total := seconds * 1000000000 + nanos
  ⟨Int64.ofInt (total.tdiv 1000000000), total.tmod 1000000000, tmod_lt total⟩

/-- Whole seconds. -/
def ofSeconds (seconds : Int64) : DayTime := ⟨seconds, 0, by decide⟩

/-- The exact number of nanoseconds. -/
def totalNanos (i : DayTime) : Int :=
  i.seconds.toInt * 1000000000 + i.nanos

/-- The interval of a span of time. -/
def ofDuration (d : Duration) : DayTime :=
  ofSecondsNanos d.wholeSeconds d.fraction

/-- The span of time of an interval, if the seconds and the whole are in its range. -/
def toDuration? (i : DayTime) : Option Duration := do
  let whole ← Duration.ofNanos? (i.seconds.toInt * 1000000000)
  Duration.ofNanos? (whole.nanos + i.nanos)

/-- Whole days, toward zero. -/
def days (i : DayTime) : Int := i.seconds.toInt.tdiv 86400

/-- Hours of the day. -/
def hours (i : DayTime) : Int := (i.seconds.toInt.tmod 86400).tdiv 3600

/-- Minutes of the hour. -/
def minutes (i : DayTime) : Int := (i.seconds.toInt.tmod 3600).tdiv 60

/-- Seconds of the minute. -/
def secondsOfMinute (i : DayTime) : Int := i.seconds.toInt.tmod 60

/-- Below zero. -/
def isNegative (i : DayTime) : Bool := i.seconds.toInt < 0 || i.nanos < 0

/-- Days and clock of the magnitude, the fraction without trailing zeros, and a minus sign in
front if the interval is negative. -/
def text (i : DayTime) : List Char :=
  let n := i.seconds.toInt.natAbs
  let fraction := i.nanos.natAbs
  (if i.isNegative then ['-'] else []) ++ natDigits (n / 86400)
    ++ ' ' :: paddedDigits 2 (n % 86400 / 3600) ++ ':' :: paddedDigits 2 (n % 3600 / 60)
    ++ ':' :: paddedDigits 2 (n % 60)
    ++ if fraction = 0 then [] else '.' :: dropTrailingZeros (paddedDigits 9 fraction)

/-! ## Reading -/

/-- Reads an integer from zero up to, but not including, `limit`. -/
def clockField? (limit : Nat) (s : List Char) : Option Nat := do
  let n ← YearMonth.wideInteger? s
  if 0 ≤ n.toInt ∧ n.toInt < limit then some n.toInt.natAbs else none

/-- Reads hours, minutes and seconds, joined by colons, as a number of seconds. -/
def clockSeconds? (s : List Char) : Option Nat :=
  match s.splitOn ':' with
  | [h, m, sec] => do
    let hours ← clockField? 24 h
    let minutes ← clockField? 60 m
    let seconds ← clockField? 60 sec
    return hours * 3600 + minutes * 60 + seconds
  | _ => none

/-- Reads one to nine digits of a fraction as nanoseconds. -/
def fractionNanos? (s : List Char) : Option Nat :=
  if s.length ≤ 9 then
    (natOfDigits? s).map fun n => n * Nat.pow 10 (9 - s.length)
  else none

/-- Reads a literal. Days and clock together fit 64 bits. -/
def ofText? (s : List Char) : Option DayTime := do
  let (negative, body) := splitSign (trim s)
  let (days, clock) ← match cutFirst ' ' body with
    | some (days, rest) => do pure ((← YearMonth.wideInteger? days).toInt, trim rest)
    | none => pure (0, body)
  let (clock, nanos) ← match cutFirst '.' clock with
    | some (clock, fraction) => do pure (clock, ← fractionNanos? fraction)
    | none => pure (clock, 0)
  let ofDay ← clockSeconds? clock
  -- The days alone have to fit as well.
  let base ← int64? (days * 86400)
  let seconds ← int64? (base.toInt + ofDay)
  return if negative then ofSecondsNanos (-seconds.toInt) (-nanos)
    else ofSecondsNanos seconds.toInt nanos

/-- Reads a literal, or says which text is none. -/
def parse (s : String) : Except Error DayTime :=
  match ofText? s.toList with
  | some i => .ok i
  | none => .error (.invalidFormat .intervalDayToSecond s)

/-! ## Order -/

/-- Seconds first, then nanoseconds. -/
def compare (x y : DayTime) : Ordering :=
  (Ord.compare x.seconds.toInt y.seconds.toInt).then (Ord.compare x.nanos y.nanos)

/-- An interval counts exactly the nanoseconds it was built from, if its seconds fit. -/
theorem total_ofSecondsNanos {seconds nanos : Int}
    (lo : -9223372036854775808 ≤ (seconds * 1000000000 + nanos).tdiv 1000000000)
    (hi : (seconds * 1000000000 + nanos).tdiv 1000000000 ≤ 9223372036854775807) :
    (ofSecondsNanos seconds nanos).totalNanos = seconds * 1000000000 + nanos := by
  have := Int.mul_tdiv_add_tmod (seconds * 1000000000 + nanos) 1000000000
  simp only [totalNanos, ofSecondsNanos, Int64.toInt_ofInt_of_le lo (by omega)]
  omega

end DayTime

/-- Fewer months first. -/
def YearMonth.compare (x y : YearMonth) : Ordering :=
  Ord.compare x.months.toInt y.months.toInt

end SqlAccess
