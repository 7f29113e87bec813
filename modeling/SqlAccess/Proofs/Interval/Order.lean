import SqlAccess.Proofs.Interval.Duration
import SqlAccess.Proofs.Interval.Literal

/-!
# Order of day-time intervals

However an interval is come by, be it from whole seconds, from a span of time, from a literal or
from seconds and nanoseconds that do not wrap around (`DayTime.Obtained`), it is in normal form, and
these are all the intervals in normal form (`DayTime.obtained_iff_isNormal`). There the comparison
by seconds and then by fractions is the one of the exact numbers of nanoseconds
(`DayTime.IsNormal.compare_eq`). Days, hours, minutes and seconds are divided off toward zero, so
that all of them have the sign of the whole (`DayTime.IsNormal.isSplit`).
-/

namespace SqlAccess

open SqlAccess.Number
open Calendar.Offset (IsSigned)

namespace DayTime

/-! ## Ways to come by an interval -/

/-- The interval is one of whole seconds, of a span of time or of a literal, or one of seconds and
nanoseconds whose whole seconds fit 64 bits. -/
inductive Obtained : DayTime → Prop
  | ofSeconds (seconds : Int64) : Obtained (ofSeconds seconds)
  | ofDuration (d : Duration) : Obtained (ofDuration d)
  | parse {s : String} {i : DayTime} (h : parse s = .ok i) : Obtained i
  | ofSecondsNanos {seconds nanos : Int64} (h : WholeSecondsFit seconds.toInt nanos.toInt) :
      Obtained (ofSecondsNanos seconds.toInt nanos.toInt)

/-- Whole seconds have no fraction that could be on the other side. -/
theorem isNormal_ofSeconds (seconds : Int64) : (ofSeconds seconds).IsNormal := by
  simp only [IsNormal, ofSeconds, SignsAgree]
  omega

variable {i j : DayTime}

/-- The seconds of a literal fit in either direction, since its days end at a whole day. -/
theorem Writes.fits_sign_mul {s : List Char} {p : Parts} (h : Writes IsSigned s p)
    (hdays : FitsBits 64 (p.days * 86400)) (hwhole : FitsBits 64 p.whole) :
    FitsBits 64 (p.sign * p.whole) ∧ (p.sign * p.fraction).natAbs < 1000000000 := by
  obtain ⟨body, clock, point, hsign, -, -, hpoint⟩ := h
  have hfraction := hpoint.lt
  rw [fitsBits_64_iff] at *
  unfold Parts.whole at *
  rcases hsign.eq_or_eq with hf | hf
  · rw [hf]
    omega
  · rw [hf]
    omega

/-- However an interval is come by, it is in normal form. -/
theorem Obtained.isNormal (h : Obtained i) : i.IsNormal := by
  cases h with
  | ofSeconds seconds => exact isNormal_ofSeconds seconds
  | ofDuration d => exact isNormal_ofDuration d
  | parse h =>
    obtain ⟨p, hwrites, hdays, hwhole, rfl⟩ := exists_writes (parse_eq_ok_iff.1 h)
    obtain ⟨hfits, hfraction⟩ := hwrites.fits_sign_mul hdays hwhole
    exact (wholeSecondsFit_of_lt hfits hfraction).isNormal
  | ofSecondsNanos h => exact h.isNormal

/-- An interval in normal form is the one of its own seconds and fraction. -/
theorem obtained_iff_isNormal : Obtained i ↔ i.IsNormal := by
  refine ⟨Obtained.isNormal, fun hnormal => ?_⟩
  have hlt := i.nanos_lt
  have hseconds := fitsBits_64_toInt i.seconds
  -- A fraction is below a second, and so far below the limits of 64 bits.
  obtain ⟨nanos, hnanos⟩ : ∃ nanos : Int64, nanos.toInt = i.nanos :=
    fitsBits_64_iff_exists.1 (fitsBits_64_iff.2 (by omega))
  have hkept : ofSecondsNanos i.seconds.toInt nanos.toInt = i := by
    rw [hnanos]
    obtain ⟨hseconds', hnanos'⟩ := ofSecondsNanos_of_agree hnormal hseconds hlt
    exact eq_of_toInt hseconds' hnanos'
  rw [← hkept]
  exact .ofSecondsNanos (wholeSecondsFit_of_lt hseconds (hnanos ▸ hlt))

/-! ## Comparison -/

/-- Intervals in normal form are compared by their exact numbers of nanoseconds. -/
theorem IsNormal.compare_eq (hi : i.IsNormal) (hj : j.IsNormal) :
    compare i j = Ord.compare i.totalNanos j.totalNanos := by
  unfold compare
  -- The seconds decide as the wholes do, unless they are the same.
  rcases Int.lt_trichotomy i.seconds.toInt j.seconds.toInt with hlt | heq | hgt
  · rw [Int.compare_eq_lt.2 hlt, Int.compare_eq_lt.2 (hi.totalNanos_lt hj hlt)]
    rfl
  · -- With as many seconds, the fractions differ as the wholes do.
    rw [Int.compare_eq_eq.2 heq, totalNanos, totalNanos, heq, Ordering.eq_then]
    rcases Int.lt_trichotomy i.nanos j.nanos with hlt' | heq' | hgt'
    · rw [Int.compare_eq_lt.2 hlt', Int.compare_eq_lt.2 (by omega)]
    · rw [Int.compare_eq_eq.2 heq', Int.compare_eq_eq.2 (by omega)]
    · rw [Int.compare_eq_gt.2 hgt', Int.compare_eq_gt.2 (by omega)]
  · rw [Int.compare_eq_gt.2 hgt, Int.compare_eq_gt.2 (hj.totalNanos_lt hi hgt)]
    rfl

/-- Intervals in normal form are the same if they count the same. -/
theorem IsNormal.eq_iff (hi : i.IsNormal) (hj : j.IsNormal) :
    i = j ↔ i.totalNanos = j.totalNanos := by
  constructor
  · rintro rfl
    rfl
  · exact hi.eq_of_totalNanos hj

/-! ## Days and clock -/

/-- The integer is zero, or it has the sign of the other one. -/
def ZeroOrSignOf (a b : Int) : Prop :=
  a = 0 ∨ a.sign = b.sign

theorem ZeroOrSignOf.trans {a b c : Int} (hab : ZeroOrSignOf a b) (hbc : ZeroOrSignOf b c) :
    ZeroOrSignOf a c := by
  rcases hab with ha | hab
  · exact .inl ha
  · rcases hbc with hb | hbc
    · -- Only zero has the sign of zero.
      rw [hb, Int.sign_zero, Int.sign_eq_zero_iff_zero] at hab
      exact .inl hab
    · exact .inr (hab.trans hbc)

/-- A quotient toward zero has the sign of what is divided, or is zero. -/
theorem zeroOrSignOf_tdiv (n : Int) {b : Int} (hb : 0 < b) : ZeroOrSignOf (n.tdiv b) n := by
  -- Below the divisor nothing is left of the quotient, and no sign either.
  have hsign := Int.sign_tdiv n b
  rw [Int.sign_eq_one_of_pos hb, Int.mul_one] at hsign
  split at hsign
  · exact .inl (Int.sign_eq_zero_iff_zero.1 hsign)
  · exact .inr hsign

/-- What is left has the sign of what is divided, or is zero. -/
theorem zeroOrSignOf_tmod (n b : Int) : ZeroOrSignOf (n.tmod b) n := by
  have hsign := Int.sign_tmod n b
  split at hsign
  · exact .inl (Int.sign_eq_zero_iff_zero.1 hsign)
  · exact .inr hsign

theorem zeroOrSignOf_tmod_tdiv (n c : Int) {b : Int} (hb : 0 < b) :
    ZeroOrSignOf ((n.tmod c).tdiv b) n :=
  (zeroOrSignOf_tdiv _ hb).trans (zeroOrSignOf_tmod n c)

/-- In normal form, the seconds have the sign of the whole, or are zero. -/
theorem IsNormal.zeroOrSignOf_totalNanos (h : i.IsNormal) :
    ZeroOrSignOf i.seconds.toInt i.totalNanos := by
  unfold IsNormal SignsAgree at h
  unfold totalNanos
  rcases Int.lt_trichotomy i.seconds.toInt 0 with hneg | hzero | hpos
  · exact .inr (by rw [Int.sign_eq_neg_one_of_neg hneg, Int.sign_eq_neg_one_of_neg (by omega)])
  · exact .inl hzero
  · exact .inr (by rw [Int.sign_eq_one_of_pos hpos, Int.sign_eq_one_of_pos (by omega)])

/-- Of less than so many units, division leaves fewer than that. -/
theorem natAbs_tdiv_lt {n : Int} {b limit : Nat} (h : n.natAbs < b * limit) :
    (n.tdiv b).natAbs < limit := by
  rw [Int.natAbs_tdiv, Int.natAbs_natCast]
  exact Nat.div_lt_of_lt_mul h

theorem natAbs_tmod_lt (n : Int) {b : Int} (hb : 0 < b) : (n.tmod b).natAbs < b.natAbs :=
  (tdiv_tmod_bounds n hb).2.1

/-- Days, hours, minutes and seconds of an interval are parts of its whole seconds in the direction
of the whole, and all but the days are below their limits. -/
structure IsSplit (i : DayTime) : Prop where
  days_sign : ZeroOrSignOf i.days i.totalNanos
  hours_sign : ZeroOrSignOf i.hours i.totalNanos
  minutes_sign : ZeroOrSignOf i.minutes i.totalNanos
  seconds_sign : ZeroOrSignOf i.secondsOfMinute i.totalNanos
  hours_lt : i.hours.natAbs < 24
  minutes_lt : i.minutes.natAbs < 60
  seconds_lt : i.secondsOfMinute.natAbs < 60
  sum : i.days * 86400 + i.hours * 3600 + i.minutes * 60 + i.secondsOfMinute = i.seconds.toInt

/-- What is left of the days is divided into hours, and what is left of these into minutes. -/
theorem sum_days_clock (i : DayTime) :
    i.days * 86400 + i.hours * 3600 + i.minutes * 60 + i.secondsOfMinute = i.seconds.toInt := by
  have hdays := Int.mul_tdiv_add_tmod i.seconds.toInt 86400
  have hhours := Int.mul_tdiv_add_tmod (i.seconds.toInt.tmod 86400) 3600
  have hminutes := Int.mul_tdiv_add_tmod (i.seconds.toInt.tmod 3600) 60
  -- Hours are whole parts of a day and minutes of an hour, so each remainder is one of the whole.
  rw [Int.tmod_tmod_of_dvd _ (by decide)] at hhours hminutes
  unfold days hours minutes secondsOfMinute
  omega

/-- An interval in normal form is split in the direction of the whole. -/
theorem IsNormal.isSplit (h : i.IsNormal) : i.IsSplit where
  days_sign := (zeroOrSignOf_tdiv _ (by decide)).trans h.zeroOrSignOf_totalNanos
  hours_sign := (zeroOrSignOf_tmod_tdiv _ _ (by decide)).trans h.zeroOrSignOf_totalNanos
  minutes_sign := (zeroOrSignOf_tmod_tdiv _ _ (by decide)).trans h.zeroOrSignOf_totalNanos
  seconds_sign := (zeroOrSignOf_tmod _ _).trans h.zeroOrSignOf_totalNanos
  hours_lt := natAbs_tdiv_lt (natAbs_tmod_lt _ (by decide))
  minutes_lt := natAbs_tdiv_lt (natAbs_tmod_lt _ (by decide))
  seconds_lt := natAbs_tmod_lt _ (by decide)
  sum := sum_days_clock i

/-! ## Obtained intervals -/

/-- An interval that is come by in one of the ways is in normal form and is split into days and a
clock in the direction of the whole. Two of them are equal, or compared, as their exact numbers of
nanoseconds are. -/
theorem obtained_ordered (h : Obtained i) :
    i.IsNormal ∧ i.IsSplit ∧ ∀ j, Obtained j →
      (i = j ↔ i.totalNanos = j.totalNanos) ∧
        compare i j = Ord.compare i.totalNanos j.totalNanos := by
  have hi := h.isNormal
  refine ⟨hi, hi.isSplit, fun j hj => ?_⟩
  exact ⟨hi.eq_iff hj.isNormal, hi.compare_eq hj.isNormal⟩

/-- Half a second before now, made of one second and a negative fraction, is before a quarter of a
second before now, read from its literal. -/
theorem obtained_ordered_fractions :
    let half := ofSecondsNanos (1 : Int64).toInt (-1500000000 : Int64).toInt
    let quarter : DayTime := ⟨0, -250000000, by decide⟩
    Obtained half ∧ Obtained quarter ∧ half.totalNanos = -500000000 ∧ half.IsNormal ∧
      half ≠ quarter ∧ compare half quarter = .lt := by
  intro half quarter
  have hhalf : Obtained half := .ofSecondsNanos (by decide)
  have hquarter : Obtained quarter := .parse (s := "-0 00:00:00.25") <| by
    rw [parse_eq_ok_iff]
    decide +kernel
  obtain ⟨hnormal, -, hothers⟩ := obtained_ordered hhalf
  obtain ⟨heq, hcompare⟩ := hothers quarter hquarter
  refine ⟨hhalf, hquarter, by decide, hnormal, fun h => ?_, ?_⟩
  · exact absurd (heq.1 h) (by decide)
  · rw [hcompare]
    decide

end DayTime

end SqlAccess
