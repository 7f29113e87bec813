import SqlAccess.Interval.DayTime
import SqlAccess.Proofs.Number.Width

/-!
# Normal form of day-time intervals

In normal form the seconds and the fraction of an interval do not have opposite signs. Seconds and
nanoseconds without opposite signs are kept as they are when an interval is built from them
(`DayTime.ofSecondsNanos_of_agree`), so that an interval in normal form is built from its own
seconds and fraction, and is told by its exact number of nanoseconds
(`DayTime.IsNormal.eq_of_totalNanos`).

Any seconds and nanoseconds are divided toward zero, which leaves no opposite signs
(`tdiv_tmod_bounds`). So they make an interval in normal form that counts just them, unless the
whole seconds leave the 64 bits and wrap around (`DayTime.ofSecondsNanos_exact_iff`).
-/

namespace SqlAccess

open SqlAccess.Number

/-- The integers do not have opposite signs. -/
def SignsAgree (a b : Int) : Prop :=
  (0 ≤ a ∧ 0 ≤ b) ∨ (a ≤ 0 ∧ b ≤ 0)
deriving Decidable

/-- Division toward zero leaves less than the divisor, and neither the quotient nor what is left has
the opposite sign of the dividend. -/
theorem tdiv_tmod_bounds (n : Int) {b : Int} (hb : 0 < b) :
    b * n.tdiv b + n.tmod b = n ∧ (n.tmod b).natAbs < b.natAbs ∧
      SignsAgree n (n.tdiv b) ∧ SignsAgree n (n.tmod b) := by
  refine ⟨Int.mul_tdiv_add_tmod n b, ?_, ?_⟩
  · rw [Int.natAbs_tmod]
    exact Nat.mod_lt _ (Int.natAbs_pos.2 (Int.ne_of_gt hb))
  · have hb' : 0 ≤ b := Int.le_of_lt hb
    rcases Int.le_total 0 n with hn | hn
    · exact ⟨.inl ⟨hn, Int.tdiv_nonneg hn hb'⟩, .inl ⟨hn, Int.tmod_nonneg b hn⟩⟩
    · -- The magnitude is divided, and the results are negated.
      have hquotient := Int.tdiv_nonneg (Int.neg_nonneg_of_nonpos hn) hb'
      have hremainder := Int.tmod_nonneg b (Int.neg_nonneg_of_nonpos hn)
      rw [Int.neg_tdiv, Int.neg_nonneg] at hquotient
      rw [Int.neg_tmod, Int.neg_nonneg] at hremainder
      exact ⟨.inr ⟨hn, hquotient⟩, .inr ⟨hn, hremainder⟩⟩

namespace DayTime

/-- The fraction does not have the opposite sign of the seconds. -/
def IsNormal (i : DayTime) : Prop :=
  SignsAgree i.seconds.toInt i.nanos
deriving Decidable

/-- An interval is its seconds and its fraction. -/
theorem eq_of_toInt {i j : DayTime} (hseconds : i.seconds.toInt = j.seconds.toInt)
    (hnanos : i.nanos = j.nanos) : i = j := by
  obtain ⟨_, _, _⟩ := i
  obtain ⟨_, _, _⟩ := j
  rw [Int64.toInt_inj] at hseconds
  cases hseconds
  cases hnanos
  rfl

variable {seconds nanos : Int}

/-- Division undoes a sum of seconds and nanoseconds without opposite signs. -/
theorem tdiv_tmod_of_agree (hsigns : SignsAgree seconds nanos)
    (hnanos : nanos.natAbs < 1000000000) :
    (seconds * 1000000000 + nanos).tdiv 1000000000 = seconds ∧
      (seconds * 1000000000 + nanos).tmod 1000000000 = nanos := by
  rcases hsigns with ⟨hs, hn⟩ | ⟨hs, hn⟩
  · rw [Int.tdiv_eq_ediv_of_nonneg (by omega), Int.tmod_eq_emod_of_nonneg (by omega)]
    omega
  · -- Division toward zero is the one of the magnitudes, negated.
    have hneg : seconds * 1000000000 + nanos = -(-seconds * 1000000000 + -nanos) := by omega
    rw [hneg, Int.neg_tdiv, Int.neg_tmod, Int.tdiv_eq_ediv_of_nonneg (by omega),
      Int.tmod_eq_emod_of_nonneg (by omega)]
    omega

/-- Seconds and nanoseconds without opposite signs are kept as they are. -/
theorem ofSecondsNanos_of_agree (hsigns : SignsAgree seconds nanos) (hfits : FitsBits 64 seconds)
    (hnanos : nanos.natAbs < 1000000000) :
    (ofSecondsNanos seconds nanos).seconds.toInt = seconds ∧
      (ofSecondsNanos seconds nanos).nanos = nanos := by
  obtain ⟨hquotient, hremainder⟩ := tdiv_tmod_of_agree hsigns hnanos
  refine ⟨?_, hremainder⟩
  simp only [ofSecondsNanos, hquotient]
  exact toInt_ofInt_of_fitsBits hfits

/-! ## Exact numbers of nanoseconds -/

/-- Fewer whole seconds are fewer nanoseconds. -/
theorem IsNormal.totalNanos_lt {i j : DayTime} (hi : i.IsNormal) (hj : j.IsNormal)
    (hlt : i.seconds.toInt < j.seconds.toInt) : i.totalNanos < j.totalNanos := by
  -- A fraction on the side of its seconds, and below one, does not make up for a second.
  have hi' := i.nanos_lt
  have hj' := j.nanos_lt
  unfold IsNormal SignsAgree at hi hj
  unfold totalNanos
  omega

/-- An interval in normal form is told by its exact number of nanoseconds. -/
theorem IsNormal.eq_of_totalNanos {i j : DayTime} (hi : i.IsNormal) (hj : j.IsNormal)
    (htotal : i.totalNanos = j.totalNanos) : i = j := by
  -- Seconds that differ would make the wholes differ as well.
  have hseconds : i.seconds.toInt = j.seconds.toInt := by
    refine Int.le_antisymm (Int.not_lt.1 fun hlt => ?_) (Int.not_lt.1 fun hlt => ?_)
    · exact Int.ne_of_gt (hj.totalNanos_lt hi hlt) htotal
    · exact Int.ne_of_lt (hi.totalNanos_lt hj hlt) htotal
  refine eq_of_toInt hseconds ?_
  unfold totalNanos at htotal
  omega

/-! ## Carried nanoseconds -/

/-- The whole seconds of so many seconds and nanoseconds fit 64 bits. -/
def WholeSecondsFit (seconds nanos : Int) : Prop :=
  FitsBits 64 ((seconds * 1000000000 + nanos).tdiv 1000000000)
deriving Decidable

/-- Less than a second carries nothing out of the 64 bits. -/
theorem wholeSecondsFit_of_lt (hfits : FitsBits 64 seconds) (hnanos : nanos.natAbs < 1000000000) :
    WholeSecondsFit seconds nanos := by
  obtain ⟨hsplit, hlt, -, hremainder⟩ :=
    tdiv_tmod_bounds (seconds * 1000000000 + nanos) (b := 1000000000) (by decide)
  unfold WholeSecondsFit
  rw [fitsBits_64_iff] at *
  unfold SignsAgree at hremainder
  -- Even next to the least and the greatest seconds, the division goes back toward zero.
  omega

theorem WholeSecondsFit.toInt_seconds (h : WholeSecondsFit seconds nanos) :
    (ofSecondsNanos seconds nanos).seconds.toInt =
      (seconds * 1000000000 + nanos).tdiv 1000000000 :=
  toInt_ofInt_of_fitsBits h

theorem WholeSecondsFit.totalNanos_eq (h : WholeSecondsFit seconds nanos) :
    (ofSecondsNanos seconds nanos).totalNanos = seconds * 1000000000 + nanos := by
  obtain ⟨lo, hi⟩ := fitsBits_64_iff.1 h
  exact total_ofSecondsNanos lo hi

/-- Whole seconds that fit have no opposite sign to the fraction that is left. -/
theorem WholeSecondsFit.isNormal (h : WholeSecondsFit seconds nanos) :
    (ofSecondsNanos seconds nanos).IsNormal := by
  obtain ⟨hsplit, hlt, hquotient, hremainder⟩ :=
    tdiv_tmod_bounds (seconds * 1000000000 + nanos) (b := 1000000000) (by decide)
  rw [IsNormal, h.toInt_seconds]
  simp only [ofSecondsNanos]
  unfold SignsAgree at *
  omega

/-! ## Whole seconds that do not fit -/

section Wrapped

variable {seconds nanos : Int64}

/-- Whole seconds that do not fit are less than a turn away from zero, on the side of the whole. -/
theorem beyond_of_not_fit (h : ¬WholeSecondsFit seconds.toInt nanos.toInt) :
    let total := seconds.toInt * 1000000000 + nanos.toInt
    (total.sign = 1 ∧ 9223372036854775808 ≤ total.tdiv 1000000000 ∧
        total.tdiv 1000000000 < 18446744073709551616 ∧ 0 ≤ total.tmod 1000000000) ∨
      (total.sign = -1 ∧ total.tdiv 1000000000 < -9223372036854775808 ∧
        -18446744073709551616 < total.tdiv 1000000000 ∧ total.tmod 1000000000 ≤ 0) := by
  intro total
  obtain ⟨hsplit, hlt, hquotient, hremainder⟩ :=
    tdiv_tmod_bounds total (b := 1000000000) (by decide)
  have hseconds := fitsBits_64_iff.1 (fitsBits_64_toInt seconds)
  have hnanos := fitsBits_64_iff.1 (fitsBits_64_toInt nanos)
  change ¬FitsBits 64 (total.tdiv 1000000000) at h
  rw [fitsBits_64_iff] at h
  unfold SignsAgree at hquotient hremainder
  -- The nanoseconds carry some billions of seconds at most, far less than a turn.
  rcases Int.lt_trichotomy total 0 with hneg | hzero | hpos
  · have hsign := Int.sign_eq_neg_one_of_neg hneg
    omega
  · omega
  · have hsign := Int.sign_eq_one_of_pos hpos
    omega

/-- Whole seconds that do not fit have wrapped around once, against the direction of the whole. -/
theorem toInt_seconds_of_not_fit (h : ¬WholeSecondsFit seconds.toInt nanos.toInt) :
    (ofSecondsNanos seconds.toInt nanos.toInt).seconds.toInt =
      (seconds.toInt * 1000000000 + nanos.toInt).tdiv 1000000000 -
        (seconds.toInt * 1000000000 + nanos.toInt).sign * 18446744073709551616 := by
  apply toInt_ofInt_of_turns
  rw [fitsBits_64_iff]
  rcases beyond_of_not_fit h with hafter | hbefore
  · omega
  · omega

/-- An interval that wrapped around is off by one turn. -/
theorem totalNanos_of_not_fit (h : ¬WholeSecondsFit seconds.toInt nanos.toInt) :
    (ofSecondsNanos seconds.toInt nanos.toInt).totalNanos =
      seconds.toInt * 1000000000 + nanos.toInt -
        (seconds.toInt * 1000000000 + nanos.toInt).sign * (18446744073709551616 * 1000000000) := by
  have hsplit := Int.mul_tdiv_add_tmod (seconds.toInt * 1000000000 + nanos.toInt) 1000000000
  rw [totalNanos, toInt_seconds_of_not_fit h]
  simp only [ofSecondsNanos]
  omega

/-- Seconds that have wrapped around are on the other side of zero than the fraction. -/
theorem isNormal_iff_of_not_fit (h : ¬WholeSecondsFit seconds.toInt nanos.toInt) :
    (ofSecondsNanos seconds.toInt nanos.toInt).IsNormal ↔
      (ofSecondsNanos seconds.toInt nanos.toInt).nanos = 0 := by
  rw [IsNormal, toInt_seconds_of_not_fit h]
  simp only [ofSecondsNanos, SignsAgree]
  rcases beyond_of_not_fit h with hafter | hbefore
  · omega
  · omega

end Wrapped

/-- Seconds and nanoseconds of 64 bits make an interval that counts just them, in normal form, if
and only if the whole seconds fit 64 bits. Otherwise the interval is off by 2^64 seconds, against
the direction of the whole, and is in normal form only if it has no fraction. The fraction is below
a second in any case. -/
theorem ofSecondsNanos_exact_iff (seconds nanos : Int64) :
    (ofSecondsNanos seconds.toInt nanos.toInt).nanos.natAbs < 1000000000 ∧
      ((ofSecondsNanos seconds.toInt nanos.toInt).totalNanos =
          seconds.toInt * 1000000000 + nanos.toInt ∧
        (ofSecondsNanos seconds.toInt nanos.toInt).IsNormal ↔
          WholeSecondsFit seconds.toInt nanos.toInt) ∧
      ((ofSecondsNanos seconds.toInt nanos.toInt).totalNanos =
        if WholeSecondsFit seconds.toInt nanos.toInt then
          seconds.toInt * 1000000000 + nanos.toInt
        else
          seconds.toInt * 1000000000 + nanos.toInt -
            (seconds.toInt * 1000000000 + nanos.toInt).sign * (2 ^ 64 * 1000000000)) ∧
      ((ofSecondsNanos seconds.toInt nanos.toInt).IsNormal ↔
        WholeSecondsFit seconds.toInt nanos.toInt ∨
          (ofSecondsNanos seconds.toInt nanos.toInt).nanos = 0) := by
  refine ⟨nanos_lt _, ?_⟩
  by_cases hfits : WholeSecondsFit seconds.toInt nanos.toInt
  · simp [hfits, hfits.totalNanos_eq, hfits.isNormal]
  · have htotal := totalNanos_of_not_fit hfits
    have hnormal := isNormal_iff_of_not_fit hfits
    refine ⟨iff_of_false (fun h => ?_) hfits, ?_, ?_⟩
    · -- The whole has a direction in which it is off.
      rcases beyond_of_not_fit hfits with ⟨hsign, -⟩ | ⟨hsign, -⟩
      · omega
      · omega
    · rw [if_neg hfits, htotal]
      rfl
    · rw [hnormal, or_iff_right hfits]

/-- One and a half seconds after the last second of 64 bits are counted as half a second after the
first one, with a fraction against the direction of the seconds. -/
theorem ofSecondsNanos_wraps_around :
    let i := ofSecondsNanos Int64.maxValue.toInt 1500000000
    i.totalNanos ≠ Int64.maxValue.toInt * 1000000000 + 1500000000 ∧ ¬i.IsNormal ∧
      i.seconds = Int64.minValue ∧ i.nanos = 500000000 := by
  decide

end DayTime

end SqlAccess
