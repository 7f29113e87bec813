import SqlAccess.Proofs.Interval.Literal

/-!
# Reading a day-time interval back from its text

The text of an interval is a literal with groups of digits: the sign of the whole in front of the
days and the clock of the magnitude, and behind them the digits of the fraction up to the last one
that is not zero (`DayTime.writes_text`). In normal form seconds and fraction have the sign in
common, so that an interval is read back from its text, unless its seconds are the least of 64 bits,
whose magnitude does not fit (`DayTime.parse_displayed`).
-/

namespace SqlAccess

open SqlAccess.Text SqlAccess.Number
open Calendar.Offset (IsNumber isNumber_paddedDigits)

namespace DayTime

/-! ## The text in parts -/

/-- The time of the day after so many seconds. -/
def clockText (seconds : Nat) : List Char :=
  paddedDigits 2 (seconds % 86400 / 3600) ++
    ':' :: (paddedDigits 2 (seconds % 3600 / 60) ++ ':' :: paddedDigits 2 (seconds % 60))

/-- A point and the digits of so many nanoseconds, unless there are none. -/
def fractionText (nanos : Nat) : List Char :=
  if nanos = 0 then [] else '.' :: dropTrailingZeros (paddedDigits 9 nanos)

/-- Days and time of the day for so many seconds and nanoseconds. -/
def magnitudeText (seconds nanos : Nat) : List Char :=
  paddedDigits 0 (seconds / 86400) ++ ' ' :: ([] ++ (clockText seconds ++ fractionText nanos))

theorem text_eq (i : DayTime) :
    i.text = (if i.isNegative then ['-'] else []) ++
      magnitudeText i.seconds.toInt.natAbs i.nanos.natAbs := by
  simp [text, magnitudeText, clockText, fractionText, paddedDigits]

/-- The clock is within its limits and worth the seconds of the day. -/
theorem isClock_clockText (seconds : Nat) :
    IsClock IsNumber (clockText seconds) (seconds % 86400) := by
  have hclock : IsClock IsNumber (clockText seconds) _ :=
    .mk (isNumber_paddedDigits 2 (seconds % 86400 / 3600))
      (isNumber_paddedDigits 2 (seconds % 3600 / 60)) (isNumber_paddedDigits 2 (seconds % 60))
      (by omega) (by omega) (by omega)
  rwa [show seconds % 86400 / 3600 * 3600 + seconds % 3600 / 60 * 60 + seconds % 60 =
    seconds % 86400 by omega] at hclock

/-- The zeros that are dropped are made up for by the place of the digits. -/
theorem isFraction_fractionText {nanos : Nat} (hlt : nanos < 1000000000) :
    IsFraction (fractionText nanos) nanos := by
  unfold fractionText
  split
  · next hzero => exact hzero ▸ .none
  · next hpos =>
    obtain ⟨zeros, hsplit⟩ := exists_zeros_dropTrailingZeros (paddedDigits 9 nanos)
    generalize dropTrailingZeros (paddedDigits 9 nanos) = digits at hsplit ⊢
    -- Nine digits are written, and some of them are the zeros that are dropped.
    have hlength : digits.length + zeros = 9 := by
      have hpadded : (paddedDigits 9 nanos).length = 9 := length_paddedDigits (by decide) hlt
      rwa [hsplit, List.length_append, List.length_replicate] at hpadded
    -- The digits that are left are worth the nanoseconds without these zeros.
    have hvalue : digitsValue digits * 10 ^ zeros = nanos := by
      have hpadded := digitsValue_paddedDigits 9 nanos
      rw [hsplit, digitsValue_append, List.length_replicate,
        digitsValue_eq_ofDigitChars (List.replicate zeros '0'), Nat.ofDigitChars_replicate_zero,
        Nat.mul_zero, Nat.add_zero] at hpadded
      rw [Nat.mul_comm, hpadded]
    have hnumber : IsNumber digits (digitsValue digits) := by
      refine ⟨?_, fun c hc => ?_, rfl⟩
      · rintro rfl
        exact hpos (hvalue.symm.trans (Nat.zero_mul _))
      · have hmem : c ∈ paddedDigits 9 nanos := hsplit ▸ List.mem_append_left _ hc
        exact isDigit_of_mem_paddedDigits hmem
    have hfraction := IsFraction.digits hnumber (by omega)
    rwa [show 9 - digits.length = zeros by omega, hvalue] at hfraction

/-- A magnitude has no blanks around it. -/
theorem tight_magnitudeText (seconds : Nat) {nanos : Nat} (hlt : nanos < 1000000000) :
    Tight (magnitudeText seconds nanos) where
  start c hc := isBlank_eq_false_of_isDigit (isDigit_of_mem_head?_paddedDigits 0 _ _ c hc)
  stop := by
    have htime := tight_of_forall (isBlank_eq_false_of_mem_time (isClock_clockText seconds).signed
      (isFraction_fractionText hlt))
    have hne : clockText seconds ++ fractionText nanos ≠ [] := by simp [clockText]
    have hend := htime.stop.append (a := paddedDigits 0 (seconds / 86400) ++ [' '])
      fun hnil => absurd hnil hne
    rwa [List.append_assoc] at hend

/-- The sign of a text is found again in front of its magnitude. -/
theorem hasSign_text (i : DayTime) :
    HasSign (trim i.text) (factor i.isNegative)
      (magnitudeText i.seconds.toInt.natAbs i.nanos.natAbs) := by
  rw [text_eq]
  exact hasSign_iff.2 ⟨_, splitSign_of_digit (tight_magnitudeText _ i.nanos_lt)
    (isDigit_of_mem_head?_paddedDigits 0 _ _) i.isNegative, rfl⟩

/-- What the parts of the text are worth. -/
def shownParts (i : DayTime) : Parts where
  sign := factor i.isNegative
  days := i.seconds.toInt.natAbs / 86400
  ofDay := i.seconds.toInt.natAbs % 86400
  fraction := i.nanos.natAbs

theorem writes_text (i : DayTime) : Writes IsNumber i.text i.shownParts := by
  -- The days have no sign of their own and no padding.
  have hdays : HasDays IsNumber (magnitudeText i.seconds.toInt.natAbs i.nanos.natAbs)
      i.shownParts.days (clockText _ ++ fractionText _) :=
    @HasDays.days _ _ [] _ _ (isNumber_paddedDigits 0 _) (by simp)
  exact ⟨_, _, _, i.hasSign_text, hdays, isClock_clockText _, isFraction_fractionText i.nanos_lt⟩

/-! ## Reading back -/

/-- In normal form the sign of the whole is that of the seconds and of the fraction. -/
theorem IsNormal.eq_factor_mul {i : DayTime} (h : i.IsNormal) :
    i.seconds.toInt = factor i.isNegative * i.seconds.toInt.natAbs ∧
      i.nanos = factor i.isNegative * i.nanos.natAbs := by
  have hsign : i.isNegative = true ↔ i.seconds.toInt < 0 ∨ i.nanos < 0 := by
    simp [isNegative]
  unfold IsNormal SignsAgree at h
  cases hnegative : i.isNegative with
  | false =>
    rw [hnegative] at hsign
    have hnonneg : ¬(i.seconds.toInt < 0 ∨ i.nanos < 0) :=
      fun hlt => Bool.false_ne_true (hsign.2 hlt)
    rw [show factor false = 1 from rfl]
    omega
  | true =>
    have hneg := hsign.1 hnegative
    rw [show factor true = -1 from rfl]
    omega

/-- An interval in normal form is read back from its text, unless its seconds are the least of 64
bits. -/
theorem parse_displayed (i : DayTime) (hnormal : i.IsNormal)
    (hleast : -9223372036854775808 < i.seconds.toInt) : parse (String.ofList i.text) = .ok i := by
  have hwrites := i.writes_text
  have hwhole : i.shownParts.whole = i.seconds.toInt.natAbs := by
    simp only [Parts.whole, shownParts]
    omega
  -- Only the least seconds have a magnitude that does not fit.
  have hfits : FitsBits 64 i.shownParts.whole := by
    have hlt := Int64.toInt_lt i.seconds
    rw [hwhole, fitsBits_64_iff]
    omega
  obtain ⟨hseconds, hnanos⟩ := hnormal.eq_factor_mul
  rw [parse_eq_ok_iff, String.toList_ofList, ofText?_of_not_signsGroup hwrites.not_signsGroup]
  exact ⟨i.shownParts, hwrites, hfits, by rw [hwhole]; exact hseconds, hnanos⟩

/-- A quarter of a second before now, and the greatest interval. -/
theorem parse_displayed_bounds :
    let quarter : DayTime := ⟨0, -250000000, by decide⟩
    let greatest : DayTime := ⟨9223372036854775807, 999999999, by decide⟩
    quarter.IsNormal ∧ -9223372036854775808 < quarter.seconds.toInt ∧
      greatest.IsNormal ∧ -9223372036854775808 < greatest.seconds.toInt ∧
      parse "-0 00:00:00.25" = .ok quarter ∧
      parse "106751991167300 15:30:07.999999999" = .ok greatest := by
  intro quarter greatest
  have hquarter : String.ofList quarter.text = "-0 00:00:00.25" := by decide +kernel
  have hgreatest : String.ofList greatest.text = "106751991167300 15:30:07.999999999" := by
    decide +kernel
  have hnormal : quarter.IsNormal := by decide
  have hnormal' : greatest.IsNormal := by decide
  rw [← hquarter, ← hgreatest]
  exact ⟨hnormal, by decide, hnormal', by decide, parse_displayed quarter hnormal (by decide),
    parse_displayed greatest hnormal' (by decide)⟩

end DayTime

end SqlAccess
