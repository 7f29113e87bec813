import SqlAccess.Proofs.Interval.Literal

/-!
# Year-month intervals from their text, and from years and months

The text of an interval is the sign of its months in front of the years and months of their
magnitude. When it is read, years and months are added up to an integer of 64 bits before the sign
is put in front (`YearMonth.ofText?_of_splitSign`). So an interval is read back from its text,
unless its months are the least of 64 bits, whose magnitude does not fit
(`YearMonth.parse_text_of_months`).

Years and months that a client gives are added up as well, and there the months may have a sign of
their own. The years alone have to fit 64 bits too, so that some sums are refused that fit
(`YearMonth.ofYearsMonths_exact_iff`).
-/

namespace SqlAccess

open SqlAccess.Text SqlAccess.Number
open Calendar.Offset (isNumber_paddedDigits)

namespace YearMonth

/-- Years and months for so many months. -/
def magnitudeText (months : Nat) : List Char :=
  paddedDigits 0 (months / 12) ++ '-' :: paddedDigits 0 (months % 12)

theorem text_eq (i : YearMonth) :
    i.text = (if decide (i.months.toInt < 0) then ['-'] else []) ++
      magnitudeText i.months.toInt.natAbs := by
  simp [text, magnitudeText, paddedDigits]

/-- A magnitude has no blanks around it, since it starts and ends in a digit. -/
theorem tight_magnitudeText (months : Nat) : Tight (magnitudeText months) where
  start c hc := isBlank_eq_false_of_isDigit (isDigit_of_mem_head?_paddedDigits 0 _ _ c hc)
  stop := (((endsInDigit_paddedDigits 0 (months % 12)).cons '-').append_left _).endsTight

theorem splitSign_text (i : YearMonth) :
    splitSign (trim i.text) =
      (decide (i.months.toInt < 0), magnitudeText i.months.toInt.natAbs) := by
  rw [text_eq]
  exact splitSign_of_digit (tight_magnitudeText _) (isDigit_of_mem_head?_paddedDigits 0 _ _) _

/-- A padded number is read as an integer of 64 bits if it fits. -/
theorem exists_wideInteger? (width : Nat) {n : Nat} (h : FitsBits 64 n) :
    ∃ k : Int64, wideInteger? (paddedDigits width n) = some k ∧ k.toInt = n := by
  obtain ⟨k, hk⟩ := fitsBits_64_iff_exists.1 h
  refine ⟨k, wideInteger?_eq_some_iff.2 (.number ?_), hk⟩
  rw [hk]
  exact isNumber_paddedDigits width n

/-- Behind the sign, years and months are added up, and the sign is put in front of the sum. -/
theorem ofText?_of_splitSign {s : List Char} {negative : Bool} {months : Nat}
    (hsplit : splitSign (trim s) = (negative, magnitudeText months))
    (hle : months ≤ 9223372036854775808) :
    ofText? s = (int64? months).map fun total => ⟨if negative then -total else total⟩ := by
  have hhyphen : '-' ∉ paddedDigits 0 (months / 12) :=
    (isNumber_paddedDigits 0 (months / 12)).not_mem (by decide)
  obtain ⟨years, hyears, hyears'⟩ :=
    exists_wideInteger? 0 (n := months / 12) (fitsBits_64_iff.2 (by omega))
  obtain ⟨rest, hrest, hrest'⟩ :=
    exists_wideInteger? 0 (n := months % 12) (fitsBits_64_iff.2 (by omega))
  -- The years alone fit. Only the months behind them can go too far.
  obtain ⟨base, hbase⟩ : ∃ base : Int64, base.toInt = years.toInt * 12 :=
    fitsBits_64_iff_exists.1 (fitsBits_64_iff.2 (by omega))
  have hsum : base.toInt + rest.toInt = months := by omega
  unfold ofText?
  rw [hsplit, magnitudeText]
  simp only [cutFirst_append hhyphen, hyears, hrest, bind, Option.bind_some, pure]
  rw [if_pos (by omega), ← hbase, int64?_toInt, Option.bind_some, hsum, Option.map_eq_bind]
  rfl

/-- All integers of 64 bits but the least one are a sign in front of a magnitude of 64 bits. -/
theorem exists_magnitude {k : Int64} (h : k ≠ Int64.minValue) :
    ∃ total : Int64, total.toInt = k.toInt.natAbs ∧
      (if decide (k.toInt < 0) then -total else total) = k := by
  have lo := Int64.le_toInt k
  have hi := Int64.toInt_lt k
  have hleast : k.toInt ≠ -9223372036854775808 := fun hk =>
    h (Int64.toInt_inj.1 (hk.trans Int64.toInt_minValue.symm))
  obtain ⟨total, htotal⟩ : ∃ total : Int64, total.toInt = k.toInt.natAbs :=
    fitsBits_64_iff_exists.1 (fitsBits_64_iff.2 (by omega))
  refine ⟨total, htotal, Int64.toInt_inj.1 ?_⟩
  -- Negating a magnitude that fits does not wrap around.
  by_cases hnegative : k.toInt < 0
  · rw [if_pos (decide_eq_true hnegative), toInt_neg_of_fitsBits (fitsBits_64_iff.2 (by omega)),
      htotal]
    omega
  · rw [if_neg (by simpa using hnegative), htotal]
    omega

/-- All months but the least ones are read back. -/
theorem ofText?_text_of_ne {i : YearMonth} (h : i.months ≠ Int64.minValue) :
    ofText? i.text = some i := by
  have lo := Int64.le_toInt i.months
  have hi := Int64.toInt_lt i.months
  obtain ⟨total, htotal, hsign⟩ := exists_magnitude h
  rw [ofText?_of_splitSign i.splitSign_text (by omega), ← htotal, int64?_toInt, Option.map_some,
    hsign]

/-- The magnitude of the least months does not fit, so that they are not read back. -/
theorem ofText?_text_minValue : ofText? (text ⟨Int64.minValue⟩) = none := by
  rw [ofText?_of_splitSign (splitSign_text _) (by decide)]
  rfl

/-- An interval is read back from its text, unless its months are the least of 64 bits. Then the
text is refused. -/
theorem parse_text_of_months (months : Int64) :
    parse (String.ofList (text ⟨months⟩)) =
      if months = Int64.minValue then
        .error (.invalidFormat .intervalYearToMonth (String.ofList (text ⟨months⟩)))
      else .ok ⟨months⟩ := by
  rw [parse, String.toList_ofList]
  by_cases hleast : months = Int64.minValue
  · rw [if_pos hleast, hleast, ofText?_text_minValue]
  · rw [if_neg hleast, ofText?_text_of_ne hleast]

/-- The least months of 64 bits have a text, but it is not read. -/
theorem parse_text_least :
    String.ofList (text ⟨Int64.minValue⟩) = "-768614336404564650-8" ∧
      parse "-768614336404564650-8" =
        .error (.invalidFormat .intervalYearToMonth "-768614336404564650-8") := by
  have htext : String.ofList (text ⟨Int64.minValue⟩) = "-768614336404564650-8" := by
    decide +kernel
  refine ⟨htext, ?_⟩
  rw [← htext, parse, String.toList_ofList, ofText?_text_minValue]

/-! ## Adding up years and months -/

section Sum

variable {years months : Int64}

/-- The years alone are too many months for 64 bits, but the months bring the sum back. -/
def BroughtBack (years months : Int64) : Prop :=
  ¬FitsBits 64 (years.toInt * 12) ∧ FitsBits 64 (years.toInt * 12 + months.toInt)
deriving Decidable

/-- Only months against the direction of the years bring a sum back. -/
theorem BroughtBack.not_signsAgree (h : BroughtBack years months) :
    ¬SignsAgree years.toInt months.toInt := by
  obtain ⟨hbase, htotal⟩ := h
  rw [fitsBits_64_iff] at hbase htotal
  unfold SignsAgree
  omega

/-- Years and months are added up if the years alone and the sum fit. -/
theorem ofYearsMonths_eq_ok_iff {i : YearMonth} :
    ofYearsMonths years months = .ok i ↔
      FitsBits 64 (years.toInt * 12) ∧ i.months.toInt = years.toInt * 12 + months.toInt := by
  -- The two steps are the years in months, and the months added to them.
  have hsum {total : Int64} : ((int64? (years.toInt * 12)).bind fun base =>
      int64? (base.toInt + months.toInt)) = some total ↔
        FitsBits 64 (years.toInt * 12) ∧ total.toInt = years.toInt * 12 + months.toInt := by
    simp only [Option.bind_eq_some_iff, int64?_eq_some_iff, fitsBits_64_iff_exists]
    constructor
    · rintro ⟨base, hbase, htotal⟩
      exact ⟨⟨base, hbase⟩, hbase ▸ htotal⟩
    · rintro ⟨⟨base, hbase⟩, htotal⟩
      exact ⟨base, hbase, hbase.symm ▸ htotal⟩
  rw [← hsum]
  unfold ofYearsMonths
  simp only [bind]
  split
  · next total htotal =>
    rw [htotal, Except.ok.injEq, Option.some.injEq]
    exact ⟨fun h => h ▸ rfl, fun h => h ▸ rfl⟩
  · next hnone =>
    rw [hnone]
    exact iff_of_false nofun nofun

/-- Which years and months make an interval. -/
theorem exists_ofYearsMonths_eq_ok_iff :
    (∃ i, ofYearsMonths years months = .ok i) ↔
      FitsBits 64 (years.toInt * 12) ∧ FitsBits 64 (years.toInt * 12 + months.toInt) := by
  simp only [ofYearsMonths_eq_ok_iff, exists_and_left, fitsBits_64_iff_exists (n := _ + _)]
  refine and_congr_right fun _ => ⟨?_, ?_⟩
  · rintro ⟨i, htotal⟩
    exact ⟨i.months, htotal⟩
  · rintro ⟨total, htotal⟩
    exact ⟨⟨total⟩, htotal⟩

/-- What is not answered with a sum is out of range. -/
theorem ofYearsMonths_eq_error_iff :
    ofYearsMonths years months = .error (.numericOutOfRange .intervalYearToMonth
        s!"{years.toInt} years {months.toInt} months") ↔
      ¬FitsBits 64 (years.toInt * 12 + months.toInt) ∨ BroughtBack years months := by
  -- There is one error, for all sums that are refused.
  have hanswer : ofYearsMonths years months = .error (.numericOutOfRange .intervalYearToMonth
        s!"{years.toInt} years {months.toInt} months") ↔
      ¬∃ i, ofYearsMonths years months = .ok i := by
    unfold ofYearsMonths
    simp only
    split
    · exact iff_of_false nofun (not_not_intro ⟨_, rfl⟩)
    · exact iff_of_true rfl nofun
  rw [hanswer, exists_ofYearsMonths_eq_ok_iff, BroughtBack]
  by_cases hbase : FitsBits 64 (years.toInt * 12)
  · simp [hbase]
  · simp only [hbase, false_and, not_false_eq_true, true_and, true_iff]
    exact (em _).symm

/-- Years and months make an interval of just their sum if this fits 64 bits, and are out of range
if it does not, unless the years alone are too many months and the months bring the sum back. Then
the sum fits, but they are out of range. Without opposite signs this cannot be, and no answer is an
interval of other months. -/
theorem ofYearsMonths_exact_iff (years months : Int64) :
    let total := years.toInt * 12 + months.toInt
    let refused := Error.numericOutOfRange .intervalYearToMonth
      s!"{years.toInt} years {months.toInt} months"
    (((∃ i, ofYearsMonths years months = .ok i ∧ i.months.toInt = total) ↔ FitsBits 64 total) ∧
        (ofYearsMonths years months = .error refused ↔ ¬FitsBits 64 total) ↔
          ¬BroughtBack years months) ∧
      (∀ i, ofYearsMonths years months = .ok i ↔
        FitsBits 64 (years.toInt * 12) ∧ i.months.toInt = total) ∧
      (ofYearsMonths years months = .error refused ↔
        ¬FitsBits 64 total ∨ BroughtBack years months) ∧
      ¬(BroughtBack years months ∧ SignsAgree years.toInt months.toInt) := by
  intro total refused
  have hsum : (∃ i, ofYearsMonths years months = .ok i ∧ i.months.toInt = total) ↔
      FitsBits 64 (years.toInt * 12) ∧ FitsBits 64 total := by
    rw [← exists_ofYearsMonths_eq_ok_iff]
    exact exists_congr fun i => and_iff_left_of_imp fun h => (ofYearsMonths_eq_ok_iff.1 h).2
  refine ⟨?_, fun i => ofYearsMonths_eq_ok_iff, ofYearsMonths_eq_error_iff,
    fun ⟨hback, hsigns⟩ => hback.not_signsAgree hsigns⟩
  rw [hsum, ofYearsMonths_eq_error_iff]
  by_cases hback : BroughtBack years months
  · exact iff_of_false (fun h => hback.1 (h.1.2 hback.2).1) (not_not_intro hback)
  · -- If the sum fits, so do the years alone.
    refine iff_of_true ⟨and_iff_right_of_imp fun htotal => ?_, or_iff_left hback⟩ hback
    by_contra hbase
    exact hback ⟨hbase, htotal⟩

/-- Ten months less than so many years fit, but the years alone do not. The interval is made from
one year less and two months. -/
theorem ofYearsMonths_brought_back :
    FitsBits 64 ((768614336404564651 : Int64).toInt * 12 + (-10 : Int64).toInt) ∧
      ofYearsMonths 768614336404564651 (-10) =
        .error (.numericOutOfRange .intervalYearToMonth "768614336404564651 years -10 months") ∧
      ofYearsMonths 768614336404564650 2 = .ok ⟨9223372036854775802⟩ ∧
      (9223372036854775802 : Int64).toInt =
        (768614336404564651 : Int64).toInt * 12 + (-10 : Int64).toInt := by
  decide +kernel

end Sum

end YearMonth

end SqlAccess
