import SqlAccess.Proofs.Interval.Grammar

/-!
# Literals of day-time intervals

Days and clock of a literal are read as integers, which may have signs of their own. So a text is
read exactly if it is a literal with groups that may have signs and if its seconds fit
(`DayTime.ofText?_eq_some_iff`). Where no sign stands at the start of a group, only groups of digits
are left, and the interval is the one that the literal says (`DayTime.parse_literal`).
-/

namespace SqlAccess

open SqlAccess.Text SqlAccess.Number
open Calendar.Offset (IsNumber IsSigned signed?_eq_some_iff natOfDigits?_eq_some_iff_isNumber)

/-! ## Signs and integers of a literal -/

/-- A minus sign that is or is not written in front of a body, which starts in a digit, is the sign
of the text. -/
theorem splitSign_of_digit {body : List Char} (htight : Tight body)
    (hstart : ∀ c ∈ body.head?, c.isDigit = true) (negative : Bool) :
    splitSign (trim ((if negative then ['-'] else []) ++ body)) = (negative, body) := by
  cases negative with
  | false =>
    change splitSign (trim body) = _
    rw [htight.trim_eq_self]
    -- No sign is a digit.
    unfold splitSign
    split
    · exact absurd (hstart _ rfl) (by decide)
    · exact absurd (hstart _ rfl) (by decide)
    · rfl
  | true =>
    have htight' : Tight ('-' :: body) := ⟨fun c hc => by cases hc; rfl, htight.stop.cons rfl⟩
    change splitSign (trim ('-' :: body)) = _
    rw [htight'.trim_eq_self]
    rfl

namespace YearMonth

/-- An integer of 64 bits is read from digits that may have a sign. -/
theorem wideInteger?_eq_some_iff {s : List Char} {k : Int64} :
    wideInteger? s = some k ↔ IsSigned s k.toInt := by
  rw [wideInteger?, Option.bind_eq_some_iff]
  constructor
  · rintro ⟨n, hsigned, hfits⟩
    rw [int64?_eq_some_iff.1 hfits]
    exact signed?_eq_some_iff.1 hsigned
  · intro h
    exact ⟨_, signed?_eq_some_iff.2 h, int64?_toInt k⟩

end YearMonth

namespace DayTime

variable {s body clock point time : List Char} {f days : Int} {ofDay fraction : Nat}

/-! ## Reading part by part -/

/-- The factor of a literal that is negative, or that is not. -/
def factor (negative : Bool) : Int :=
  if negative then -1 else 1

/-- To negate seconds and nanoseconds is to multiply them by the factor of the sign. -/
theorem ofSecondsNanos_factor (negative : Bool) (seconds nanos : Int) :
    (if negative then ofSecondsNanos (-seconds) (-nanos) else ofSecondsNanos seconds nanos) =
      ofSecondsNanos (factor negative * seconds) (factor negative * nanos) := by
  cases negative <;> simp [factor]

/-- The sign of a text is split off as it is written. -/
theorem hasSign_iff :
    HasSign s f body ↔ ∃ negative, splitSign s = (negative, body) ∧ factor negative = f := by
  constructor
  · intro h
    cases h with
    | sign hsign => cases hsign <;> exact ⟨_, rfl, rfl⟩
    | unsigned h =>
      refine ⟨false, ?_, rfl⟩
      unfold splitSign
      split
      · simp at h
      · simp at h
      · rfl
  · rintro ⟨negative, hsplit, rfl⟩
    unfold splitSign at hsplit
    split at hsplit
    · cases hsplit
      exact .sign .minus
    · cases hsplit
      exact .sign .plus
    · -- A text that starts with no sign is its own body.
      next hminus hplus =>
      cases hsplit
      refine .unsigned fun c hc => ?_
      cases s with
      | nil => cases hc
      | cons d rest =>
        cases hc
        simp only [List.mem_cons, List.not_mem_nil, or_false, not_or]
        exact ⟨fun h => hplus rest (h ▸ rfl), fun h => hminus rest (h ▸ rfl)⟩

/-- A field of the clock is read from a group that is below its limit. -/
theorem clockField?_eq_some_iff {limit n : Nat} (hlimit : limit ≤ 60) :
    clockField? limit s = some n ↔ IsSigned s n ∧ n < limit := by
  unfold clockField?
  simp only [bind, Option.bind_eq_some_iff, YearMonth.wideInteger?_eq_some_iff]
  constructor
  · rintro ⟨k, hsigned, hrange⟩
    split at hrange
    · next h =>
      cases hrange
      rw [Int.natAbs_of_nonneg h.1]
      exact ⟨hsigned, by omega⟩
    · cases hrange
  · rintro ⟨hsigned, hlt⟩
    -- A number below the limit fits 64 bits by far.
    obtain ⟨k, hk⟩ : ∃ k : Int64, k.toInt = n :=
      fitsBits_64_iff_exists.1 (fitsBits_64_iff.2 (by omega))
    refine ⟨k, hk ▸ hsigned, ?_⟩
    rw [if_pos (by omega), hk, Int.natAbs_natCast]

/-- A clock is read from its three groups. -/
theorem clockSeconds?_eq_some_iff : clockSeconds? s = some ofDay ↔ IsClock IsSigned s ofDay := by
  constructor
  · intro h
    unfold clockSeconds? at h
    split at h
    · next hours minutes seconds hsplit =>
      simp only [bind, Option.bind_eq_some_iff, clockField?_eq_some_iff (show 24 ≤ 60 by decide),
        clockField?_eq_some_iff (Nat.le_refl 60), pure, Option.some.injEq] at h
      obtain ⟨_, ⟨hhours, hours_lt⟩, _, ⟨hminutes, minutes_lt⟩, _, ⟨hseconds, seconds_lt⟩, rfl⟩ := h
      -- The text is its groups with the colons put back.
      have hjoin : [':'].intercalate (s.splitOn ':') = s := List.intercalate_splitOn ':'
      rw [hsplit] at hjoin
      rw [← hjoin]
      simpa [List.intercalate_cons_cons] using
        IsClock.mk hhours hminutes hseconds hours_lt minutes_lt seconds_lt
    · cases h
  · intro h
    cases h with
    | @mk t u v hours minutes seconds hhours hminutes hseconds hours_lt minutes_lt seconds_lt =>
      have hsplit : (t ++ ':' :: (u ++ ':' :: v)).splitOn ':' = [t, u, v] := by
        have hgroups : ∀ l ∈ [t, u, v], ':' ∉ l := by
          simp [hhours.not_mem_colon, hminutes.not_mem_colon, hseconds.not_mem_colon]
        have hcut := List.splitOn_intercalate ':' hgroups (by simp)
        simpa [List.intercalate_cons_cons] using hcut
      have hread : clockField? 24 t = some hours :=
        (clockField?_eq_some_iff (by decide)).2 ⟨hhours, hours_lt⟩
      have hread' : clockField? 60 u = some minutes :=
        (clockField?_eq_some_iff (by decide)).2 ⟨hminutes, minutes_lt⟩
      have hread'' : clockField? 60 v = some seconds :=
        (clockField?_eq_some_iff (by decide)).2 ⟨hseconds, seconds_lt⟩
      simp only [clockSeconds?, hsplit, hread, hread', hread'']
      rfl

/-- A fraction is read from one to nine digits. -/
theorem fractionNanos?_eq_some_iff {digits : List Char} :
    fractionNanos? digits = some fraction ↔ IsFraction ('.' :: digits) fraction := by
  unfold fractionNanos?
  constructor
  · intro h
    split at h
    · next hlength =>
      obtain ⟨n, hn, rfl⟩ := Option.map_eq_some_iff.1 h
      exact .digits (natOfDigits?_eq_some_iff_isNumber.1 hn) hlength
    · cases h
  · rintro ⟨hdigits, hlength⟩
    rw [if_pos hlength, natOfDigits?_eq_some_iff_isNumber.2 hdigits]
    rfl

/-- The days of a body and the time behind them. -/
def days? (body : List Char) : Option (Int × List Char) :=
  match cutFirst ' ' body with
  | some (days, rest) => (YearMonth.wideInteger? days).map fun n => (n.toInt, trim rest)
  | none => some (0, body)

/-- The clock of a time and the nanoseconds behind its point. -/
def nanos? (time : List Char) : Option (List Char × Nat) :=
  match cutFirst '.' time with
  | some (clock, fraction) => (fractionNanos? fraction).map fun n => (clock, n)
  | none => some (time, 0)

/-- The seconds of a literal, if they and those of its days alone fit. -/
def whole? (days : Int) (ofDay : Nat) : Option Int64 := do
  let base ← int64? (days * 86400)
  int64? (base.toInt + ofDay)

/-- A literal is read part by part. -/
theorem ofText?_eq (s : List Char) :
    ofText? s = do
      let (days, time) ← days? (splitSign (trim s)).2
      let (clock, nanos) ← nanos? time
      let ofDay ← clockSeconds? clock
      let whole ← whole? days ofDay
      return ofSecondsNanos (factor (splitSign (trim s)).1 * whole.toInt)
        (factor (splitSign (trim s)).1 * nanos) := by
  unfold ofText? days? nanos? whole?
  obtain ⟨negative, body⟩ := splitSign (trim s)
  -- Both sides bind the same steps behind the two cuts, one by one or in pairs.
  simp only [bind, pure, Option.bind_assoc, ofSecondsNanos_factor]
  cases cutFirst ' ' body with
  | none =>
    simp only [Option.bind_some]
    cases cutFirst '.' body with
    | none => rfl
    | some point => simp only [Option.bind_map, Function.comp_def]
  | some days =>
    simp only [Option.bind_map, Function.comp_def, Option.bind_some]
    refine congrArg _ (funext fun n => ?_)
    cases cutFirst '.' (trim days.2) with
    | none => rfl
    | some point => simp only [Option.bind_map, Function.comp_def]

/-- What is read as the days of a body stands in front of its time. -/
theorem hasDays_of_days? (htight : EndsTight body) (h : days? body = some (days, time)) :
    HasDays IsSigned body days time := by
  unfold days? at h
  split at h
  · next group rest hcut =>
    obtain ⟨n, hn, heq⟩ := Option.map_eq_some_iff.1 h
    cases heq
    rw [cutFirst_eq_some hcut] at htight ⊢
    -- The body ends tight, so that only the blanks behind the space are cut off.
    obtain ⟨blanks, hblanks, hrest⟩ := exists_blanks_trimStart rest
    have hend : EndsTight (trimStart rest) := by
      refine EndsTight.of_append (a := group ++ ' ' :: blanks) ?_
      rw [hrest] at htight
      simpa using htight
    have hwrites := @HasDays.days IsSigned group blanks (trimStart rest) n.toInt
      (YearMonth.wideInteger?_eq_some_iff.1 hn) hblanks
    rw [trim, hend.trimEnd_eq_self]
    rwa [← hrest] at hwrites
  · cases h
    exact .none

/-- The days of a body are read if they fit, and the time behind them is left. -/
theorem HasDays.days?_eq (h : HasDays IsSigned body days time) (hfits : FitsBits 64 days)
    (hspace : ' ' ∉ time) (htight : Tight time) : days? body = some (days, time) := by
  unfold days?
  cases h with
  | days hdays hblanks =>
    obtain ⟨n, rfl⟩ := fitsBits_64_iff_exists.1 hfits
    -- The first space is the one behind the group.
    rw [cutFirst_append (hdays.not_mem (by decide) (by decide))]
    simp only [YearMonth.wideInteger?_eq_some_iff.2 hdays, Option.map_some, trim,
      trimStart_append hblanks]
    rw [← trim, htight.trim_eq_self]
  | none => rw [cutFirst_eq_none hspace]

/-- What is read as nanoseconds stands behind the clock. -/
theorem isFraction_of_nanos? (h : nanos? time = some (clock, fraction)) :
    ∃ point, time = clock ++ point ∧ IsFraction point fraction := by
  unfold nanos? at h
  split at h
  · next digits hcut =>
    obtain ⟨n, hn, heq⟩ := Option.map_eq_some_iff.1 h
    cases heq
    exact ⟨_, cutFirst_eq_some hcut, fractionNanos?_eq_some_iff.1 hn⟩
  · cases h
    exact ⟨[], (List.append_nil _).symm, .none⟩

/-- The fraction behind a clock is read. -/
theorem IsFraction.nanos?_eq (h : IsFraction point fraction) (hpoint : '.' ∉ clock) :
    nanos? (clock ++ point) = some (clock, fraction) := by
  unfold nanos?
  cases h with
  | digits hdigits hlength =>
    rw [cutFirst_append hpoint]
    simp only [fractionNanos?_eq_some_iff.2 (.digits hdigits hlength), Option.map_some]
  | none => rw [List.append_nil, cutFirst_eq_none hpoint]

/-- Days and time of the day add up if the days alone and the sum fit 64 bits. -/
theorem whole?_eq_some_iff {k : Int64} :
    whole? days ofDay = some k ↔ FitsBits 64 (days * 86400) ∧ k.toInt = days * 86400 + ofDay := by
  unfold whole?
  simp only [bind, Option.bind_eq_some_iff, int64?_eq_some_iff]
  constructor
  · rintro ⟨base, hbase, hk⟩
    exact ⟨hbase ▸ fitsBits_64_toInt base, hbase ▸ hk⟩
  · rintro ⟨hfits, hk⟩
    obtain ⟨base, hbase⟩ := fitsBits_64_iff_exists.1 hfits
    exact ⟨base, hbase, hbase.symm ▸ hk⟩

/-! ## What is read -/

/-- What is read is a literal with groups that may have signs. -/
theorem exists_writes {i : DayTime} (h : ofText? s = some i) :
    ∃ p, Writes IsSigned s p ∧ FitsBits 64 (p.days * 86400) ∧ FitsBits 64 p.whole ∧
      i = ofSecondsNanos (p.sign * p.whole) (p.sign * p.fraction) := by
  rw [ofText?_eq] at h
  simp only [bind, Option.bind_eq_some_iff, pure, Option.some.injEq, Prod.exists] at h
  obtain ⟨days, time, hdays, clock, fraction, htime, ofDay, hclock, whole, hwhole, hi⟩ := h
  have hsign : HasSign (trim s) (factor (splitSign (trim s)).1) (splitSign (trim s)).2 :=
    hasSign_iff.2 ⟨_, rfl, rfl⟩
  obtain ⟨hfits, hvalue⟩ := whole?_eq_some_iff.1 hwhole
  obtain ⟨point, rfl, hpoint⟩ := isFraction_of_nanos? htime
  have hdays' := hasDays_of_days? (hsign.endsTight (endsTight_trim s)) hdays
  refine ⟨⟨factor (splitSign (trim s)).1, days, ofDay, fraction⟩, ⟨_, clock, point, hsign, hdays',
    clockSeconds?_eq_some_iff.1 hclock, hpoint⟩, hfits, ?_, ?_⟩
  · rw [Parts.whole, ← hvalue]
    exact fitsBits_64_toInt whole
  · rw [← hi, Parts.whole, ← hvalue]

/-- A literal with groups that may have signs is read, if the seconds of its days and of the whole
fit. -/
theorem Writes.ofText?_eq {p : Parts} (h : Writes IsSigned s p)
    (hdays : FitsBits 64 (p.days * 86400)) (hwhole : FitsBits 64 p.whole) :
    ofText? s = some (ofSecondsNanos (p.sign * p.whole) (p.sign * p.fraction)) := by
  obtain ⟨body, clock, point, hsign, hbody, hclock, hpoint⟩ := h
  -- No separator stands in front of the place where it is looked for.
  have htime := isBlank_eq_false_of_mem_time hclock hpoint
  have hspace : ' ' ∉ clock ++ point := not_mem_time hclock hpoint (by decide) (by decide)
  have hdot : '.' ∉ clock :=
    hclock.not_mem (fun s n h => h.not_mem (by decide) (by decide)) (by decide)
  -- The days are in range as soon as their seconds are.
  have hfits : FitsBits 64 p.days := by
    rw [fitsBits_64_iff] at hdays ⊢
    omega
  obtain ⟨negative, hsplit, hf⟩ := hasSign_iff.1 hsign
  obtain ⟨whole, hvalue⟩ := fitsBits_64_iff_exists.1 hwhole
  rw [DayTime.ofText?_eq, hsplit]
  simp only [hbody.days?_eq hfits hspace (tight_of_forall htime), hpoint.nanos?_eq hdot,
    clockSeconds?_eq_some_iff.2 hclock, whole?_eq_some_iff.2 ⟨hdays, hvalue⟩, bind,
    Option.bind_some, pure, hvalue, hf]

/-- A text is read exactly if it is a literal with groups that may have signs, and if the seconds
of its days and of the whole fit. -/
theorem ofText?_eq_some_iff {i : DayTime} :
    ofText? s = some i ↔ ∃ p, Writes IsSigned s p ∧ FitsBits 64 (p.days * 86400) ∧
      FitsBits 64 p.whole ∧ i = ofSecondsNanos (p.sign * p.whole) (p.sign * p.fraction) := by
  constructor
  · exact exists_writes
  · rintro ⟨p, hwrites, hdays, hwhole, rfl⟩
    exact hwrites.ofText?_eq hdays hwhole

/-- Where no sign stands at the start of a group, just the literals with groups of digits are read,
for what they say. -/
theorem ofText?_of_not_signsGroup (hgroups : ¬SignsGroup (trim s)) {i : DayTime} :
    ofText? s = some i ↔ ∃ p, Writes IsNumber s p ∧ FitsBits 64 p.whole ∧
      i.seconds.toInt = p.sign * p.whole ∧ i.nanos = p.sign * p.fraction := by
  rw [ofText?_eq_some_iff]
  constructor
  · rintro ⟨p, hwrites, -, hfits, rfl⟩
    have hnumber := hwrites.number_or_signsGroup.resolve_right hgroups
    exact ⟨p, hnumber, hfits, (hnumber.ofSecondsNanos_eq hfits).2⟩
  · rintro ⟨p, hwrites, hfits, hseconds, hnanos⟩
    obtain ⟨hdays, hseconds', hnanos'⟩ := hwrites.ofSecondsNanos_eq hfits
    exact ⟨p, hwrites.signed, hdays, hfits,
      eq_of_toInt (hseconds.trans hseconds'.symm) (hnanos.trans hnanos'.symm)⟩

/-- Which texts are read, whatever for. -/
theorem exists_ofText?_iff : (∃ i, ofText? s = some i) ↔
    ∃ p, Writes IsSigned s p ∧ FitsBits 64 (p.days * 86400) ∧ FitsBits 64 p.whole := by
  simp only [ofText?_eq_some_iff]
  constructor
  · rintro ⟨i, p, hwrites, hdays, hfits, -⟩
    exact ⟨p, hwrites, hdays, hfits⟩
  · rintro ⟨p, hwrites, hdays, hfits⟩
    exact ⟨_, p, hwrites, hdays, hfits, rfl⟩

/-- Which texts without such signs are read, whatever for. -/
theorem exists_ofText?_of_not_signsGroup (hgroups : ¬SignsGroup (trim s)) :
    (∃ i, ofText? s = some i) ↔ ∃ p, Writes IsNumber s p ∧ FitsBits 64 p.whole := by
  simp only [ofText?_of_not_signsGroup hgroups]
  constructor
  · rintro ⟨i, p, hwrites, hfits, -⟩
    exact ⟨p, hwrites, hfits⟩
  · rintro ⟨p, hwrites, hfits⟩
    exact ⟨_, p, hwrites, hfits, (hwrites.ofSecondsNanos_eq hfits).2⟩

theorem parse_eq_ok_iff {s : String} {i : DayTime} :
    parse s = .ok i ↔ ofText? s.toList = some i := by
  unfold parse
  cases ofText? s.toList <;> simp

theorem parse_eq_error_iff {s : String} {e : Error} :
    parse s = .error e ↔
      e = .invalidFormat .intervalDayToSecond s ∧ ¬∃ i, ofText? s.toList = some i := by
  unfold parse
  cases ofText? s.toList <;> simp [eq_comm]

/-- Where no sign stands at the start of a group, a text is read exactly if it is a literal with
groups of digits and its seconds fit, and then for what it says. Literals with groups of digits have
no such sign. In general a text is read exactly if it is of the same form with groups that may have
signs, and then its seconds and nanoseconds are added up. Every other text is named in the error. -/
theorem parse_literal (s : String) :
    (¬SignsGroup (trim s.toList) →
      (∀ i, parse s = .ok i ↔ ∃ p, Writes IsNumber s.toList p ∧ FitsBits 64 p.whole ∧
        i.seconds.toInt = p.sign * p.whole ∧ i.nanos = p.sign * p.fraction) ∧
      (∀ e, parse s = .error e ↔ e = .invalidFormat .intervalDayToSecond s ∧
        ¬∃ p, Writes IsNumber s.toList p ∧ FitsBits 64 p.whole)) ∧
    (∀ p, Writes IsNumber s.toList p → ¬SignsGroup (trim s.toList)) ∧
    (∀ i, parse s = .ok i ↔ ∃ p, Writes IsSigned s.toList p ∧ FitsBits 64 (p.days * 86400) ∧
      FitsBits 64 p.whole ∧ i = ofSecondsNanos (p.sign * p.whole) (p.sign * p.fraction)) ∧
    (∀ e, parse s = .error e ↔ e = .invalidFormat .intervalDayToSecond s ∧
      ¬∃ p, Writes IsSigned s.toList p ∧ FitsBits 64 (p.days * 86400) ∧ FitsBits 64 p.whole) := by
  refine ⟨fun hgroups => ⟨fun i => ?_, fun e => ?_⟩, fun p => Writes.not_signsGroup, fun i => ?_,
    fun e => ?_⟩
  · rw [parse_eq_ok_iff, ofText?_of_not_signsGroup hgroups]
  · rw [parse_eq_error_iff, exists_ofText?_of_not_signsGroup hgroups]
  · rw [parse_eq_ok_iff, ofText?_eq_some_iff]
  · rw [parse_eq_error_iff, exists_ofText?_iff]

/-- Three days and some hours before now; a day with too many hours; a day with two signs. -/
theorem parse_literal_days :
    (∃ p, Writes IsNumber "-3 04:05:06.5".toList p ∧ p.sign * p.whole = -273906 ∧
      p.sign * p.fraction = -500000000) ∧
    (¬∃ p, Writes IsNumber "1 25:00:00".toList p ∧ FitsBits 64 p.whole) ∧
    ∃ p, Writes IsSigned "-+1 00:00:00".toList p ∧
      ofSecondsNanos (p.sign * p.whole) (p.sign * p.fraction) = ofSeconds (-86400) := by
  obtain ⟨hnegative, -⟩ := parse_literal "-3 04:05:06.5"
  obtain ⟨hhours, -⟩ := parse_literal "1 25:00:00"
  obtain ⟨-, -, hsigned, -⟩ := parse_literal "-+1 00:00:00"
  have hplain : ¬SignsGroup (trim "-3 04:05:06.5".toList) :=
    not_signsGroup_of_tail (by decide +kernel) (by decide +kernel)
  have hplain' : ¬SignsGroup (trim "1 25:00:00".toList) :=
    not_signsGroup_of_tail (by decide +kernel) (by decide +kernel)
  have hread : parse "-3 04:05:06.5" = .ok ⟨-273906, -500000000, by decide⟩ := by
    rw [parse_eq_ok_iff]
    decide +kernel
  have herror : parse "1 25:00:00" = .error (.invalidFormat .intervalDayToSecond "1 25:00:00") := by
    have hnone : ofText? "1 25:00:00".toList = none := by decide +kernel
    exact parse_eq_error_iff.2 ⟨rfl, fun ⟨i, hi⟩ => nomatch hnone.symm.trans hi⟩
  have hread' : parse "-+1 00:00:00" = .ok (ofSeconds (-86400)) := by
    rw [parse_eq_ok_iff]
    decide +kernel
  obtain ⟨hok, -⟩ := hnegative hplain
  obtain ⟨-, hfails⟩ := hhours hplain'
  obtain ⟨p, hwrites, -, hseconds, hnanos⟩ := (hok _).1 hread
  obtain ⟨q, hwrites', -, -, hvalue⟩ := (hsigned _).1 hread'
  exact ⟨⟨p, hwrites, hseconds.symm, hnanos.symm⟩, ((hfails _).1 herror).2, q, hwrites',
    hvalue.symm⟩

/-- A day with two signs is no literal of groups of digits, but it is read, as a day in the other
direction than its first sign says. -/
theorem parse_two_signs :
    (∀ p, ¬Writes IsNumber "--1 00:00:00".toList p) ∧
      parse "--1 00:00:00" = .ok (ofSeconds 86400) := by
  have hsigns : SignsGroup (trim "--1 00:00:00".toList) :=
    ⟨[], '-', '-', "1 00:00:00".toList, by decide +kernel, by simp, by simp⟩
  -- Its second sign stands where the group of the days starts.
  refine ⟨fun p hwrites => hwrites.not_signsGroup hsigns, ?_⟩
  rw [parse_eq_ok_iff]
  decide +kernel

end DayTime

end SqlAccess
