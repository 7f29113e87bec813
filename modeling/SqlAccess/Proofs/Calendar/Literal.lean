import Mathlib.Data.List.Basic
import SqlAccess.Calendar.Literal
import SqlAccess.Proofs.Text.Digits

/-!
# Reading back what was written

Every reader takes the text of a value off the front of a longer text, whatever comes after it, and
gives the value and the rest. Only numbers without a fixed width need to know that they are at their
end (`EndsNumber`). The readers of whole literals follow from this (`Date.ofText?_text` and so on):
the text of a value is taken by the first format that they try.

A text shows a leap second as the second 60, so that there is one reading for it: the leap second
after 59. A leap second that is counted on another second of the minute has the text of the second
after it. `TimeOfDay.shown` is the time that a text stands for, and it is the time that was written
for all other times.
-/

namespace SqlAccess.Calendar

open SqlAccess.Text

/-! ## Fields -/

/-- A text that does not go on with a number: it starts with neither a digit nor a point. -/
def EndsNumber (rest : List Char) : Prop :=
  ∀ c ∈ rest.head?, c.isDigit = false ∧ c ≠ '.'

theorem endsNumber_nil : EndsNumber [] := nofun

theorem endsNumber_cons {c : Char} (hdigit : c.isDigit = false) (hpoint : c ≠ '.')
    (rest : List Char) : EndsNumber (c :: rest) := by
  rintro _ ⟨⟩
  exact ⟨hdigit, hpoint⟩

/-- No digit is taken from a text that does not go on with a number, whatever the limit. -/
theorem EndsNumber.takeWhile_take_eq_nil {rest : List Char} (h : EndsNumber rest) (n : Nat) :
    (rest.take n).takeWhile Char.isDigit = [] := by
  cases rest with
  | nil => simp
  | cons c rest =>
    cases n with
    | zero => simp
    | succ n => simp [(h c rfl).1]

theorem EndsNumber.dropWhile_eq_self {rest : List Char} (h : EndsNumber rest) :
    rest.dropWhile Char.isDigit = rest := by
  cases rest with
  | nil => rfl
  | cons c rest => simp [(h c rfl).1]

/-- All digits are taken, up to the limit or up to the end of the number. -/
theorem takeDigits_append {limit : Nat} {digits rest : List Char} (hne : digits ≠ [])
    (hdigits : ∀ c ∈ digits, c.isDigit = true) (hlimit : digits.length ≤ limit)
    (hrest : digits.length = limit ∨ EndsNumber rest) :
    takeDigits limit (digits ++ rest) = some (digitsValue digits, rest) := by
  -- What the limit lets through behind the digits does not start with a digit.
  have htaken : ((digits ++ rest).take limit).takeWhile Char.isDigit = digits := by
    rw [List.take_append, List.take_of_length_le hlimit, List.takeWhile_append_of_pos hdigits]
    rcases hrest with hfull | hrest
    · rw [hfull, Nat.sub_self, List.take_zero, List.takeWhile_nil, List.append_nil]
    · rw [hrest.takeWhile_take_eq_nil, List.append_nil]
  rw [takeDigits, htaken]
  simp [hne]

/-- A number is taken back with its padding, if the limit or the text behind it ends it. -/
theorem takeDigits_paddedDigits {limit width n : Nat} {rest : List Char}
    (hlimit : (paddedDigits width n).length ≤ limit)
    (hrest : (paddedDigits width n).length = limit ∨ EndsNumber rest) :
    takeDigits limit (paddedDigits width n ++ rest) = some (n, rest) := by
  rw [takeDigits_append (paddedDigits_ne_nil width n)
    (fun _ hc => isDigit_of_mem_paddedDigits hc) hlimit hrest, digitsValue_paddedDigits]

/-- A field of two digits is taken back whatever follows it, since the width ends it. -/
theorem takeField_paddedDigits {lo hi n : Nat} (hlo : lo ≤ n) (hhi : n ≤ hi) (hn : n < 100)
    (rest : List Char) :
    takeField 2 lo hi (paddedDigits 2 n ++ rest) = some (n, rest) := by
  have hlength : (paddedDigits 2 n).length = 2 := length_paddedDigits (by decide) hn
  rw [takeField, trimStart_paddedDigits, takeDigits_paddedDigits hlength.le (.inl hlength)]
  simp [hlo, hhi]

theorem takeChar_cons (c : Char) (rest : List Char) : takeChar c (c :: rest) = some rest := by
  simp [takeChar]

/-! ## Dates -/

theorem Date.ofParts?_eq_some {d : Date} (h : d.inRange = true) :
    Date.ofParts? d.year d.month d.day = some d := by
  rw [ofParts?, dif_pos ⟨d.day_pos, d.day_le⟩]
  exact if_pos h

/-- No month has more than 31 days, so that the day fits its field. -/
theorem Date.day_le_31 (d : Date) : d.day ≤ 31 := by
  have hfebruary : (if isLeapYear d.year then 29 else 28) ≤ 31 := by split <;> decide
  refine d.day_le.trans ?_
  unfold daysInMonth
  split <;> first | exact hfebruary | decide

theorem takeYear_minus (digits : List Char) :
    takeYear ('-' :: digits) =
      (takeDigits digits.length digits).map fun (n, rest) => (-(n : Int), rest) := rfl

theorem takeYear_plus (digits : List Char) :
    takeYear ('+' :: digits) =
      (takeDigits digits.length digits).map fun (n, rest) => ((n : Int), rest) := rfl

/-- A year ends at the hyphen after it, also if it has a sign and more than four digits. -/
theorem takeYear_yearText (year : Int) (rest : List Char) :
    takeYear (Date.yearText year ++ '-' :: rest) = some (year, '-' :: rest) := by
  unfold Date.yearText
  by_cases hplain : 0 ≤ year ∧ year ≤ 9999
  · have hlength : (paddedDigits 4 year.natAbs).length = 4 :=
      length_paddedDigits (by decide) (show year.natAbs < 10000 by omega)
    -- The first character is a digit, and so no sign.
    have hsign {c : Char} (hc : c.isDigit = false) (after : List Char) :
        paddedDigits 4 year.natAbs ++ '-' :: rest ≠ c :: after :=
      paddedDigits_append_ne_cons 4 year.natAbs _ hc after
    rw [if_pos hplain, takeYear, trimStart_paddedDigits]
    split
    · next heq => exact absurd heq (hsign (by decide) _)
    · next heq => exact absurd heq (hsign (by decide) _)
    · rw [takeDigits_paddedDigits hlength.le (.inl hlength), Option.map_some]
      dsimp only
      rw [Int.natAbs_of_nonneg hplain.1]
  · -- Behind a sign the limit is the rest of the text, so that it is the hyphen that ends the year.
    have hdigits : takeDigits (paddedDigits 4 year.natAbs ++ '-' :: rest).length
        (paddedDigits 4 year.natAbs ++ '-' :: rest) = some (year.natAbs, '-' :: rest) :=
      takeDigits_paddedDigits (by simp) (.inr (endsNumber_cons (by decide) (by decide) rest))
    rw [if_neg hplain, List.cons_append]
    by_cases hneg : year < 0
    · rw [if_pos hneg, takeYear_minus, hdigits, Option.map_some]
      dsimp only
      rw [Int.ofNat_natAbs_of_nonpos (Int.le_of_lt hneg), Int.neg_neg]
    · rw [if_neg hneg, takeYear_plus, hdigits, Option.map_some]
      dsimp only
      rw [Int.natAbs_of_nonneg (by omega)]

/-- A date within the range of years is taken off the front of a text. -/
theorem takeDate_text {d : Date} (h : d.inRange = true) (rest : List Char) :
    takeDate (d.text ++ rest) = some (d, rest) := by
  obtain ⟨hfirst, hlast⟩ := d.month_range
  have hday := d.day_le_31
  have hmonthField := takeField_paddedDigits hfirst hlast (by omega)
    ('-' :: (paddedDigits 2 d.day ++ rest))
  have hdayField := takeField_paddedDigits d.day_pos hday (by omega) rest
  -- The year ends at its hyphen, the month and the day at their width.
  rw [Date.text, List.append_assoc, List.append_assoc, List.cons_append, List.cons_append,
    takeDate, takeYear_yearText]
  simp only [bind, Option.bind, takeChar_cons, hmonthField, hdayField, Date.ofParts?_eq_some h]
  rfl

/-! ## Times of day -/

namespace TimeOfDay

theorem hour_lt (t : TimeOfDay) : t.hour < 24 := by
  have := t.second_lt
  unfold hour
  omega

theorem minute_lt (t : TimeOfDay) : t.minute < 60 :=
  Nat.mod_lt _ (by decide)

theorem secondOfMinute_lt (t : TimeOfDay) : t.secondOfMinute < 60 :=
  Nat.mod_lt _ (by decide)

/-- The second after a leap second that is not counted on second 59 is on the same day. -/
theorem shown_lt {t : TimeOfDay} (h : t.isLeap = true ∧ t.secondOfMinute ≠ 59) :
    t.second + 1 < 86400 := by
  have := t.second_lt
  have := h.2
  unfold secondOfMinute at this
  omega

/-- The time that the text of a time shows. A leap second that is not counted on the second 59 has
the text of the next second. -/
def shown (t : TimeOfDay) : TimeOfDay :=
  if h : t.isLeap = true ∧ t.secondOfMinute ≠ 59 then
    ⟨t.second + 1, t.nano - 1000000000, shown_lt h, by have := t.nano_lt; omega⟩
  else t

/-- A time is shown as it is, unless it is one of a leap second off the second 59. -/
theorem shown_eq_self_iff {t : TimeOfDay} :
    t.shown = t ↔ (t.isLeap = true → t.secondOfMinute = 59) := by
  by_cases hshown : t.isLeap = true ∧ t.secondOfMinute ≠ 59
  · rw [shown, dif_pos hshown]
    refine iff_of_false (fun hsame => ?_) fun h => hshown.2 (h hshown.1)
    exact Nat.succ_ne_self _ (congrArg second hsame)
  · rw [shown, dif_neg hshown]
    exact iff_of_true rfl fun hleap => not_not.1 fun hlast => hshown ⟨hleap, hlast⟩

/-- A time is made again from its parts, if a leap second is one on the second 59. -/
theorem ofParts?_parts {t : TimeOfDay} (h : t.isLeap = true → t.secondOfMinute = 59) :
    ofParts? t.hour t.minute t.secondOfMinute t.nano = some t := by
  have hplain : t.nano < 1000000000 ∨ t.secondOfMinute = 59 := by
    by_cases hleap : 1000000000 ≤ t.nano
    · exact .inr (h (decide_eq_true hleap))
    · exact .inl (Nat.lt_of_not_le hleap)
  rw [ofParts?, dif_pos ⟨⟨t.hour_lt, t.minute_lt, t.secondOfMinute_lt⟩, t.nano_lt, hplain⟩]
  obtain ⟨second, nano, _, _⟩ := t
  simp only [hour, minute, secondOfMinute, Option.some.injEq, mk.injEq, and_true]
  omega

/-- A leap second off the second 59 is shown as an ordinary time of the next second. -/
theorem shown_of_leap {t : TimeOfDay} (hleap : t.isLeap = true) (hlast : t.secondOfMinute ≠ 59) :
    t.shown.isLeap = false ∧ t.shown.hour = t.hour ∧ t.shown.minute = t.minute ∧
      t.shown.secondOfMinute = t.secondOfMinute + 1 ∧ t.shown.nano = t.nano % 1000000000 := by
  have hnano := t.nano_lt
  rw [shown, dif_pos ⟨hleap, hlast⟩]
  simp only [isLeap, decide_eq_true_eq] at hleap
  simp only [isLeap, hour, minute, secondOfMinute, decide_eq_false_iff_not] at hlast ⊢
  omega

/-- The parts that a clock shows are those of the time that its text shows. -/
theorem ofParts?_clock (t : TimeOfDay) :
    (if t.secondOfMinute + t.nano / 1000000000 = 60 then
      ofParts? t.hour t.minute 59 (1000000000 + t.nano % 1000000000)
    else
      ofParts? t.hour t.minute (t.secondOfMinute + t.nano / 1000000000) (t.nano % 1000000000)) =
      some t.shown := by
  have hnano := t.nano_lt
  have hsixty := t.secondOfMinute_lt
  -- Only a leap second carries into the second that is shown, and only after 59 it makes 60.
  by_cases hleap : 1000000000 ≤ t.nano
  · -- A leap second: the nanoseconds carry one into the second.
    have hcarry : t.nano / 1000000000 = 1 := by omega
    by_cases hlast : t.secondOfMinute = 59
    · have hcount : 1000000000 + t.nano % 1000000000 = t.nano := by omega
      rw [if_pos (by omega), hcount, ← hlast, ofParts?_parts fun _ => hlast, shown,
        dif_neg fun h => h.2 hlast]
    · obtain ⟨hplain, hhour, hminute, hsecond, hcount⟩ :=
        shown_of_leap (decide_eq_true hleap) hlast
      rw [if_neg (by omega), hcarry, ← hcount, ← hsecond, ← hhour, ← hminute,
        ofParts?_parts (by simp [hplain])]
  · -- Any other time is shown part by part.
    have hplain : t.isLeap = false := decide_eq_false hleap
    have hcarry : t.nano / 1000000000 = 0 := by omega
    have hcount : t.nano % 1000000000 = t.nano := by omega
    rw [if_neg (by omega), hcarry, hcount, Nat.add_zero, ofParts?_parts (by simp [hplain]), shown,
      dif_neg (by simp [hplain])]

/-- The text of a fraction is empty, or a point and digits that stand for the nanoseconds. -/
theorem fractionText_cases (t : TimeOfDay) :
    t.fractionText = [] ∧ t.nano % 1000000000 = 0 ∨
      ∃ width n, t.fractionText = '.' :: paddedDigits width n ∧ 0 < width ∧ width ≤ 9 ∧
        n < Nat.pow 10 width ∧ n * Nat.pow 10 (9 - width) = t.nano % 1000000000 := by
  have hbound : t.nano % 1000000000 < 1000000000 := Nat.mod_lt _ (by decide)
  unfold fractionText
  -- The text depends on the nanoseconds within the second alone: three, six or nine digits.
  generalize t.nano % 1000000000 = nano at *
  dsimp only
  split
  · next hzero => exact .inl ⟨rfl, hzero⟩
  · split
    · have hn : nano / 1000000 < 1000 := by omega
      have hvalue : nano / 1000000 * 1000000 = nano := by omega
      exact .inr ⟨3, _, rfl, by decide, by decide, hn, hvalue⟩
    · split
      · have hn : nano / 1000 < 1000000 := by omega
        have hvalue : nano / 1000 * 1000 = nano := by omega
        exact .inr ⟨6, _, rfl, by decide, by decide, hn, hvalue⟩
      · exact .inr ⟨9, _, rfl, by decide, by decide, hbound, Nat.mul_one nano⟩

end TimeOfDay

/-- Digits behind a point are nanoseconds once zeros bring them to nine. -/
theorem takeFraction_point {width n : Nat} {rest : List Char} (hpos : 0 < width)
    (hwidth : width ≤ 9) (hn : n < Nat.pow 10 width) (hrest : EndsNumber rest) :
    takeFraction ('.' :: paddedDigits width n ++ rest) =
      some (n * Nat.pow 10 (9 - width), rest) := by
  have hlength : (paddedDigits width n).length = width := length_paddedDigits hpos hn
  have htaken : takeDigits 9 (paddedDigits width n ++ rest) = some (n, rest) :=
    takeDigits_paddedDigits (by omega) (.inr hrest)
  -- The reader counts the digits that it took by what the text lost.
  have hcount : (paddedDigits width n ++ rest).length - rest.length = width := by
    rw [List.length_append, hlength, Nat.add_sub_cancel]
  rw [List.cons_append, takeFraction, htaken]
  dsimp only
  rw [hcount, hrest.dropWhile_eq_self]

/-- A fraction is read as its nanoseconds, and no fraction as none. -/
theorem takeFraction_fractionText (t : TimeOfDay) {rest : List Char} (hrest : EndsNumber rest) :
    takeFraction (t.fractionText ++ rest) = some (t.nano % 1000000000, rest) := by
  have hnone : takeFraction rest = some (0, rest) := by
    unfold takeFraction
    split
    · next after => exact absurd rfl (hrest '.' rfl).2
    · rfl
  rcases t.fractionText_cases with ⟨htext, hzero⟩ | ⟨width, n, htext, hpos, hwidth, hn, hvalue⟩
  · rw [htext, List.nil_append, hnone, hzero]
  · rw [htext, takeFraction_point hpos hwidth hn hrest, hvalue]

/-- A text of a time is read as the time that it shows. -/
theorem takeTime_text (t : TimeOfDay) {rest : List Char} (hrest : EndsNumber rest) :
    takeTime (t.text ++ rest) = some (t.shown, rest) := by
  have hhour := t.hour_lt
  have hminute := t.minute_lt
  have hsecond : t.secondOfMinute + t.nano / 1000000000 ≤ 60 := by
    have := t.secondOfMinute_lt
    have := t.nano_lt
    omega
  have hhourField := takeField_paddedDigits (Nat.zero_le t.hour) (Nat.le_of_lt_succ hhour)
    (by omega)
  have hminuteField := takeField_paddedDigits (Nat.zero_le t.minute) (Nat.le_of_lt_succ hminute)
    (by omega)
  have hsecondField := takeField_paddedDigits (Nat.zero_le _) hsecond (by omega)
  -- Fields are read apart, and the second 60 stands for a leap second after 59.
  have hparts := t.ofParts?_clock
  rw [TimeOfDay.text, TimeOfDay.clockText]
  simp only [List.append_assoc, List.cons_append]
  rw [takeTime]
  simp only [bind, Option.bind, takeChar_cons, hhourField, hminuteField, hsecondField,
    takeFraction_fractionText t hrest]
  split
  · next hcount =>
    rw [if_pos hcount] at hparts
    rw [hparts]
    rfl
  · next hcount =>
    rw [if_neg hcount] at hparts
    rw [hparts]
    rfl

/-! ## Timestamps and offsets -/

theorem trimStart_text_time (t : TimeOfDay) (rest : List Char) :
    trimStart (t.text ++ rest) = t.text ++ rest := by
  rw [TimeOfDay.text, TimeOfDay.clockText]
  simp only [List.append_assoc]
  exact trimStart_paddedDigits 2 t.hour _

/-- The timestamp that the text of a timestamp shows. -/
def Timestamp.shown (ts : Timestamp) : Timestamp :=
  ⟨ts.date, ts.time.shown⟩

/-- A timestamp is taken off the front of a text, as it is shown. -/
theorem takeSpacedTimestamp_text {ts : Timestamp} (h : ts.date.inRange = true) {rest : List Char}
    (hrest : EndsNumber rest) : takeSpacedTimestamp (ts.text ++ rest) = some (ts.shown, rest) := by
  have hblank : trimStart (' ' :: (ts.time.text ++ rest)) = ts.time.text ++ rest :=
    trimStart_text_time ts.time rest
  rw [Timestamp.text, List.append_assoc, List.cons_append, takeSpacedTimestamp, takeDate_text h]
  simp only [bind, Option.bind, hblank, takeTime_text ts.time hrest]
  rfl

/-- Two digits are taken back whatever follows them. -/
theorem takeTwoDigits_paddedDigits {n : Nat} (hn : n < 100) (rest : List Char) :
    takeTwoDigits (paddedDigits 2 n ++ rest) = some (n, rest) := by
  obtain ⟨a, b, hab⟩ := List.length_eq_two.1 (length_paddedDigits (by decide) hn)
  have hdigit {c : Char} (hc : c ∈ [a, b]) : c.isDigit = true :=
    isDigit_of_mem_paddedDigits (hab ▸ hc)
  have hvalue : digitsValue [a, b] = n := hab ▸ digitsValue_paddedDigits 2 n
  have hsum : 10 * digitValue a + digitValue b = n := by simpa [digitsValue] using hvalue
  rw [hab, List.cons_append, List.cons_append, List.nil_append, takeTwoDigits,
    if_pos ⟨hdigit (by simp), hdigit (by simp)⟩, hsum]

/-- The sign of an offset tells whether it is behind UTC. -/
theorem takeSign_signText (o : Offset) (rest : List Char) :
    takeSign (trimStart (o.signText :: rest)) = some (decide (o.seconds < 0), rest) := by
  unfold Offset.signText
  split
  · next hneg =>
    rw [decide_eq_true hneg]
    rfl
  · next hpos =>
    rw [decide_eq_false hpos]
    rfl

/-- An offset of whole minutes is read back from its text. -/
theorem takeOffset_minuteText {o : Offset} (h : o.seconds % 60 = 0) (rest : List Char) :
    takeOffset (o.minuteText ++ rest) = some (o, rest) := by
  have hlt := o.abs_lt
  have hseparator (n : Nat) : (':' :: (paddedDigits 2 n ++ rest)).dropWhile
      (fun c => c == ':' || isBlank c) = paddedDigits 2 n ++ rest := by
    rw [List.dropWhile_cons_of_pos rfl]
    refine dropWhile_paddedDigits (fun c hc => ?_) 2 n rest
    have hcolon : c ≠ ':' := by
      rintro rfl
      cases hc
    simp [isBlank_eq_false_of_isDigit hc, hcolon]
  -- Whole minutes are not rounded, so that the parts make up the offset again.
  generalize hminutes : (o.seconds.natAbs + 30) / 60 = minutes
  have hvalue : (if decide (o.seconds < 0) = true then
      -(((minutes / 60 : Nat) : Int) * 3600 + ((minutes % 60 : Nat) : Int) * 60)
      else ((minutes / 60 : Nat) : Int) * 3600 + ((minutes % 60 : Nat) : Int) * 60) =
        o.seconds := by
    simp only [decide_eq_true_eq]
    split <;> omega
  rw [Offset.minuteText, hminutes, List.append_assoc, List.cons_append, List.cons_append,
    takeOffset]
  simp only [bind, Option.bind, takeSign_signText]
  rw [takeTwoDigits_paddedDigits (by omega)]
  dsimp only
  rw [hseparator, takeTwoDigits_paddedDigits (by omega)]
  dsimp only
  rw [if_pos (Nat.mod_lt _ (by decide)), hvalue, Offset.ofSeconds?, dif_pos hlt]
  rfl

/-! ## Zoned timestamps -/

/-- Turning the clock by whole minutes turns what its text shows, on the same day. -/
theorem TimeOfDay.shown_move (t : TimeOfDay) {seconds : Int} (h : seconds % 60 = 0) :
    (t.moveClock seconds).shown = t.shown.moveClock seconds ∧
      t.shown.daysMoved seconds = t.daysMoved seconds := by
  -- The second of the minute stays, and with it the question whether the next one is shown.
  have hsame : (t.moveClock seconds).secondOfMinute = t.secondOfMinute := by
    simp only [secondOfMinute, moveClock]
    omega
  have hleap : (t.moveClock seconds).isLeap = t.isLeap := rfl
  by_cases hshown : t.isLeap = true ∧ t.secondOfMinute ≠ 59
  · have hstep {n : Int} (hn : n % 60 ≠ 59) :
        (n + 1) / 86400 = n / 86400 ∧ (n + 1) % 86400 = n % 86400 + 1 := by omega
    -- A second that is not the last one of its minute is not the last one of its day.
    have hlast := hshown.2
    rw [shown, dif_pos (by rwa [hsame, hleap]), shown, dif_pos hshown]
    simp only [secondOfMinute] at hlast
    have hn : (t.second + seconds) % 60 ≠ 59 := by omega
    obtain ⟨hdays, hclock⟩ := hstep hn
    have hnext : ((t.second + 1 : Nat) : Int) + seconds = t.second + seconds + 1 := by omega
    simp only [moveClock, daysMoved, mk.injEq, and_true, hnext, hdays, hclock]
    omega
  · rw [shown, dif_neg (by rwa [hsame, hleap]), shown, dif_neg hshown]
    exact ⟨rfl, rfl⟩

/-- The timestamp that the text of a zoned timestamp shows. -/
def ZonedTimestamp.shown (z : ZonedTimestamp) : ZonedTimestamp :=
  ⟨z.utc.shown, z.offset⟩

/-- What is shown of an instant is the local time as it is shown. -/
theorem ZonedTimestamp.toLocal_shown {z : ZonedTimestamp} (h : z.offset.seconds % 60 = 0) :
    z.shown.toLocal = z.toLocal.shown := by
  obtain ⟨hclock, hdays⟩ := z.utc.time.shown_move h
  simp only [toLocal, shown, Timestamp.shown, Timestamp.move, hclock, hdays]

/-- The local time of an instant gives the instant back in the same zone. -/
theorem ZonedTimestamp.ofLocal?_toLocal {z : ZonedTimestamp} (h : z.utc.date.inRange = true) :
    ofLocal? z.toLocal z.offset = some z := by
  have hback : z.toLocal.move (-z.offset.seconds) = z.utc := by
    have habs : (-z.offset.seconds).natAbs < 86400 := by
      rw [Int.natAbs_neg]
      exact z.offset.abs_lt
    have hmove := z.utc.move_neg_move habs
    rwa [Int.neg_neg] at hmove
  rw [ofLocal?, hback]
  exact if_pos h

/-- An instant within the range of years, in a zone of whole minutes, is taken off the front of a
text, as it is shown. -/
theorem takeZonedTimestamp_text {z : ZonedTimestamp} (hutc : z.utc.date.inRange = true)
    (hlocal : z.toLocal.date.inRange = true) (hoffset : z.offset.seconds % 60 = 0)
    (rest : List Char) : takeZonedTimestamp (z.text ++ rest) = some (z.shown, rest) := by
  -- The sign of the offset ends the fraction of the time.
  have hend : EndsNumber (z.offset.minuteText ++ rest) := by
    rw [Offset.minuteText, List.append_assoc, List.cons_append, Offset.signText]
    split <;> exact endsNumber_cons (by decide) (by decide) _
  have hzoned : ZonedTimestamp.ofLocal? z.toLocal.shown z.offset = some z.shown := by
    rw [← ZonedTimestamp.toLocal_shown hoffset]
    exact ZonedTimestamp.ofLocal?_toLocal (z := z.shown) hutc
  rw [ZonedTimestamp.text, List.append_assoc, takeZonedTimestamp]
  simp only [bind, Option.bind, takeSpacedTimestamp_text hlocal hend,
    takeOffset_minuteText hoffset, hzoned]
  rfl

/-! ## Literals -/

theorem trimStart_text_date (d : Date) (rest : List Char) :
    trimStart (d.text ++ rest) = d.text ++ rest := by
  simp only [Date.text, Date.yearText, List.append_assoc]
  -- A year starts with a digit, or with a sign beyond four digits.
  split
  · exact trimStart_paddedDigits 4 _ _
  · rw [List.cons_append]
    split <;> exact trimStart_cons_of_not_isBlank (by decide) _

theorem trimStart_text_timestamp (ts : Timestamp) (rest : List Char) :
    trimStart (ts.text ++ rest) = ts.text ++ rest := by
  rw [Timestamp.text, List.append_assoc]
  exact trimStart_text_date ts.date _

/-- A date ends in its day, so that a trim leaves its end alone. -/
theorem Date.endsInDigit_text (d : Date) : EndsInDigit d.text :=
  ((endsInDigit_paddedDigits 2 d.day).cons '-').append_left _

theorem TimeOfDay.endsInDigit_text (t : TimeOfDay) : EndsInDigit t.text := by
  rw [text]
  rcases t.fractionText_cases with ⟨htext, -⟩ | ⟨width, n, htext, -⟩
  · rw [htext, List.append_nil]
    exact ((endsInDigit_paddedDigits 2 _).cons ':').append_left _
  · rw [htext]
    exact ((endsInDigit_paddedDigits width n).cons '.').append_left _

theorem Timestamp.endsInDigit_text (ts : Timestamp) : EndsInDigit ts.text :=
  (ts.time.endsInDigit_text.cons ' ').append_left _

theorem ZonedTimestamp.endsInDigit_text (z : ZonedTimestamp) : EndsInDigit z.text :=
  (((endsInDigit_paddedDigits 2 _).cons ':').append_left _).append_left _

/-- A text without blanks at its ends is read as a whole. -/
theorem whole_trim {α : Type} {take : List Char → Option (α × List Char)} {s : List Char} {a : α}
    (hstart : trimStart s = s) (hend : EndsInDigit s) (hread : take s = some (a, [])) :
    whole (take (trim s)) = some a := by
  rw [trim_eq_self hstart hend, hread]
  rfl

/-- A date is read back from its text. -/
theorem Date.ofText?_text {d : Date} (h : d.inRange = true) : ofText? d.text = some d := by
  have hstart : trimStart d.text = d.text := by simpa using trimStart_text_date d []
  have hread : takeDate d.text = some (d, []) := by simpa using takeDate_text h []
  rw [ofText?, plainDate?, whole_trim hstart d.endsInDigit_text hread]

/-- A time is read from its text as it is shown. -/
theorem TimeOfDay.ofText?_text (t : TimeOfDay) : ofText? t.text = some t.shown := by
  have hstart : trimStart t.text = t.text := by simpa using trimStart_text_time t []
  have hread : takeTime t.text = some (t.shown, []) := by
    simpa using takeTime_text t endsNumber_nil
  rw [ofText?, whole_trim hstart t.endsInDigit_text hread]

/-- A timestamp is read from its text as it is shown. -/
theorem Timestamp.ofText?_text {ts : Timestamp} (h : ts.date.inRange = true) :
    ofText? ts.text = some ts.shown := by
  have hstart : trimStart ts.text = ts.text := by simpa using trimStart_text_timestamp ts []
  have hread : takeSpacedTimestamp ts.text = some (ts.shown, []) := by
    simpa using takeSpacedTimestamp_text h endsNumber_nil
  rw [ofText?, whole_trim hstart ts.endsInDigit_text hread]

/-- An offset in the text decides, whatever the zone of texts without one. -/
theorem ZonedTimestamp.ofText?_text {z : ZonedTimestamp} (hutc : z.utc.date.inRange = true)
    (hlocal : z.toLocal.date.inRange = true) (hoffset : z.offset.seconds % 60 = 0)
    (zone : Offset) : ofText? zone z.text = some z.shown := by
  have hstart : trimStart z.text = z.text := trimStart_text_timestamp z.toLocal _
  have hread : takeZonedTimestamp z.text = some (z.shown, []) := by
    simpa using takeZonedTimestamp_text hutc hlocal hoffset []
  rw [ofText?, whole_trim hstart z.endsInDigit_text hread]

end SqlAccess.Calendar
