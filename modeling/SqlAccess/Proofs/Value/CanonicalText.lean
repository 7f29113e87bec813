import SqlAccess.Proofs.Calendar.OffsetTime
import SqlAccess.Proofs.Value.Projection
import SqlAccess.Statement.Argument

/-!
# The text of date-time values

Date-time values are written in one format for each family, and texts are read in several formats
that are tried in order. The text of a value is always taken by the first of them, and gives the
value back with its fields and its offset (`convert_text_self`).

There is one kind of value that is not given back. A leap second goes by the second 60, which is the
one after 59; but a zone that is off UTC by some seconds makes leap seconds that are counted on
other seconds of the minute. Their text is that of the next second, which is read as such
(`convert_text_leap_off_minute`).

Times with an offset have a format of their own for the offset. They are given back under the same
condition, if the offset is one that texts can name (`convert_timeTz_text`).
-/

namespace SqlAccess

open SqlAccess.Text SqlAccess.Calendar

namespace Value

/-- A date-time value that the calendar holds. Its offset, if it has one, is one of whole minutes,
and its date is in range also where clocks at this offset show it. -/
def IsDateTime : Value → Prop
  | date d => d.inRange = true
  | time _ => True
  | timestamp ts => ts.date.inRange = true
  | timestampTz z =>
    z.utc.date.inRange = true ∧ z.toLocal.date.inRange = true ∧ z.offset.seconds % 60 = 0
  | _ => False

/-- The time of day of a value, as clocks at its own offset show it. -/
def localTime? : Value → Option TimeOfDay
  | time t => some t
  | timestamp ts => some ts.time
  | timestampTz z => some z.toLocal.time
  | _ => none

/-- The value that the text of a date-time value shows. -/
def shown : Value → Value
  | time t => time t.shown
  | timestamp ts => timestamp ts.shown
  | timestampTz z => timestampTz z.shown
  | v => v

variable {v : Value}

/-- Of a value that is shown, the time of day is shown. -/
theorem localTime?_shown (hv : v.IsDateTime) :
    v.shown.localTime? = v.localTime?.map TimeOfDay.shown := by
  cases v with
  | timestampTz z =>
    rw [shown, localTime?, ZonedTimestamp.toLocal_shown hv.2.2]
    rfl
  | _ => rfl

/-- A value whose time of day is shown as it is, is shown as it is. -/
theorem shown_eq_self (hv : v.IsDateTime)
    (htime : ∀ t, v.localTime? = some t → t.shown = t) : v.shown = v := by
  cases v with
  | time t => rw [shown, htime t rfl]
  | timestamp ts => rw [shown, Timestamp.shown, htime ts.time rfl]
  | timestampTz z =>
    obtain ⟨hutc, -, hoffset⟩ := hv
    have hlocal : z.shown.toLocal = z.toLocal := by
      rw [ZonedTimestamp.toLocal_shown hoffset, Timestamp.shown, htime z.toLocal.time rfl]
    -- An instant in range is the only one with its local timestamp and its offset.
    have hread : some z.shown = some z := by
      rw [← ZonedTimestamp.ofLocal?_toLocal hutc, ← hlocal]
      exact (ZonedTimestamp.ofLocal?_toLocal (z := z.shown) hutc).symm
    rw [shown, Option.some.inj hread]
  | _ => rfl

end Value

section Conversion

variable {v : Value} {target : TargetType}

/-- A date-time value is taken to its text. -/
theorem convert_text (hv : v.IsDateTime) (source : SqlType) (zone : Offset) :
    convert v source .string zone = .ok (.string v.text) := by
  cases v <;> first | exact hv.elim | rfl

/-- The text of a date-time value is read as the value that it shows. -/
theorem convert_text_shown (hv : v.IsDateTime)
    (htarget : TargetType.ofSqlType v.sqlType = .ok target) (source : SqlType) (zone : Offset) :
    convert (.string v.text) source target zone = .ok v.shown := by
  have hchars : v.text.toList = v.chars := v.toList_text
  refine (convert_eq_ok_iff rfl).2 ?_
  -- Each family has its own reader; the zone does not matter, since the text has the offset.
  cases v with
  | date d =>
    cases htarget
    have hread : Date.ofText? (Value.date d).chars = some d := Date.ofText?_text hv
    rw [Conversion.ofNonNull, Conversion.toDate, hchars, hread]
    rfl
  | time t =>
    cases htarget
    have hread : TimeOfDay.ofText? (Value.time t).chars = some t.shown := t.ofText?_text
    rw [Conversion.ofNonNull, Conversion.toTime, hchars, hread]
    rfl
  | timestamp ts =>
    cases htarget
    have hread : Timestamp.ofText? (Value.timestamp ts).chars = some ts.shown :=
      Timestamp.ofText?_text hv
    rw [Conversion.ofNonNull, Conversion.toTimestamp, hchars, hread]
    rfl
  -- Both the instant and what clocks show of it have to be in range.
  | timestampTz z =>
    cases htarget
    obtain ⟨hutc, hlocal, hoffset⟩ := hv
    have hread : ZonedTimestamp.ofText? zone (Value.timestampTz z).chars = some z.shown :=
      ZonedTimestamp.ofText?_text hutc hlocal hoffset zone
    rw [Conversion.ofNonNull, Conversion.toTimestampTz, hchars, hread]
    rfl
  | _ => exact hv.elim

end Conversion

/-- Every date-time value is taken to its text under any type and in any zone, and the text is read
back as the same value, with the same fields and the same offset, provided that a leap second is
counted on the second 59. The text of any other leap second is read as the second that follows the
one that it is counted on. -/
theorem convert_text_self {v : Value} {target : TargetType} (hv : v.IsDateTime)
    (htarget : TargetType.ofSqlType v.sqlType = .ok target) (source source' : SqlType)
    (zone zone' : Offset) :
    convert v source .string zone = .ok (.string v.text) ∧
    ((∀ t, v.localTime? = some t → t.isLeap = true → t.secondOfMinute = 59) →
      convert (.string v.text) source' target zone' = .ok v) ∧
    (∀ t, v.localTime? = some t → t.isLeap = true → t.secondOfMinute ≠ 59 →
      convert (.string v.text) source' target zone' = .ok v.shown ∧
        ∃ next, v.shown.localTime? = some next ∧ next.second = t.second + 1 ∧
          next.nano = t.nano - 1000000000) := by
  have hread := convert_text_shown hv htarget source' zone'
  refine ⟨convert_text hv source zone, ?_, ?_⟩
  · intro hcounted
    rw [hread, Value.shown_eq_self hv]
    intro t ht
    -- Only a leap second that is counted on another second is shown as the next one.
    rw [TimeOfDay.shown, dif_neg]
    rintro ⟨hleap, hlast⟩
    exact hlast (hcounted t ht hleap)
  · intro t ht hleap hlast
    refine ⟨hread, t.shown, ?_, ?_⟩
    · rw [Value.localTime?_shown hv, ht]
      rfl
    · rw [TimeOfDay.shown, dif_pos ⟨hleap, hlast⟩]
      exact ⟨rfl, rfl⟩

/-- A leap second before our era, in a zone behind UTC. -/
theorem convert_text_self_leap_second :
    let z : ZonedTimestamp :=
      ⟨⟨⟨-43, 3, 15, by decide, by decide⟩, ⟨86399, 1500000000, by decide, by decide⟩⟩,
        ⟨-19800, by decide⟩⟩
    (Value.timestampTz z).IsDateTime ∧
      convert (.timestampTz z) .timestampWithTimeZone .string .utc =
        .ok (.string "-0043-03-15 18:29:60.500-05:30") ∧
      convert (.string "-0043-03-15 18:29:60.500-05:30") .varChar .timestampTz .utc =
        .ok (.timestampTz z) := by
  intro z
  have hz : (Value.timestampTz z).IsDateTime := ⟨by decide, by decide, by decide⟩
  have htext : (Value.timestampTz z).text = "-0043-03-15 18:29:60.500-05:30" := by
    decide +kernel
  obtain ⟨hwritten, hread, -⟩ :=
    convert_text_self hz rfl .timestampWithTimeZone .varChar .utc .utc
  rw [htext] at hwritten hread
  have hsecond : z.toLocal.time.secondOfMinute = 59 := by decide +kernel
  refine ⟨hz, hwritten, hread fun t ht _ => ?_⟩
  rw [← Option.some.inj ht]
  exact hsecond

/-- A leap second that clocks half a minute east of UTC show as 23:59:60.5 is counted on the second
29 in UTC. Its text is that of the second 30, and so it is not given back. -/
theorem convert_text_leap_off_minute :
    let east : Offset := ⟨30, by decide⟩
    let date : Date := ⟨2016, 12, 31, by decide, by decide⟩
    let clock : Timestamp := ⟨date, ⟨86399, 1500000000, by decide, by decide⟩⟩
    let ts : Timestamp := ⟨date, ⟨86369, 1500000000, by decide, by decide⟩⟩
    ((Argument.localTime clock east).given .utc = .ok (.timestampTz ⟨ts, east⟩) ∧
      coerceForParameter (.timestampTz ⟨ts, east⟩) .timestamp .utc = .ok (.timestamp ts)) ∧
    (Value.timestamp ts).IsDateTime ∧
      TargetType.ofSqlType (Value.timestamp ts).sqlType = .ok .timestamp ∧
      convert (.timestamp ts) .timestamp .string .utc =
        .ok (.string "2016-12-31 23:59:30.500") ∧
      convert (.string "2016-12-31 23:59:30.500") .varChar .timestamp .utc ≠
        .ok (.timestamp ts) := by
  intro east date clock ts
  have hinstant : ZonedTimestamp.ofLocal? clock east = some ⟨ts, east⟩ := by decide +kernel
  have hutc : (ZonedTimestamp.atOffset ⟨ts, east⟩ .utc).toLocal = ts := by decide +kernel
  have hts : (Value.timestamp ts).IsDateTime := (by decide : date.inRange = true)
  have htext : (Value.timestamp ts).text = "2016-12-31 23:59:30.500" := by decide +kernel
  have hwritten := convert_text hts .timestamp .utc
  have hread := convert_text_shown hts rfl .varChar .utc
  rw [htext] at hwritten hread
  -- The timestamp is one that a client can bind, by way of the zone half a minute east.
  refine ⟨⟨?_, ?_⟩, hts, rfl, hwritten, ?_⟩
  · rw [Argument.given, Argument.instant, hinstant]
    rfl
  · change convert (.timestampTz ⟨ts, east⟩) .timestampWithTimeZone .timestamp .utc = _
    refine (convert_eq_ok_iff rfl).2 ?_
    rw [Conversion.ofNonNull, Conversion.toTimestamp, hutc]
    rfl
  · rw [hread]
    have hne : ts.shown ≠ ts := by decide
    simpa [Value.shown] using hne

/-! ## Times with an offset -/

/-- The text of a time with an offset is read as what it shows if the offset is a zone, and is
refused otherwise. -/
theorem convert_timeTz_shown (x : OffsetTime) (source : SqlType) (zone : Offset) :
    convert (.string (Value.timeTz x).text) source .timeTz zone =
      if x.offset.IsZone then .ok (.timeTz x.shown)
      else .error (.invalidFormat .timeWithTimeZone (Value.timeTz x).text) := by
  have hchars : (Value.timeTz x).text.toList = x.text := Value.toList_text _
  have hread : Conversion.toTimeTz zone (.string (Value.timeTz x).text) =
      Conversion.orFault .malformed (if x.offset.IsZone then some x.shown else none) := by
    rw [Conversion.toTimeTz, hchars, x.trim_text, x.ofText?_text_eq]
  -- The clock is read in any case. The offset decides.
  by_cases hzone : x.offset.IsZone
  · rw [if_pos hzone] at hread ⊢
    rw [convert_eq_ok_iff rfl, Conversion.ofNonNull, hread]
    rfl
  · rw [if_neg hzone] at hread ⊢
    refine (convert_eq_error_iff rfl).2 ⟨.malformed, ?_, ?_⟩
    · rw [Conversion.ofNonNull, hread]
      rfl
    · -- The text of a string is the string.
      exact congrArg (Error.invalidFormat .timeWithTimeZone) String.ofList_toList

/-- Alone, the text is read as by way of strings. -/
theorem parse_timeTz_shown (x : OffsetTime) :
    OffsetTime.parse (Value.timeTz x).text =
      if x.offset.IsZone then .ok x.shown
      else .error (.invalidFormat .timeWithTimeZone (Value.timeTz x).text) := by
  have hchars : (Value.timeTz x).text.toList = x.text := Value.toList_text _
  rw [OffsetTime.parse, hchars, x.ofText?_text_eq]
  by_cases hzone : x.offset.IsZone
  · rw [if_pos hzone, if_pos hzone]
  · rw [if_neg hzone, if_neg hzone]

/-- Every time whose offset has no seconds and is less than fifteen hours is read back from its
text, alone and by way of strings, with the same clock and the same offset, provided that a leap
second is counted on the second 59. Any other leap second is read as the second after the one that
it is counted on, with the rest of the nanoseconds. With another offset, the text is refused. -/
theorem convert_timeTz_text (x : OffsetTime) (source source' : SqlType) (zone zone' : Offset) :
    let text := (Value.timeTz x).text
    convert (.timeTz x) source .string zone = .ok (.string text) ∧
      OffsetTime.parse text =
        (if x.offset.IsZone then .ok x.shown
        else .error (.invalidFormat .timeWithTimeZone text)) ∧
      convert (.string text) source' .timeTz zone' =
        (if x.offset.IsZone then .ok (.timeTz x.shown)
        else .error (.invalidFormat .timeWithTimeZone text)) ∧
      (x.shown = x ↔ (x.time.isLeap = true → x.time.secondOfMinute = 59)) ∧
      (x.time.isLeap = true → x.time.secondOfMinute ≠ 59 →
        x.shown.offset = x.offset ∧ x.shown.time.second = x.time.second + 1 ∧
          x.shown.time.nano = x.time.nano - 1000000000) := by
  intro text
  refine ⟨rfl, parse_timeTz_shown x, convert_timeTz_shown x source' zone', ?_, ?_⟩
  · rw [← TimeOfDay.shown_eq_self_iff]
    constructor
    · intro hsame
      exact congrArg OffsetTime.time hsame
    · intro hsame
      rw [OffsetTime.shown, hsame]
  · intro hleap hlast
    rw [OffsetTime.shown, TimeOfDay.shown, dif_pos ⟨hleap, hlast⟩]
    exact ⟨rfl, rfl, rfl⟩

/-- A leap second at the end of the day, in the last zone behind UTC that has a text; and one that
is counted on the second 29. -/
theorem convert_timeTz_text_behind_utc :
    let behind : Offset := ⟨-53940, by decide⟩
    let x : OffsetTime := ⟨⟨86399, 1250000000, by decide, by decide⟩, behind⟩
    let y : OffsetTime := ⟨⟨86369, 1500000000, by decide, by decide⟩, behind⟩
    (x.time.isLeap = true ∧ x.time.secondOfMinute = 59) ∧
      convert (.timeTz x) .timeWithTimeZone .string .utc =
        .ok (.string "23:59:60.250-14:59") ∧
      OffsetTime.parse "23:59:60.250-14:59" = .ok x ∧
      convert (.string "23:59:60.250-14:59") .varChar .timeTz .utc = .ok (.timeTz x) ∧
      (y.time.isLeap = true ∧ y.time.secondOfMinute ≠ 59) ∧ y.shown.time.second = 86370 := by
  intro behind x y
  have hx : x.time.isLeap = true ∧ x.time.secondOfMinute = 59 := by decide
  have hy : y.time.isLeap = true ∧ y.time.secondOfMinute ≠ 59 := by decide
  have hzone : x.offset.IsZone := by decide
  have htext : (Value.timeTz x).text = "23:59:60.250-14:59" := by decide +kernel
  obtain ⟨hwritten, hparse, hread, hshown, -⟩ :=
    convert_timeTz_text x .timeWithTimeZone .varChar .utc .utc
  obtain ⟨-, -, -, -, hnext⟩ := convert_timeTz_text y .timeWithTimeZone .varChar .utc .utc
  rw [htext] at hwritten hparse hread
  rw [if_pos hzone, hshown.2 fun _ => hx.2] at hparse hread
  exact ⟨hx, hwritten, hparse, hread, hy, (hnext hy.1 hy.2).2.1⟩

/-- An instant in a leap second as clocks half a minute east of UTC count it is taken to a local
time of UTC, and that to a time with an offset. So this is a leap second that is counted on the
second 29. Its text is that of the second 30, and so it is not given back. -/
theorem convert_timeTz_text_leap_off_minute :
    let east : Offset := ⟨30, by decide⟩
    let date : Date := ⟨2016, 12, 31, by decide, by decide⟩
    let ts : Timestamp := ⟨date, ⟨86369, 1500000000, by decide, by decide⟩⟩
    let x : OffsetTime := ⟨ts.time, .utc⟩
    ((Argument.typed (.timestampTz ⟨ts, east⟩) .timestamp).given .utc = .ok (.timestamp ts) ∧
      coerceForParameter (.timestamp ts) .timeWithTimeZone .utc = .ok (.timeTz x)) ∧
      x.offset.IsZone ∧
      convert (.timeTz x) .timeWithTimeZone .string .utc = .ok (.string "23:59:30.500+00:00") ∧
      OffsetTime.parse "23:59:30.500+00:00" ≠ .ok x ∧
      convert (.string "23:59:30.500+00:00") .varChar .timeTz .utc ≠ .ok (.timeTz x) := by
  intro east date ts x
  have hutc : (ZonedTimestamp.atOffset ⟨ts, east⟩ .utc).toLocal = ts := by decide +kernel
  have hzone : x.offset.IsZone := by decide
  have hne : x.shown ≠ x := by decide
  have htext : (Value.timeTz x).text = "23:59:30.500+00:00" := by decide +kernel
  have hparse := parse_timeTz_shown x
  have hread := convert_timeTz_shown x .varChar .utc
  rw [htext, if_pos hzone] at hparse hread
  refine ⟨⟨?_, rfl⟩, hzone, ?_, ?_, ?_⟩
  · change convert (.timestampTz ⟨ts, east⟩) .timestampWithTimeZone .timestamp .utc = _
    refine (convert_eq_ok_iff rfl).2 ?_
    rw [Conversion.ofNonNull, Conversion.toTimestamp, hutc]
    rfl
  · rw [← htext]
    rfl
  · rw [hparse]
    simpa using hne
  · rw [hread]
    simpa using hne

end SqlAccess
