import SqlAccess.Proofs.Value.ZoneRoundTrip

/-!
# One text, several date-time types

The literals of dates, of timestamps and of zoned timestamps all start with a date, and their readers
try several forms in orders of their own, each going on to the forms of another one. What stands
behind the date tells the forms apart: nothing, a `T`, or the digit of an hour behind blanks. So a
text is of one form at most (`Timestamp.ofText?_eq_some_iff`), and one with an offset of its own is of
none of them (`not_isLiteral_of_offset`).

Hence the order does not matter: a text is a date exactly if it is a timestamp, and the zoned
timestamp of a text that is a timestamp is the one of the timestamp (`convert_string_by_timestamp`).
-/

namespace SqlAccess

open SqlAccess.Text SqlAccess.Calendar

namespace Calendar

variable {s after rest : List Char} {ts : Timestamp} {zone : Offset}

/-! ## What a time starts with -/

/-- Where digits are taken, there is one. -/
theorem startsWithDigit_of_takeDigits {limit n : Nat} (h : takeDigits limit s = some (n, rest)) :
    ∃ c ∈ s.head?, c.isDigit = true := by
  unfold takeDigits at h
  cases s with
  | nil => simp at h
  | cons c s =>
    refine ⟨c, rfl, ?_⟩
    -- If the first character were no digit, there would be nothing to take.
    by_contra hc
    cases limit <;> simp [hc] at h

/-- A field may have blanks in front, but then its digits follow. -/
theorem startsWithDigit_of_takeField {limit lo hi n : Nat}
    (h : takeField limit lo hi s = some (n, rest)) :
    ∃ c ∈ (trimStart s).head?, c.isDigit = true := by
  unfold takeField at h
  cases hdigits : takeDigits limit (trimStart s) with
  | none => simp [hdigits] at h
  | some taken => exact startsWithDigit_of_takeDigits hdigits

/-- A time starts with the digits of its hour. -/
theorem startsWithDigit_of_takeTime {t : TimeOfDay} (h : takeTime s = some (t, rest)) :
    ∃ c ∈ (trimStart s).head?, c.isDigit = true := by
  obtain ⟨⟨hour, after⟩, hhour, -⟩ := Option.bind_eq_some_iff.1 h
  exact startsWithDigit_of_takeField hhour

theorem takeTime_nil : takeTime [] = none := rfl

/-- No time starts with a `T`, also behind blanks. -/
theorem takeTime_trimStart_T (after : List Char) : takeTime (trimStart ('T' :: after)) = none := by
  have hself : trimStart ('T' :: after) = 'T' :: after :=
    trimStart_cons_of_not_isBlank (by decide) after
  rw [hself, Option.eq_none_iff_forall_ne_some]
  -- A time would start with a digit, and `T` is none.
  rintro ⟨t, rest⟩ h
  obtain ⟨c, hc, hdigit⟩ := startsWithDigit_of_takeTime h
  rw [hself] at hc
  cases hc
  cases hdigit

/-! ## The forms of a literal -/

/-- The text is a literal of a timestamp. A date alone stands for its midnight. -/
inductive IsLiteral (s : List Char) : Timestamp → Prop
  | spaced {ts : Timestamp} {after : List Char} (hdate : takeDate s = some (ts.date, after))
      (htime : takeTime (trimStart after) = some (ts.time, [])) : IsLiteral s ts
  | joined {ts : Timestamp} {after : List Char} (hdate : takeDate s = some (ts.date, 'T' :: after))
      (htime : takeTime after = some (ts.time, [])) : IsLiteral s ts
  | plain {d : Date} (hdate : takeDate s = some (d, [])) : IsLiteral s (.ofDate d)

theorem takeChar_eq_some_iff {c : Char} : takeChar c s = some rest ↔ s = c :: rest := by
  cases s with
  | nil => simp [takeChar]
  | cons d s =>
    rw [takeChar, List.cons.injEq]
    split
    · next hc => simp [hc]
    · next hc => simp [Ne.symm hc]

/-- The time may follow the date after blanks, or at once. -/
theorem takeSpacedTimestamp_eq_some_iff :
    takeSpacedTimestamp s = some (ts, rest) ↔
      ∃ after, takeDate s = some (ts.date, after) ∧
        takeTime (trimStart after) = some (ts.time, rest) := by
  constructor
  · intro h
    obtain ⟨⟨d, after⟩, hdate, hafter⟩ := Option.bind_eq_some_iff.1 h
    obtain ⟨⟨t, rest'⟩, htime, hread⟩ := Option.bind_eq_some_iff.1 hafter
    cases hread
    exact ⟨after, hdate, htime⟩
  · rintro ⟨after, hdate, htime⟩
    simp only [takeSpacedTimestamp, bind, Option.bind, hdate, htime]
    rfl

/-- A `T` joins the time to the date. -/
theorem takeJoinedTimestamp_eq_some_iff :
    takeJoinedTimestamp s = some (ts, rest) ↔
      ∃ after, takeDate s = some (ts.date, 'T' :: after) ∧
        takeTime after = some (ts.time, rest) := by
  constructor
  · intro h
    obtain ⟨⟨d, behind⟩, hdate, hbehind⟩ := Option.bind_eq_some_iff.1 h
    obtain ⟨after, hchar, hafter⟩ := Option.bind_eq_some_iff.1 hbehind
    obtain ⟨⟨t, rest'⟩, htime, hread⟩ := Option.bind_eq_some_iff.1 hafter
    cases hread
    rw [takeChar_eq_some_iff.1 hchar] at hdate
    exact ⟨after, hdate, htime⟩
  · rintro ⟨after, hdate, htime⟩
    have hchar : takeChar 'T' ('T' :: after) = some after := takeChar_eq_some_iff.2 rfl
    simp only [takeJoinedTimestamp, bind, Option.bind, hdate, hchar, htime]
    rfl

theorem plainDate?_eq_some_iff {d : Date} : plainDate? s = some d ↔ takeDate s = some (d, []) :=
  whole_eq_some_iff

/-- Where a date and a time can be taken, the date is followed neither by nothing nor by a `T`. -/
theorem behind_of_takeSpacedTimestamp {d : Date} {behind : List Char}
    (h : takeSpacedTimestamp s = some (ts, rest)) (hdate : takeDate s = some (d, behind)) :
    behind ≠ [] ∧ ∀ after, behind ≠ 'T' :: after := by
  obtain ⟨behind', hdate', htime⟩ := takeSpacedTimestamp_eq_some_iff.1 h
  -- A date is taken in one way only, so that both see the same behind it.
  have hsame : behind' = behind := by
    rw [hdate, Option.some.injEq, Prod.mk.injEq] at hdate'
    exact hdate'.2.symm
  rw [hsame] at htime
  constructor
  · rintro rfl
    cases takeTime_nil.symm.trans htime
  · rintro after rfl
    cases (takeTime_trimStart_T after).symm.trans htime

/-- A literal is read as what it stands for, in whatever order the forms are tried. -/
theorem Timestamp.ofText?_eq_some_iff : ofText? s = some ts ↔ IsLiteral (trim s) ts := by
  simp only [ofText?]
  constructor
  · intro h
    -- Each form that is tried puts its own condition on what is behind the date.
    split at h
    · next hspaced =>
      cases h
      obtain ⟨after, hdate, htime⟩ := takeSpacedTimestamp_eq_some_iff.1 (whole_eq_some_iff.1 hspaced)
      exact .spaced hdate htime
    · split at h
      · next hjoined =>
        cases h
        obtain ⟨after, hdate, htime⟩ :=
          takeJoinedTimestamp_eq_some_iff.1 (whole_eq_some_iff.1 hjoined)
        exact .joined hdate htime
      · obtain ⟨d, hplain, rfl⟩ := Option.map_eq_some_iff.1 h
        exact .plain (plainDate?_eq_some_iff.1 hplain)
  · intro h
    -- What stands behind the date excludes the forms that are tried before.
    cases h with
    | spaced hdate htime =>
      have hspaced := takeSpacedTimestamp_eq_some_iff.2 ⟨_, hdate, htime⟩
      simp only [whole_eq_some_iff.2 hspaced]
    | joined hdate htime =>
      have hnotSpaced : whole (takeSpacedTimestamp (trim s)) = none := by
        rw [Option.eq_none_iff_forall_ne_some]
        intro ts' hspaced
        exact (behind_of_takeSpacedTimestamp (whole_eq_some_iff.1 hspaced) hdate).2 _ rfl
      have hjoined := takeJoinedTimestamp_eq_some_iff.2 ⟨_, hdate, htime⟩
      simp only [hnotSpaced, whole_eq_some_iff.2 hjoined]
    | plain hdate =>
      have hnotSpaced : whole (takeSpacedTimestamp (trim s)) = none := by
        rw [Option.eq_none_iff_forall_ne_some]
        intro ts' hspaced
        exact (behind_of_takeSpacedTimestamp (whole_eq_some_iff.1 hspaced) hdate).1 rfl
      have hnotJoined : whole (takeJoinedTimestamp (trim s)) = none := by
        rw [Option.eq_none_iff_forall_ne_some]
        intro ts' hjoined
        obtain ⟨after, hdate', -⟩ :=
          takeJoinedTimestamp_eq_some_iff.1 (whole_eq_some_iff.1 hjoined)
        rw [hdate] at hdate'
        cases hdate'
      simp only [hnotSpaced, hnotJoined, plainDate?_eq_some_iff.2 hdate, Option.map_some]

/-- A text with an offset of its own is no literal of a timestamp. -/
theorem not_isLiteral_of_offset {z : ZonedTimestamp}
    (h : whole (takeZonedTimestamp s) = some z) (ts : Timestamp) : ¬IsLiteral s ts := by
  obtain ⟨⟨ts', behind⟩, hspaced, hbehind⟩ := Option.bind_eq_some_iff.1 (whole_eq_some_iff.1 h)
  obtain ⟨⟨offset, rest⟩, hoffset, -⟩ := Option.bind_eq_some_iff.1 hbehind
  intro hliteral
  cases hliteral with
  | spaced hdate htime =>
    -- Nothing is left behind the time for an offset to be taken from.
    have hspaced' := takeSpacedTimestamp_eq_some_iff.2 ⟨_, hdate, htime⟩
    rw [hspaced, Option.some.injEq, Prod.mk.injEq] at hspaced'
    rw [hspaced'.2] at hoffset
    cases hoffset
  | joined hdate =>
    exact (behind_of_takeSpacedTimestamp hspaced hdate).2 _ rfl
  | plain hdate =>
    exact (behind_of_takeSpacedTimestamp hspaced hdate).1 rfl

/-! ## The readers -/

/-- A date is read from a text exactly if a timestamp is, and it is the date of the timestamp. -/
theorem Date.ofText?_eq_map (s : List Char) :
    Date.ofText? s = (Timestamp.ofText? s).map (·.date) := by
  -- A date tries the date alone first, a timestamp tries it last.
  cases hplain : plainDate? (trim s) with
  | none => exact Date.ofText?_of_plainDate?_eq_none hplain
  | some d =>
    have hliteral : IsLiteral (trim s) (.ofDate d) := .plain (plainDate?_eq_some_iff.1 hplain)
    rw [Date.ofText?, hplain, Timestamp.ofText?_eq_some_iff.2 hliteral]
    rfl

/-- A text that is a timestamp is local to the zone. -/
theorem ZonedTimestamp.ofText?_of_timestamp (h : Timestamp.ofText? s = some ts) (zone : Offset) :
    ZonedTimestamp.ofText? zone s = ZonedTimestamp.ofLocal? ts zone := by
  have hliteral := Timestamp.ofText?_eq_some_iff.1 h
  have hnone : whole (takeZonedTimestamp (trim s)) = none := by
    rw [Option.eq_none_iff_forall_ne_some]
    intro z hz
    exact not_isLiteral_of_offset hz ts hliteral
  rw [ZonedTimestamp.ofText?, hnone, h]
  rfl

/-- The zone is of no account for a text that is no timestamp. -/
theorem ZonedTimestamp.ofText?_of_none (h : Timestamp.ofText? s = none) (zone : Offset) :
    ZonedTimestamp.ofText? zone s = whole (takeZonedTimestamp (trim s)) := by
  rw [ZonedTimestamp.ofText?, h]
  cases whole (takeZonedTimestamp (trim s)) <;> rfl

end Calendar

/-! ## Conversion -/

section Conversion

variable {s : String} {w : Value} {source : SqlType} {zone : Offset}

theorem convert_string_date_iff :
    convert (.string s) source .date zone = .ok w ↔
      ∃ d, Date.ofText? s.toList = some d ∧ .date d = w := by
  rw [convert_eq_ok_iff rfl, Conversion.ofNonNull, map_eq_ok_iff]
  simp only [Conversion.toDate, Conversion.orFault_eq_ok_iff]

theorem convert_string_timestamp_iff :
    convert (.string s) source .timestamp zone = .ok w ↔
      ∃ ts, Timestamp.ofText? s.toList = some ts ∧ .timestamp ts = w := by
  rw [convert_eq_ok_iff rfl, Conversion.ofNonNull, map_eq_ok_iff]
  simp only [Conversion.toTimestamp, Conversion.orFault_eq_ok_iff]

theorem convert_string_timestampTz_iff :
    convert (.string s) source .timestampTz zone = .ok w ↔
      ∃ z, ZonedTimestamp.ofText? zone s.toList = some z ∧ .timestampTz z = w := by
  rw [convert_eq_ok_iff rfl, Conversion.ofNonNull, map_eq_ok_iff]
  simp only [Conversion.toTimestampTz, Conversion.orFault_eq_ok_iff]

end Conversion

/-- A string converts to a date exactly if it converts to a timestamp, and the date is the one of
the timestamp. A string that converts to a timestamp converts to a zoned one exactly if the
timestamp does, and to the same one; a string that does not has an offset of its own, so that what
it converts to is the same in every zone. -/
theorem convert_string_by_timestamp (s : String) (source source' : SqlType) (zone : Offset) :
    ((∃ w, convert (.string s) source .date zone = .ok w) ↔
      ∃ v, convert (.string s) source .timestamp zone = .ok v) ∧
    (∀ v, convert (.string s) source .timestamp zone = .ok v →
      ∃ ts, v = .timestamp ts ∧ convert (.string s) source .date zone = .ok (.date ts.date) ∧
        ∀ w, convert (.string s) source .timestampTz zone = .ok w ↔
          convert v source' .timestampTz zone = .ok w) ∧
    ((∀ v, convert (.string s) source .timestamp zone ≠ .ok v) →
      ∀ zone' w, convert (.string s) source .timestampTz zone = .ok w ↔
        convert (.string s) source .timestampTz zone' = .ok w) := by
  refine ⟨?_, ?_, ?_⟩
  · simp only [convert_string_date_iff, convert_string_timestamp_iff, Date.ofText?_eq_map,
      Option.map_eq_some_iff]
    constructor
    · rintro ⟨_, _, ⟨ts, hts, rfl⟩, rfl⟩
      exact ⟨_, ts, hts, rfl⟩
    · rintro ⟨_, ts, hts, rfl⟩
      exact ⟨_, _, ⟨ts, hts, rfl⟩, rfl⟩
  · intro v hv
    obtain ⟨ts, hts, rfl⟩ := convert_string_timestamp_iff.1 hv
    have hdate : Date.ofText? s.toList = some ts.date := by
      rw [Date.ofText?_eq_map, hts, Option.map_some]
    refine ⟨ts, rfl, convert_string_date_iff.2 ⟨_, hdate, rfl⟩, fun w => ?_⟩
    -- Both are the timestamp, taken as local to the zone.
    rw [convert_string_timestampTz_iff, convert_localTimestamp_eq_ok_iff rfl,
      ZonedTimestamp.ofText?_of_timestamp hts]
  · intro hnone zone' w
    -- A text that is no timestamp can only be read with the offset that it has itself.
    have htext : Timestamp.ofText? s.toList = none := by
      rw [Option.eq_none_iff_forall_ne_some]
      intro ts hts
      exact hnone _ (convert_string_timestamp_iff.2 ⟨ts, hts, rfl⟩)
    rw [convert_string_timestampTz_iff, convert_string_timestampTz_iff,
      ZonedTimestamp.ofText?_of_none htext, ZonedTimestamp.ofText?_of_none htext]

/-- A leap second before our era, with fields of one digit and blanks before them; and a timestamp
with an offset of its own. -/
theorem convert_string_by_timestamp_leap_second :
    let behind : Offset := ⟨-19800, by decide⟩
    let leap : Timestamp :=
      ⟨⟨-43, 3, 15, by decide, by decide⟩, ⟨66599, 1500000000, by decide, by decide⟩⟩
    let z : ZonedTimestamp := ⟨leap.move 19800, behind⟩
    let s := " -43-3- 15T18: 29:60.5"
    let own := "2024-2-29 7:0:0+02:00"
    (convert (.string s) .varChar .timestamp behind = .ok (.timestamp leap) ∧
      convert (.timestamp leap) .timestamp .timestampTz behind = .ok (.timestampTz z)) ∧
    convert (.string s) .varChar .date behind = .ok (.date leap.date) ∧
    convert (.string s) .varChar .timestampTz behind = .ok (.timestampTz z) ∧
    (∀ v, convert (.string own) .varChar .timestamp behind ≠ .ok v) ∧
    ∀ zone w, convert (.string own) .varChar .timestampTz behind = .ok w ↔
      convert (.string own) .varChar .timestampTz zone = .ok w := by
  intro behind leap z s own
  have hread : Timestamp.ofText? s.toList = some leap := by decide +kernel
  have hunread : Timestamp.ofText? own.toList = none := by decide +kernel
  have hinstant : ZonedTimestamp.ofLocal? leap behind = some z := by decide +kernel
  have hlocal : convert (.string s) .varChar .timestamp behind = .ok (.timestamp leap) :=
    convert_string_timestamp_iff.2 ⟨leap, hread, rfl⟩
  have hzoned : convert (.timestamp leap) .timestamp .timestampTz behind = .ok (.timestampTz z) :=
    (convert_localTimestamp_eq_ok_iff rfl _).2 ⟨z, hinstant, rfl⟩
  have hnone : ∀ v, convert (.string own) .varChar .timestamp behind ≠ .ok v := by
    intro v hv
    obtain ⟨ts, hts, -⟩ := convert_string_timestamp_iff.1 hv
    cases hunread.symm.trans hts
  obtain ⟨-, hby, -⟩ := convert_string_by_timestamp s .varChar .timestamp behind
  obtain ⟨-, -, hown⟩ := convert_string_by_timestamp own .varChar .timestamp behind
  obtain ⟨ts, hts, hdate, hsame⟩ := hby _ hlocal
  cases hts
  exact ⟨⟨hlocal, hzoned⟩, hdate, (hsame _).2 hzoned, hnone, hown hnone⟩

end SqlAccess
