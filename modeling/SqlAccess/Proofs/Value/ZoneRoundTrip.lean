import SqlAccess.Proofs.Calendar.OffsetTime
import SqlAccess.Proofs.Value.Projection

/-!
# Into a zone and back

Values without a zone count as local to the zone of the session, and values with one are shown in
it. The two go in opposite directions, so that one undoes the other (`convert_zone_and_back`).

Dates and timestamps go by way of the instant, which keeps the nanoseconds of a leap second. What can
go wrong is only that the instant is out of range, and then the first conversion says so. Times of
day go by way of an offset, and a clock that is turned does not come back to a leap second.
-/

namespace SqlAccess

open SqlAccess.Calendar

namespace Value

/-- The local timestamp that a date or a timestamp stands for. -/
def localTimestamp? : Value → Option Timestamp
  | date d => some (.ofDate d)
  | timestamp ts => some ts
  | _ => none

/-- The time of day of a value that has a time, but neither a zone nor an offset. -/
def clock? : Value → Option TimeOfDay
  | time t => some t
  | timestamp ts => some ts.time
  | _ => none

end Value

variable {v w : Value} {zone : Offset}

/-! ## Dates and timestamps -/

/-- A local timestamp has an instant if clocks at UTC can show it. -/
theorem Calendar.ZonedTimestamp.exists_ofLocal?_iff {ts : Timestamp} :
    (∃ x, ofLocal? ts zone = some x) ↔ (ts.move (-zone.seconds)).date.inRange = true := by
  simp [ofLocal?]

/-- A local timestamp is taken to its instant, if this is in range. -/
theorem convert_localTimestamp_eq_ok_iff {ts : Timestamp} (hv : v.localTimestamp? = some ts)
    (source : SqlType) :
    convert v source .timestampTz zone = .ok w ↔
      ∃ x, ZonedTimestamp.ofLocal? ts zone = some x ∧ .timestampTz x = w := by
  -- Dates and timestamps have the same rule, a date being its midnight.
  have hread : v.isNull = false ∧ Conversion.toTimestampTz zone v =
      Conversion.orFault .incompatible (ZonedTimestamp.ofLocal? ts zone) := by
    cases v <;> cases hv <;> exact ⟨rfl, rfl⟩
  rw [convert_eq_ok_iff hread.1, Conversion.ofNonNull, map_eq_ok_iff, hread.2]
  simp only [Conversion.orFault_eq_ok_iff]

/-- An instant that was local to the zone is shown in the zone as what it was. -/
theorem convert_of_ofLocal? {ts : Timestamp} {x : ZonedTimestamp} {target : TargetType}
    (hv : v.localTimestamp? = some ts) (htarget : TargetType.ofSqlType v.sqlType = .ok target)
    (hx : ZonedTimestamp.ofLocal? ts zone = some x) (source : SqlType) :
    convert (.timestampTz x) source target zone = .ok v := by
  -- Clocks in the zone show again what they were taken to show.
  have hshown : (x.atOffset zone).toLocal = ts := by
    rw [ZonedTimestamp.atOffset_of_ofLocal? hx, (ZonedTimestamp.toLocal_of_ofLocal? hx).1]
  refine (convert_eq_ok_iff rfl).2 ?_
  cases v with
  | date d =>
    cases htarget
    cases hv
    rw [Conversion.ofNonNull, Conversion.toDate, hshown]
    rfl
  | timestamp ts' =>
    cases htarget
    cases hv
    rw [Conversion.ofNonNull, Conversion.toTimestamp, hshown]
    rfl
  | _ => cases hv

/-- An instant is told by its local timestamp in any zone. -/
theorem convert_toLocal {x : ZonedTimestamp} (h : x.utc.date.inRange = true) (source : SqlType) :
    convert (.timestamp (x.atOffset zone).toLocal) source .timestampTz zone =
      .ok (.timestampTz (x.atOffset zone)) :=
  (convert_localTimestamp_eq_ok_iff rfl source).2
    ⟨_, ZonedTimestamp.ofLocal?_toLocal (z := x.atOffset zone) h, rfl⟩

/-! ## Times of day -/

theorem convert_clock {t : TimeOfDay} (hv : v.clock? = some t) (source : SqlType) :
    convert v source .timeTz zone = .ok (.timeTz ⟨t, zone⟩) := by
  cases v <;> cases hv <;> rfl

/-- A time of day comes back from its offset, unless it is one of a leap second off UTC. -/
theorem convert_timeTz_eq_ok_iff {t : TimeOfDay} (source : SqlType) :
    convert (.timeTz ⟨t, zone⟩) source .time zone = .ok (.time t) ↔
      t.isLeap = false ∨ zone.seconds = 0 := by
  -- What is read is the clock turned into the zone, which is the offset it has.
  have hread : convert (.timeTz ⟨t, zone⟩) source .time zone =
      .ok (.time (OffsetTime.atOffset ⟨t, zone⟩ zone).time) := rfl
  rw [hread, Except.ok.injEq, Value.time.injEq]
  exact OffsetTime.time_atOffset_offset_iff (x := ⟨t, zone⟩)

/-! ## Both ways -/

/-- A date or a timestamp that is taken to its instant in a zone comes back in this zone as it was;
and it is taken there if the instant is in range. A time of day that is given the zone as its offset
comes back as well, unless it is in a leap second and the zone is off UTC. An instant that is taken
to its local timestamp in the zone comes back as the same instant, shown in the zone. -/
theorem convert_zone_and_back (zone : Offset) (source source' : SqlType) :
    (∀ v ts target, v.localTimestamp? = some ts → TargetType.ofSqlType v.sqlType = .ok target →
      ((∃ w, convert v source .timestampTz zone = .ok w) ↔
        (ts.move (-zone.seconds)).date.inRange = true) ∧
      ∀ w, convert v source .timestampTz zone = .ok w → convert w source' target zone = .ok v) ∧
    (∀ v t, v.clock? = some t → ∃ w, convert v source .timeTz zone = .ok w ∧
      (convert w source' .time zone = .ok (.time t) ↔ t.isLeap = false ∨ zone.seconds = 0)) ∧
    ∀ x : ZonedTimestamp, x.utc.date.inRange = true →
      ∃ w y, convert (.timestampTz x) source .timestamp zone = .ok w ∧
        convert w source' .timestampTz zone = .ok (.timestampTz y) ∧
        y.utc = x.utc ∧ y.offset = zone := by
  refine ⟨?_, ?_, ?_⟩
  · -- Dates and timestamps, times of day, and instants each have their own way back.
    intro v ts target hv htarget
    simp only [convert_localTimestamp_eq_ok_iff hv]
    constructor
    · rw [← ZonedTimestamp.exists_ofLocal?_iff]
      constructor
      · rintro ⟨_, x, hx, rfl⟩
        exact ⟨x, hx⟩
      · rintro ⟨x, hx⟩
        exact ⟨_, x, hx, rfl⟩
    · rintro _ ⟨x, hx, rfl⟩
      exact convert_of_ofLocal? hv htarget hx source'
  · intro v t hv
    exact ⟨_, convert_clock hv source, convert_timeTz_eq_ok_iff source'⟩
  · intro x hx
    exact ⟨_, _, rfl, convert_toLocal hx source', rfl, rfl⟩

/-- In a zone behind UTC: a leap second, the start of a leap day and its evening, and an instant on
the evening of this day in UTC. -/
theorem convert_zone_and_back_behind_utc :
    let behind : Offset := ⟨-19800, by decide⟩
    let leap : Timestamp :=
      ⟨⟨2016, 12, 31, by decide, by decide⟩, ⟨66599, 1500000000, by decide, by decide⟩⟩
    let evening : Timestamp :=
      ⟨⟨2024, 2, 29, by decide, by decide⟩, ⟨84615, 500000000, by decide, by decide⟩⟩
    let x : ZonedTimestamp := ⟨evening, ⟨50400, by decide⟩⟩
    (∃ w, convert (.timestamp leap) .timestamp .timestampTz behind = .ok w ∧
      convert w .timestampWithTimeZone .timestamp behind = .ok (.timestamp leap)) ∧
    (∃ w, convert (.date evening.date) .timestamp .timestampTz behind = .ok w ∧
      convert w .timestampWithTimeZone .date behind = .ok (.date evening.date)) ∧
    (∃ w, convert (.timestamp evening) .timestamp .timeTz behind = .ok w ∧
      convert w .timestampWithTimeZone .time behind = .ok (.time evening.time)) ∧
    ∃ w y, convert (.timestampTz x) .timestamp .timestamp behind = .ok w ∧
      convert w .timestampWithTimeZone .timestampTz behind = .ok (.timestampTz y) ∧
      y.utc = evening ∧ y.offset = behind := by
  intro behind leap evening x
  obtain ⟨hlocal, hclock, hinstant⟩ :=
    convert_zone_and_back behind .timestamp .timestampWithTimeZone
  obtain ⟨hreaches, hback⟩ := hlocal (.timestamp leap) leap .timestamp rfl rfl
  obtain ⟨hreaches', hback'⟩ := hlocal (.date evening.date) _ .date rfl rfl
  obtain ⟨w, hw⟩ := hreaches.2 (by decide +kernel)
  obtain ⟨w', hw'⟩ := hreaches'.2 (by decide +kernel)
  obtain ⟨z, hz, hsame⟩ := hclock (.timestamp evening) evening.time rfl
  exact ⟨⟨w, hw, hback w hw⟩, ⟨w', hw', hback' w' hw'⟩, ⟨z, hz, hsame.2 (.inl rfl)⟩,
    hinstant x (by decide)⟩

end SqlAccess
