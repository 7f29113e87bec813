import SqlAccess.Proofs.Statement.Output
import SqlAccess.Proofs.Value.ZoneRoundTrip

/-!
# Local times in two zones

A client sets a parameter to what clocks in a zone show, and reads it back in the same zone. If the
parameter has a zone of its own, it holds the instant, and both ways agree. If it has none, it holds
what clocks in the session's zone show at that instant. These are other local times unless the two
zones are the same (`ZonedTimestamp.toLocal_atOffset_ne`), and the client reads them as they are: a
value without a zone counts as local to the zone it is read in (`readsLocalTime_set`).
-/

namespace SqlAccess

open SqlAccess.Calendar

/-! ## Clocks in two zones -/

namespace Calendar

/-- Some part of the date is always one more on the next day. -/
theorem Date.next_ne (d : Date) : d.next ≠ d := by
  intro hsame
  unfold next at hsame
  split at hsame
  · exact Nat.succ_ne_self _ (congrArg day hsame)
  · split at hsame
    · exact Nat.succ_ne_self _ (congrArg month hsame)
    · have hyear : d.year + 1 = d.year := congrArg year hsame
      omega

/-- The day to which clocks move is another one if they move a day further. -/
theorem Date.moveDay_succ_ne (d : Date) {days : Int} (h : days = -1 ∨ days = 0) :
    d.moveDay (days + 1) ≠ d.moveDay days := by
  rcases h with rfl | rfl
  · -- The day after the preceding one is the day itself.
    have hne := d.previous.next_ne
    rw [next_previous] at hne
    exact hne
  · exact d.next_ne

/-- Clocks that are turned further show another time. -/
theorem Timestamp.move_ne_of_lt (ts : Timestamp) {a b : Int} (ha : a.natAbs < 86400)
    (hb : b.natAbs < 86400) (hlt : a < b) : ts.move b ≠ ts.move a := by
  intro hsame
  have hsecond : ((ts.time.second + b) % 86400).toNat = ((ts.time.second + a) % 86400).toNat :=
    congrArg (fun moved : Timestamp => moved.time.second) hsame
  have hlate := ts.time.second_lt
  -- Only after a whole day do clocks show the same time of day.
  have hday : ts.time.daysMoved b = ts.time.daysMoved a + 1 := by
    simp only [TimeOfDay.daysMoved]
    omega
  -- Less than a day back or forth reaches the preceding day at the earliest.
  have hdays : ts.time.daysMoved a = -1 ∨ ts.time.daysMoved a = 0 := by
    simp only [TimeOfDay.daysMoved]
    omega
  have hdate := congrArg Timestamp.date hsame
  simp only [move, hday] at hdate
  exact ts.date.moveDay_succ_ne hdays hdate

/-- At no instant do clocks in two zones show the same. -/
theorem ZonedTimestamp.toLocal_atOffset_ne {x : ZonedTimestamp} {zone : Offset}
    (h : x.offset ≠ zone) : (x.atOffset zone).toLocal ≠ x.toLocal := by
  have hseconds : x.offset.seconds ≠ zone.seconds := fun hsame => h (Offset.eq_of_seconds_eq hsame)
  rcases Int.lt_or_gt_of_ne hseconds with hlt | hlt
  · exact x.utc.move_ne_of_lt x.offset.abs_lt zone.abs_lt hlt
  · exact (x.utc.move_ne_of_lt zone.abs_lt x.offset.abs_lt hlt).symm

end Calendar

/-! ## Reading in a zone -/

/-- An instant is shown as clocks in the zone show it. -/
theorem Getter.answer_timestampTz (x : ZonedTimestamp) (source : SqlType) (session zone : Offset) :
    (Getter.timestampIn zone).answer (.timestampTz x) source session =
      .ok (.timestampTz (x.atOffset zone)) := by
  have hread : extract (.timestampTz x) source .timestampTz zone = .ok (some x) := rfl
  rw [Getter.answer, hread]
  rfl

/-- A local time is taken as one that clocks in the zone show. -/
theorem Getter.answer_timestamp_of_ofLocal? {ts : Timestamp} {zone : Offset} {x : ZonedTimestamp}
    (h : ZonedTimestamp.ofLocal? ts zone = some x) (source : SqlType) (session : Offset) :
    (Getter.timestampIn zone).answer (.timestamp ts) source session = .ok (.timestampTz x) := by
  have hconvert : convert (.timestamp ts) source .timestampTz zone = .ok (.timestampTz x) :=
    (convert_localTimestamp_eq_ok_iff rfl source).2 ⟨x, h, rfl⟩
  have hread : extract (.timestamp ts) source .timestampTz zone = .ok (some x) :=
    extract_of_convert rfl hconvert rfl
  rw [Getter.answer, hread]
  exact congrArg (fun y => Except.ok (Value.timestampTz y)) (ZonedTimestamp.atOffset_of_ofLocal? h)

/-- A local time that is out of range in the zone is none there. -/
theorem Getter.answer_timestamp_of_out_of_range {ts : Timestamp} {zone : Offset}
    (h : ZonedTimestamp.ofLocal? ts zone = none) (source : SqlType) (session : Offset) :
    (Getter.timestampIn zone).answer (.timestamp ts) source session =
      .error (.dataConversion source "TIMESTAMP WITH TIME ZONE" (Value.timestamp ts).text) := by
  have hread : extract (.timestamp ts) source .timestampTz zone =
      .error (.dataConversion source "TIMESTAMP WITH TIME ZONE" (Value.timestamp ts).text) := by
    refine extract_of_convert_error ((convert_eq_error_iff rfl).2 ⟨.incompatible, ?_, rfl⟩)
    rw [Conversion.ofNonNull, Conversion.toTimestampTz, h]
    rfl
  rw [Getter.answer, hread]
  rfl

/-! ## Setting and reading -/

namespace CallableStatement

variable {s s' : CallableStatement} {ref : ParameterRef} {i : Nat} {slot : Slot} {a : Argument}

/-- A parameter that carries output is read as it was set. -/
theorem get_of_setParameter (href : s.parameters.resolve ref = .ok (i, slot))
    (hmode : slot.parameter.mode.isOutput = true) (h : setParameter s ref a = .ok s') :
    ∃ given w, a.given s.zone = .ok given ∧
      coerceForParameter given slot.parameter.type s.zone = .ok w ∧
      ∀ g, (get s' ref g).1 = g.answer w slot.parameter.type s.zone := by
  obtain ⟨index, slot', href', h⟩ := setParameter_eq_ok h
  cases href.symm.trans href'
  obtain ⟨given, hgiven, hbind⟩ := PreparedStatement.setParameter_eq_ok h
  obtain ⟨hopen, index, slot', w, hslot, -, hw, rfl⟩ := PreparedStatement.bind_eq_ok hbind
  have hfound := ParameterBuffer.getElem?_of_resolve href
  rw [ParameterBuffer.slotAt_succ hfound] at hslot
  cases hslot
  refine ⟨given, w, hgiven, hw, fun g => ?_⟩
  -- The slot is still found, and holds the value that was set.
  have hindex : ref.index? (s.parameters.bind i w).parameters = some i := by
    rw [ParameterBuffer.parameters_bind]
    exact ParameterBuffer.index?_of_resolve href
  have hbound : (s.parameters.bind i w).slots[i]? = some (slot.bind w) := by
    simp [ParameterBuffer.bind, hfound]
  exact @get_of_slot { s with parameters := s.parameters.bind i w } ref i (slot.bind w) hopen hindex
    hbound hmode g

/-- What a client reads from a parameter in a zone is what clocks in this zone show. -/
def ReadsLocalTime (s : CallableStatement) (ref : ParameterRef) (zone : Offset)
    (shown : Timestamp) : Prop :=
  ∃ x : ZonedTimestamp, (get s ref (.timestampIn zone)).1 = .ok (.timestampTz x) ∧
    x.offset = zone ∧ x.toLocal = shown

/-- To read the instant of a local time in the zone is to read this local time. -/
theorem ReadsLocalTime.of_ofLocal? {zone : Offset} {shown : Timestamp} {x : ZonedTimestamp}
    (h : ZonedTimestamp.ofLocal? shown zone = some x)
    (hget : (get s ref (.timestampIn zone)).1 = .ok (.timestampTz x)) :
    s.ReadsLocalTime ref zone shown := by
  obtain ⟨hlocal, hoffset⟩ := ZonedTimestamp.toLocal_of_ofLocal? h
  exact ⟨x, hget, hoffset, hlocal⟩

/-- A setter that takes a local time is given its instant. -/
theorem given_localTime_eq_ok {shown : Timestamp} {zone session : Offset} {given : Value}
    (h : (Argument.localTime shown zone).given session = .ok given) :
    ∃ instant, ZonedTimestamp.ofLocal? shown zone = some instant ∧ given = .timestampTz instant := by
  obtain ⟨instant, hinstant, hgiven⟩ := bind_eq_ok_iff.1 h
  cases hgiven
  unfold Argument.instant at hinstant
  split at hinstant
  · next x hx =>
    cases hinstant
    exact ⟨_, hx, rfl⟩
  · cases hinstant

/-- A local time that was set in a zone is read back in this zone if the parameter has a zone of its
own, or if the zone is that of the session. Without either, the parameter holds what clocks in the
zone of the session show, and this is read instead, unless it is out of range. -/
theorem readsLocalTime_set {shown : Timestamp} {zone : Offset}
    (href : s.parameters.resolve ref = .ok (i, slot)) (hmode : slot.parameter.mode = .inOut)
    (htype : slot.parameter.type = .timestamp ∨ slot.parameter.type = .timestampWithTimeZone)
    (h : setParameter s ref (.localTime shown zone) = .ok s') :
    ∃ instant held, ZonedTimestamp.ofLocal? shown zone = some instant ∧
      (instant.atOffset s.zone).toLocal = held ∧
      (slot.parameter.type = .timestampWithTimeZone ∨ zone = s.zone →
        s'.ReadsLocalTime ref zone shown) ∧
      (slot.parameter.type = .timestamp → zone ≠ s.zone →
        held ≠ shown ∧
        ((ZonedTimestamp.ofLocal? held zone).isSome = true → s'.ReadsLocalTime ref zone held) ∧
        (ZonedTimestamp.ofLocal? held zone = none →
          (get s' ref (.timestampIn zone)).1 = .error
            (.dataConversion .timestamp "TIMESTAMP WITH TIME ZONE" (Value.timestamp held).text))) := by
  have houtput : slot.parameter.mode.isOutput = true := by
    rw [hmode]
    rfl
  obtain ⟨given, w, hgiven, hw, hget⟩ := get_of_setParameter href houtput h
  obtain ⟨instant, hinstant, rfl⟩ := given_localTime_eq_ok hgiven
  obtain ⟨hlocal, hoffset⟩ := ZonedTimestamp.toLocal_of_ofLocal? hinstant
  refine ⟨instant, _, hinstant, rfl, ?_⟩
  rcases htype with htype | htype
  · -- The parameter holds a local time of the session.
    have hheld : w = .timestamp (instant.atOffset s.zone).toLocal := by
      rw [htype] at hw
      cases hw
      rfl
    rw [hheld, htype] at hget
    have hread {held : Timestamp} {x : ZonedTimestamp}
        (hsome : ZonedTimestamp.ofLocal? held zone = some x)
        (hsame : (instant.atOffset s.zone).toLocal = held) : s'.ReadsLocalTime ref zone held := by
      apply ReadsLocalTime.of_ofLocal? hsome
      rw [hget, Getter.answer_timestamp_of_ofLocal? (hsame ▸ hsome)]
    constructor
    · rintro (htz | rfl)
      · rw [htype] at htz
        cases htz
      · -- Clocks in the session's zone show what was set.
        refine hread hinstant ?_
        rw [← hlocal, ← hoffset]
        rfl
    · intro _ hzone
      refine ⟨?_, fun hsome => ?_, fun hnone => ?_⟩
      · rw [← hlocal]
        exact ZonedTimestamp.toLocal_atOffset_ne (hoffset.symm ▸ hzone)
      · obtain ⟨x, hx⟩ := Option.isSome_iff_exists.1 hsome
        exact hread hx rfl
      · rw [hget, Getter.answer_timestamp_of_out_of_range hnone]
  · -- The parameter holds the instant.
    have hheld : w = .timestampTz instant := by
      rw [htype] at hw
      cases hw
      rfl
    have hsame : instant.atOffset zone = instant := by
      rw [← hoffset]
      rfl
    constructor
    · intro _
      apply ReadsLocalTime.of_ofLocal? hinstant
      rw [hget, hheld, Getter.answer_timestampTz, hsame]
    · intro hts
      rw [htype] at hts
      cases hts

theorem exists_of_isSome_toOption {x : Except Error CallableStatement}
    (h : x.toOption.isSome = true) : ∃ s, x = .ok s := by
  cases x with
  | error e => cases h
  | ok s => exact ⟨s, rfl⟩

/-- Noon two hours east of UTC, in a session five hours west of it. -/
theorem readsLocalTime_set_instant :
    let d : Description := ⟨7, .call, [.described "T" .timestampWithTimeZone .inOut], []⟩
    let west : Config := { Config.ofDatabase .mem "test" with timeZone := ⟨-18000, by decide⟩ }
    let s : CallableStatement := PreparedStatement.ofDescription (.ofSql "CALL P(?)") d west
    let noon : Timestamp := ⟨⟨2024, 3, 10, by decide, by decide⟩, ⟨43200, 0, by decide, by decide⟩⟩
    let east : Offset := ⟨7200, by decide⟩
    ∃ s', setParameter s (.name "t") (.localTime noon east) = .ok s' ∧
      s'.ReadsLocalTime (.name "t") east noon := by
  intro d west s noon east
  have hset : (setParameter s (.name "t") (.localTime noon east)).toOption.isSome = true := by
    decide +kernel
  obtain ⟨s', hs'⟩ := exists_of_isSome_toOption hset
  have href : s.parameters.resolve (.name "t") =
      .ok (0, .blank (.described "T" .timestampWithTimeZone .inOut)) := rfl
  obtain ⟨-, -, -, -, hread, -⟩ := readsLocalTime_set href rfl (.inr rfl) hs'
  exact ⟨s', hs', hread (.inl rfl)⟩

/-- Noon two hours east of UTC is read as ten o'clock from a parameter without a zone, in a session
at UTC. -/
theorem readsLocalTime_set_unzoned :
    let d : Description := ⟨7, .call, [.described "T" .timestamp .inOut], []⟩
    let s : CallableStatement :=
      PreparedStatement.ofDescription (.ofSql "CALL P(?)") d (Config.ofDatabase .mem "test")
    let date : Date := ⟨2024, 3, 10, by decide, by decide⟩
    let noon : Timestamp := ⟨date, ⟨43200, 0, by decide, by decide⟩⟩
    let ten : Timestamp := ⟨date, ⟨36000, 0, by decide, by decide⟩⟩
    let east : Offset := ⟨7200, by decide⟩
    ∃ s', setParameter s (.ordinal 1) (.localTime noon east) = .ok s' ∧
      s'.ReadsLocalTime (.ordinal 1) east ten ∧ ¬s'.ReadsLocalTime (.ordinal 1) east noon := by
  intro d s date noon ten east
  let eight : Timestamp := ⟨date, ⟨28800, 0, by decide, by decide⟩⟩
  have hset : (setParameter s (.ordinal 1) (.localTime noon east)).toOption.isSome = true := by
    decide +kernel
  obtain ⟨s', hs'⟩ := exists_of_isSome_toOption hset
  have href : s.parameters.resolve (.ordinal 1) =
      .ok (0, .blank (.described "T" .timestamp .inOut)) := rfl
  obtain ⟨given, w, hgiven, hw, hget⟩ := get_of_setParameter href rfl hs'
  -- Noon in the east is ten o'clock for the session, and ten o'clock is read in the east.
  have hinstant : ZonedTimestamp.ofLocal? noon east = some ⟨ten, east⟩ := by decide +kernel
  have hheld : (ZonedTimestamp.atOffset ⟨ten, east⟩ .utc).toLocal = ten := by decide +kernel
  have hten : ZonedTimestamp.ofLocal? ten east = some ⟨eight, east⟩ := by decide +kernel
  have hread : (get s' (.ordinal 1) (.timestampIn east)).1 = .ok (.timestampTz ⟨eight, east⟩) := by
    obtain ⟨instant, hsome, rfl⟩ := given_localTime_eq_ok hgiven
    cases hinstant.symm.trans hsome
    cases hw
    rw [hget]
    exact Getter.answer_timestamp_of_ofLocal? (hheld.symm ▸ hten) _ _
  refine ⟨s', hs', .of_ofLocal? hten hread, ?_⟩
  rintro ⟨x, hx, -, hlocal⟩
  cases hread.symm.trans hx
  exact absurd hlocal (by decide +kernel)

end CallableStatement

end SqlAccess
