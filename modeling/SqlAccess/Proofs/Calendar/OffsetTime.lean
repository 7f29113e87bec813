import SqlAccess.Proofs.Calendar.Literal
import SqlAccess.Proofs.Calendar.Offset

/-!
# Times with an offset, moved and read back

A time with an offset is taken to another offset by way of UTC. Outside of leap seconds this turns
the clock by the difference of the offsets (`OffsetTime.time_atOffset`), so that the instant stays
and only the last of several moves counts (`OffsetTime.atOffset_laws`). A clock that is turned at
all leaves a leap second, and does not come back to it (`OffsetTime.time_atOffset_offset_iff`).

The text of a time with an offset is cut again at the sign of the offset, and both parts are read
on their own (`OffsetTime.ofText?_text_eq`).
-/

namespace SqlAccess.Calendar.OffsetTime

open SqlAccess.Text

/-! ## Moving -/

variable {x : OffsetTime}

/-- Outside of leap seconds the clock is turned by the difference of the offsets. -/
theorem time_atOffset (h : x.time.isLeap = false) (offset : Offset) :
    (x.atOffset offset).time = x.time.moveClock (offset.seconds - x.offset.seconds) := by
  -- The clock goes to UTC first, and from there to the new offset; both turns add up.
  have hutc : x.utcTime = x.time.moveClock (-x.offset.seconds) :=
    TimeOfDay.addSeconds_of_not_leap h _
  have hplain : (x.time.moveClock (-x.offset.seconds)).isLeap = false := by simpa using h
  have hturn : -x.offset.seconds + offset.seconds = offset.seconds - x.offset.seconds := by omega
  rw [atOffset, hutc, TimeOfDay.addSeconds_of_not_leap hplain, TimeOfDay.moveClock_moveClock,
    hturn]

/-- Of two moves only the last one counts. -/
theorem atOffset_atOffset (h : x.time.isLeap = false) (first second : Offset) :
    (x.atOffset first).atOffset second = x.atOffset second := by
  rw [atOffset, utcTime_atOffset h]
  rfl

/-- Taken to its own offset, a clock shows the same, unless it is in a leap second and off UTC. -/
theorem time_atOffset_offset_iff :
    (x.atOffset x.offset).time = x.time ↔ x.time.isLeap = false ∨ x.offset.seconds = 0 := by
  constructor
  · intro hsame
    by_cases hzero : x.offset.seconds = 0
    · exact .inr hzero
    · -- A clock that is turned at all leaves a leap second for good.
      rw [← hsame]
      exact .inl (x.utcTime.isLeap_addSeconds hzero)
  · rintro (hplain | hzero)
    · rw [time_atOffset hplain, Int.sub_self, TimeOfDay.moveClock_zero]
    · rw [atOffset, utcTime, hzero, Int.neg_zero, TimeOfDay.addSeconds_zero,
        TimeOfDay.addSeconds_zero]

/-- A move to the own offset does nothing. -/
theorem atOffset_offset (h : x.time.isLeap = false) : x.atOffset x.offset = x := by
  calc x.atOffset x.offset = ⟨(x.atOffset x.offset).time, x.offset⟩ := rfl
    _ = x := by rw [time_atOffset_offset_iff.2 (.inl h)]

/-- Taking a time to another offset keeps the instant, so that a further move starts from the same
instant, and a move to the own offset does nothing. The clock is turned by the difference of the
offsets, around midnight if need be, and the nanoseconds stay. -/
theorem atOffset_laws {t : TimeOfDay} (h : t.isLeap = false) (a b c : Offset) :
    let x : OffsetTime := ⟨t, a⟩
    (x.atOffset b).utcTime = x.utcTime ∧
      (x.atOffset b).atOffset c = x.atOffset c ∧
      x.atOffset a = x ∧
      (x.atOffset b).offset = b ∧
      (x.atOffset b).time.second = (t.second + (b.seconds - a.seconds)) % 86400 ∧
      (x.atOffset b).time.nano = t.nano := by
  intro x
  have htime : (x.atOffset b).time = t.moveClock (b.seconds - a.seconds) := time_atOffset h b
  refine ⟨utcTime_atOffset h b, atOffset_atOffset h b c, atOffset_offset h, rfl, ?_, ?_⟩
  · rw [htime]
    exact Int.toNat_of_nonneg (Int.emod_nonneg _ (by decide))
  · rw [htime]
    rfl

/-- The last nanosecond of a day, from the clock that is furthest behind UTC to the one that is
furthest ahead, and back. -/
theorem atOffset_laws_around_midnight :
    let behind : Offset := ⟨-86399, by decide⟩
    let ahead : Offset := ⟨86399, by decide⟩
    let t : TimeOfDay := ⟨86399, 999999999, by decide, by decide⟩
    let x : OffsetTime := ⟨t, behind⟩
    t.isLeap = false ∧
      ((x.atOffset ahead).time.second : Int) = 86397 ∧
      (x.atOffset ahead).time.nano = 999999999 ∧
      (x.atOffset ahead).utcTime = x.utcTime ∧ (x.atOffset ahead).atOffset behind = x := by
  intro behind ahead t x
  have hplain : t.isLeap = false := rfl
  obtain ⟨hutc, hback, hsame, -, hsecond, hnano⟩ := atOffset_laws hplain behind ahead behind
  exact ⟨hplain, hsecond.trans (by decide), hnano, hutc, hback.trans hsame⟩

/-! ## Text -/

/-- The time with an offset that the text of one shows. -/
def shown (x : OffsetTime) : OffsetTime :=
  ⟨x.time.shown, x.offset⟩

/-- The last sign of a text is that of the offset. -/
theorem cutBeforeLast_text (x : OffsetTime) :
    cutBeforeLast (fun c => c == '+' || c == '-') x.text = some (x.time.text, x.offset.text) := by
  have hsign : (x.offset.signText == '+' || x.offset.signText == '-') = true := by
    simpa using x.offset.signOf_signText.mem
  -- Behind the sign of the offset there are digits and colons, and so no other sign.
  have hbody : ∀ c ∈ x.offset.text.tail, (c == '+' || c == '-') = false := by
    intro c hc
    have hplus : c ≠ '+' := ne_of_mem_of_not_mem hc (Offset.not_mem_tail_text rfl (by decide))
    have hminus : c ≠ '-' := ne_of_mem_of_not_mem hc (Offset.not_mem_tail_text rfl (by decide))
    simp [hplus, hminus]
  have htext : x.offset.text = x.offset.signText :: x.offset.text.tail := by
    rw [Offset.text_eq, List.tail_cons]
  rw [text, htext]
  exact cutBeforeLast_append hsign hbody x.time.text

theorem trim_text (x : OffsetTime) : trim x.text = x.text :=
  trim_eq_self (trimStart_text_time x.time _) (x.offset.endsInDigit_text.append_left _)

/-- The text of a time with an offset is read as what it shows, if the offset is one that texts can
name, and is refused otherwise. -/
theorem ofText?_text_eq (x : OffsetTime) :
    ofText? x.text = if x.offset.IsZone then some x.shown else none := by
  -- The two parts are read on their own, and only the offset can be refused.
  rw [ofText?, trim_text, cutBeforeLast_text]
  simp only [bind, Option.bind_some, x.time.ofText?_text, Offset.ofText?_text_eq]
  split
  · rfl
  · rfl

end SqlAccess.Calendar.OffsetTime
