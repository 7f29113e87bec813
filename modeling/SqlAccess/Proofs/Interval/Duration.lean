import SqlAccess.Proofs.Interval.NormalForm

/-!
# Day-time intervals and spans of time

A span of time is an exact number of nanoseconds in a range that is bounded in milliseconds, and so
ends inside of a second. Its interval counts just as many (`DayTime.totalNanos_ofDuration`). The way
back first looks whether the whole seconds are in the range, which in normal form they are with the
whole (`DayTime.IsNormal.toDuration?_eq_some_iff`). So the two ways undo each other, up to the ends
of the range (`DayTime.toDuration?_ofDuration`).
-/

namespace SqlAccess

namespace Duration

variable {n : Int} {d : Duration}

/-- A number of nanoseconds has a span exactly if it is within the range of spans. -/
theorem ofNanos?_eq_some_iff : ofNanos? n = some d ↔ d.nanos = n := by
  unfold ofNanos?
  split
  · next h =>
    rw [Option.some.injEq]
    constructor
    · rintro rfl
      rfl
    · rintro rfl
      rfl
  · next h =>
    refine iff_of_false nofun ?_
    rintro rfl
    exact h d.abs_le

/-- Whole seconds and fraction make up the span. -/
theorem wholeSeconds_fraction (d : Duration) :
    d.wholeSeconds * 1000000000 + d.fraction = d.nanos := by
  have hsplit := Int.mul_tdiv_add_tmod d.nanos 1000000000
  rw [wholeSeconds, fraction]
  omega

/-- The whole seconds of a span fit 64 bits, since the range of spans is far below. -/
theorem fitsBits_wholeSeconds (d : Duration) : FitsBits 64 d.wholeSeconds := by
  have hrange := d.abs_le
  obtain ⟨hsplit, hlt, -, hremainder⟩ := tdiv_tmod_bounds d.nanos (b := 1000000000) (by decide)
  unfold SignsAgree at hremainder
  rw [fitsBits_64_iff, wholeSeconds]
  omega

end Duration

namespace DayTime

theorem wholeSecondsFit_ofDuration (d : Duration) : WholeSecondsFit d.wholeSeconds d.fraction := by
  rw [WholeSecondsFit, d.wholeSeconds_fraction]
  exact d.fitsBits_wholeSeconds

/-- The interval of a span counts the nanoseconds of the span. -/
theorem totalNanos_ofDuration (d : Duration) : (ofDuration d).totalNanos = d.nanos := by
  rw [ofDuration, (wholeSecondsFit_ofDuration d).totalNanos_eq, d.wholeSeconds_fraction]

theorem isNormal_ofDuration (d : Duration) : (ofDuration d).IsNormal :=
  (wholeSecondsFit_ofDuration d).isNormal

variable {i : DayTime}

/-- An interval has a span if its whole seconds are in range and the whole is. -/
theorem toDuration?_eq_some_iff {d : Duration} :
    i.toDuration? = some d ↔
      (i.seconds.toInt * 1000000000).natAbs ≤ 9223372036854775807000000 ∧
        d.nanos = i.totalNanos := by
  unfold toDuration? totalNanos
  simp only [bind, Option.bind_eq_some_iff, Duration.ofNanos?_eq_some_iff]
  -- The whole is in range as a span, so that only the seconds alone are to be looked at.
  constructor
  · rintro ⟨whole, hwhole, hd⟩
    exact ⟨hwhole ▸ whole.abs_le, hwhole ▸ hd⟩
  · rintro ⟨hrange, hd⟩
    exact ⟨⟨_, hrange⟩, rfl, hd⟩

/-- In normal form the whole seconds are in range with the whole. -/
theorem IsNormal.toDuration?_eq_some_iff (h : i.IsNormal) {d : Duration} :
    i.toDuration? = some d ↔ d.nanos = i.totalNanos := by
  rw [DayTime.toDuration?_eq_some_iff, and_iff_right_iff_imp]
  intro hd
  -- The fraction goes away from zero, so the seconds alone are nearer to it than the whole.
  have hrange := d.abs_le
  unfold IsNormal SignsAgree at h
  unfold totalNanos at hd
  omega

/-- In normal form, only intervals out of the range of spans have none. -/
theorem IsNormal.toDuration?_eq_none_iff (h : i.IsNormal) :
    i.toDuration? = none ↔ 9223372036854775807000000 < i.totalNanos.natAbs := by
  rw [Option.eq_none_iff_forall_ne_some, ← Nat.not_le]
  simp only [ne_eq, h.toDuration?_eq_some_iff]
  constructor
  · intro hnone hrange
    exact hnone ⟨i.totalNanos, hrange⟩ rfl
  · intro hrange d hd
    exact hrange (hd ▸ d.abs_le)

/-- A span of time is got back from its interval. An interval in normal form has no span if and only
if its exact number of nanoseconds is out of the range of spans, and otherwise its span has just
that number, and the interval is got back from it. -/
theorem toDuration?_ofDuration :
    (∀ d, (ofDuration d).toDuration? = some d) ∧
      ∀ i : DayTime, i.IsNormal →
        (i.toDuration? = none ↔ 9223372036854775807000000 < i.totalNanos.natAbs) ∧
          ∀ d, i.toDuration? = some d → d.nanos = i.totalNanos ∧ ofDuration d = i := by
  refine ⟨fun d => ?_, fun i hnormal => ⟨hnormal.toDuration?_eq_none_iff, fun d hd => ?_⟩⟩
  · rw [(isNormal_ofDuration d).toDuration?_eq_some_iff, totalNanos_ofDuration]
  · -- The interval of the span counts as many nanoseconds, and in normal form that makes it the
    -- same one.
    have htotal := hnormal.toDuration?_eq_some_iff.1 hd
    refine ⟨htotal, (isNormal_ofDuration d).eq_of_totalNanos hnormal ?_⟩
    rw [totalNanos_ofDuration, htotal]

/-- The last interval that has a span ends inside of a second, and one nanosecond later there is
none. -/
theorem toDuration?_ofDuration_last :
    let last : DayTime := ⟨9223372036854775, 807000000, by decide⟩
    let later : DayTime := ⟨9223372036854775, 807000001, by decide⟩
    last.IsNormal ∧ later.IsNormal ∧ later.toDuration? = none ∧
      ∃ d, last.toDuration? = some d ∧ ofDuration d = last := by
  intro last later
  have hlast : last.IsNormal := by decide
  have hlater : later.IsNormal := by decide
  obtain ⟨-, hback⟩ := toDuration?_ofDuration
  obtain ⟨hnone, -⟩ := hback later hlater
  obtain ⟨-, hsome⟩ := hback last hlast
  have hspan : last.toDuration? = some ⟨9223372036854775807000000, by decide⟩ := by decide
  exact ⟨hlast, hlater, hnone.2 (by decide), _, hspan, (hsome _ hspan).2⟩

end DayTime

end SqlAccess
