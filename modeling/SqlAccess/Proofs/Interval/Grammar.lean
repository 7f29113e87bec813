import SqlAccess.Proofs.Config.TimeZone
import SqlAccess.Proofs.Interval.NormalForm

/-!
# The form of a day-time interval literal

A literal has an optional sign, a group of digits for the days and a space, three groups with
colons between them for the time of the day, and a point with a fraction; days and fraction may be
left out (`DayTime.Writes`). The kind of the groups is a parameter. Groups of digits leave no place
for a sign but the start of the literal (`DayTime.Writes.not_signsGroup`), and where no sign stands
at the start of a group, groups that may have signs are groups of digits
(`DayTime.Writes.number_or_signsGroup`). Such a literal counts its seconds and nanoseconds in one
direction (`DayTime.Writes.ofSecondsNanos_eq`).
-/

namespace SqlAccess

open SqlAccess.Text SqlAccess.Number
open Calendar.Offset (SignOf IsNumber IsSigned)

namespace DayTime

/-! ## Texts of intervals -/

/-- The text is a factor in front of the body: a sign, or nothing if the body starts with none. -/
inductive HasSign : List Char → Int → List Char → Prop
  | sign {c : Char} {f : Int} {body : List Char} (hsign : SignOf c f) : HasSign (c :: body) f body
  | unsigned {body : List Char} (h : ∀ c ∈ body.head?, c ∉ ['+', '-']) : HasSign body 1 body

/-- The body is a number of days in front of a time: a group, a space and further blanks, or
nothing. -/
inductive HasDays (Group : List Char → Int → Prop) : List Char → Int → List Char → Prop
  | days {s blanks time : List Char} {n : Int} (hdays : Group s n)
      (hblanks : ∀ c ∈ blanks, isBlank c = true) :
      HasDays Group (s ++ ' ' :: (blanks ++ time)) n time
  | none {time : List Char} : HasDays Group time 0 time

/-- Hours, minutes and seconds with colons between them, and the second of the day. -/
inductive IsClock (Group : List Char → Int → Prop) : List Char → Nat → Prop
  | mk {s t u : List Char} {hours minutes seconds : Nat} (hhours : Group s hours)
      (hminutes : Group t minutes) (hseconds : Group u seconds) (hours_lt : hours < 24)
      (minutes_lt : minutes < 60) (seconds_lt : seconds < 60) :
      IsClock Group (s ++ ':' :: (t ++ ':' :: u)) (hours * 3600 + minutes * 60 + seconds)

/-- A point with one to nine digits behind it, or nothing, and the nanoseconds. -/
inductive IsFraction : List Char → Nat → Prop
  | digits {s : List Char} {n : Nat} (hdigits : IsNumber s n) (hlength : s.length ≤ 9) :
      IsFraction ('.' :: s) (n * 10 ^ (9 - s.length))
  | none : IsFraction [] 0

/-- What the parts of a literal are worth: the factor of its sign, the days, the second of the day
and the nanoseconds. -/
structure Parts where
  sign : Int
  days : Int
  ofDay : Nat
  fraction : Nat

/-- Days and time of the day in seconds. -/
def Parts.whole (p : Parts) : Int :=
  p.days * 86400 + p.ofDay

/-- The text is, but for blanks around it, a literal with these parts, and the groups of its days
and its clock are of some kind. -/
def Writes (Group : List Char → Int → Prop) (s : List Char) (p : Parts) : Prop :=
  ∃ body clock point, HasSign (trim s) p.sign body ∧ HasDays Group body p.days (clock ++ point) ∧
    IsClock Group clock p.ofDay ∧ IsFraction point p.fraction

/-- A sign stands where a group starts: behind another sign, a colon or a blank. -/
def SignsGroup (s : List Char) : Prop :=
  ∃ before c d after, s = before ++ c :: d :: after ∧
    (c ∈ ['+', '-', ':'] ∨ isBlank c = true) ∧ d ∈ ['+', '-']

variable {s body clock point time : List Char} {f days : Int} {ofDay fraction : Nat}

/-! ## Characters of a literal -/

theorem IsClock.not_mem {Group : List Char → Int → Prop} {c : Char} (h : IsClock Group clock ofDay)
    (hgroup : ∀ s n, Group s n → c ∉ s) (hcolon : c ≠ ':') : c ∉ clock := by
  cases h with
  | mk hhours hminutes hseconds =>
    simp [hcolon, hgroup _ _ hhours, hgroup _ _ hminutes, hgroup _ _ hseconds]

/-- A character that is in no group, no blank and not in the time is not in the body. -/
theorem HasDays.not_mem {Group : List Char → Int → Prop} {c : Char}
    (h : HasDays Group body days time) (hgroup : ∀ s n, Group s n → c ∉ s)
    (hblank : isBlank c = false) (htime : c ∉ time) : c ∉ body := by
  cases h with
  | days hdays hblanks =>
    simp only [List.mem_append, List.mem_cons, not_or]
    -- It is not in the days, not the space, no other blank, and not in the time.
    refine ⟨hgroup _ _ hdays, ?_, fun hmem => ?_, htime⟩
    · rintro rfl
      cases hblank
    · simp [hblanks c hmem] at hblank
  | none => exact htime

theorem IsFraction.not_mem {c : Char} (h : IsFraction point fraction) (hdigit : c.isDigit = false)
    (hpoint : c ≠ '.') : c ∉ point := by
  cases h with
  | digits hdigits => simp [hpoint, hdigits.not_mem hdigit]
  | none => simp

/-- The time of a literal has no other characters than digits, signs, colons and points. -/
theorem not_mem_time (hclock : IsClock IsSigned clock ofDay) (hpoint : IsFraction point fraction)
    {c : Char} (hdigit : c.isDigit = false) (hmarks : c ∉ ['+', '-', ':', '.']) :
    c ∉ clock ++ point := by
  simp only [List.mem_cons, List.not_mem_nil, or_false, not_or] at hmarks
  obtain ⟨hplus, hminus, hcolon, hdot⟩ := hmarks
  have hgroup (s : List Char) (n : Int) (h : IsSigned s n) : c ∉ s :=
    h.not_mem hdigit (by simp [hplus, hminus])
  rw [List.mem_append, not_or]
  exact ⟨hclock.not_mem hgroup hcolon, hpoint.not_mem hdigit hdot⟩

/-- The time of a literal has no blanks in it. -/
theorem isBlank_eq_false_of_mem_time (hclock : IsClock IsSigned clock ofDay)
    (hpoint : IsFraction point fraction) : ∀ c ∈ clock ++ point, isBlank c = false := by
  intro c hmem
  rw [← Bool.not_eq_true]
  intro hblank
  -- A blank is no digit and none of the marks.
  refine not_mem_time hclock hpoint ?_ ?_ hmem
  · rw [← Bool.not_eq_true]
    intro hdigit
    rw [isBlank_eq_false_of_isDigit hdigit] at hblank
    cases hblank
  · simp only [List.mem_cons, List.not_mem_nil, or_false]
    rintro (rfl | rfl | rfl | rfl) <;> cases hblank

/-- What stands behind the first character of a literal is part of its body. -/
theorem HasSign.mem_of_mem_tail (h : HasSign s f body) {c : Char} (hc : c ∈ s.tail) : c ∈ body := by
  cases h with
  | sign => exact hc
  | unsigned => exact List.mem_of_mem_tail hc

theorem HasSign.endsTight (h : HasSign s f body) (htight : EndsTight s) : EndsTight body := by
  cases h with
  | @sign c => exact EndsTight.of_append (a := [c]) htight
  | unsigned => exact htight

/-! ## Groups without signs -/

/-- A sign at the start of a group is still there in a longer text. -/
theorem SignsGroup.append (h : SignsGroup s) (before after : List Char) :
    SignsGroup (before ++ (s ++ after)) := by
  obtain ⟨inner, c, d, rest, rfl, hc, hd⟩ := h
  exact ⟨before ++ inner, c, d, rest ++ after, by simp, hc, hd⟩

/-- The text starts with a sign. -/
def SignsStart (s : List Char) : Prop :=
  ∃ d ∈ s.head?, d ∈ ['+', '-']

theorem SignsStart.append (h : SignsStart s) (after : List Char) : SignsStart (s ++ after) := by
  obtain ⟨d, hd, hsign⟩ := h
  exact ⟨d, by simp [List.head?_append, Option.mem_def.1 hd], hsign⟩

/-- A sign at the start of a text is one at the start of a group, behind a character that a group
may follow. -/
theorem SignsStart.signsGroup (h : SignsStart s) {c : Char}
    (hc : c ∈ ['+', '-', ':'] ∨ isBlank c = true) (before : List Char) :
    SignsGroup (before ++ c :: s) := by
  obtain ⟨d, hd, hsign⟩ := h
  cases s with
  | nil => cases hd
  | cons first rest =>
    cases hd
    exact ⟨before, c, d, rest, rfl, hc, hsign⟩

/-- A group is one of digits, or it starts with a sign. -/
theorem isNumber_or_signsStart {n : Int} (h : IsSigned s n) : IsNumber s n ∨ SignsStart s := by
  cases h with
  | number h => exact .inl h
  | sign hsign _ => exact .inr ⟨_, rfl, hsign.mem⟩

/-- The groups of a clock are digits, or one of them starts with a sign. -/
theorem IsClock.number_or_signs (h : IsClock IsSigned clock ofDay) :
    IsClock IsNumber clock ofDay ∨ SignsStart clock ∨ SignsGroup clock := by
  cases h with
  | @mk s t u _ _ _ hhours hminutes hseconds hours_lt minutes_lt seconds_lt =>
    -- The hours stand at the start, the minutes and seconds behind a colon.
    rcases isNumber_or_signsStart hhours with hhours | hsigns
    · rcases isNumber_or_signsStart hminutes with hminutes | hsigns
      · rcases isNumber_or_signsStart hseconds with hseconds | hsigns
        · exact .inl (.mk hhours hminutes hseconds hours_lt minutes_lt seconds_lt)
        · have hgroup := hsigns.signsGroup (c := ':') (by simp) (s ++ ':' :: t)
          exact .inr (.inr (by simpa using hgroup))
      · exact .inr (.inr ((hsigns.append _).signsGroup (by simp) s))
    · exact .inr (.inl (hsigns.append _))

/-- The days are a group of digits, or the body starts with a sign. -/
theorem HasDays.number_or_signsStart (h : HasDays IsSigned body days time) :
    HasDays IsNumber body days time ∨ SignsStart body := by
  cases h with
  | days hdays hblanks =>
    rcases isNumber_or_signsStart hdays with hdays | hsigns
    · exact .inl (.days hdays hblanks)
    · exact .inr (hsigns.append _)
  | none => exact .inl .none

/-- Signs of the time are signs of the body, in which a blank may stand before the time. -/
theorem HasDays.signs {Group : List Char → Int → Prop} (h : HasDays Group body days time)
    (hsigns : SignsStart time ∨ SignsGroup time) : SignsStart body ∨ SignsGroup body := by
  cases h with
  | @days s blanks _ _ _ hblanks =>
    -- The last of the blanks stands right before the time.
    obtain ⟨before, last, hgap⟩ := List.eq_nil_or_concat (' ' :: blanks) |>.resolve_left (by simp)
    have hlast : isBlank last = true := by
      have hmem : last ∈ ' ' :: blanks := by simp [hgap]
      rcases List.mem_cons.1 hmem with rfl | hmem
      · rfl
      · exact hblanks last hmem
    have hbody : s ++ ' ' :: (blanks ++ time) = s ++ before ++ last :: time := by
      rw [← List.cons_append, hgap]
      simp
    refine .inr ?_
    rw [hbody]
    rcases hsigns with hstart | hgroup
    · exact hstart.signsGroup (.inr hlast) _
    · simpa using hgroup.append (s ++ before ++ [last]) []
  | none => exact hsigns

/-- A sign at the start of the body stands behind the one of the literal. -/
theorem HasSign.signsGroup (h : HasSign s f body) (hsigns : SignsStart body ∨ SignsGroup body) :
    SignsGroup s := by
  cases h with
  | @sign c _ _ hsign =>
    rcases hsigns with hstart | hgroup
    · exact hstart.signsGroup (.inl hsign.mem_colon) []
    · simpa using hgroup.append [c] []
  | unsigned hhead =>
    -- A sign at the start would be the sign of the literal.
    refine hsigns.resolve_left ?_
    rintro ⟨d, hd, hsign⟩
    exact hhead d hd hsign

variable {p : Parts}

/-- A literal has groups of digits only, or a sign stands where a group starts. -/
theorem Writes.number_or_signsGroup (h : Writes IsSigned s p) :
    Writes IsNumber s p ∨ SignsGroup (trim s) := by
  obtain ⟨body, clock, point, hsign, hdays, hclock, hpoint⟩ := h
  rcases hdays.number_or_signsStart with hdays' | hsigns
  · rcases hclock.number_or_signs with hclock | hsigns
    · exact .inl ⟨body, clock, point, hsign, hdays', hclock, hpoint⟩
    · have htime : SignsStart (clock ++ point) ∨ SignsGroup (clock ++ point) :=
        hsigns.imp (·.append point) fun h => by simpa using h.append [] point
      exact .inr (hsign.signsGroup (hdays.signs htime))
  · exact .inr (hsign.signsGroup (.inl hsigns))

theorem IsClock.signed (h : IsClock IsNumber clock ofDay) : IsClock IsSigned clock ofDay := by
  cases h with
  | mk hhours hminutes hseconds hours_lt minutes_lt seconds_lt =>
    exact .mk (.number hhours) (.number hminutes) (.number hseconds) hours_lt minutes_lt seconds_lt

theorem HasDays.signed (h : HasDays IsNumber body days time) : HasDays IsSigned body days time := by
  cases h with
  | days hdays hblanks => exact .days (.number hdays) hblanks
  | none => exact .none

/-- A literal with groups of digits is one with groups that may have signs. -/
theorem Writes.signed (h : Writes IsNumber s p) : Writes IsSigned s p := by
  obtain ⟨body, clock, point, hsign, hdays, hclock, hpoint⟩ := h
  exact ⟨body, clock, point, hsign, hdays.signed, hclock.signed, hpoint⟩

/-- A text without signs behind its first character has none at the start of a group. -/
theorem not_signsGroup_of_tail (hplus : '+' ∉ s.tail) (hminus : '-' ∉ s.tail) : ¬SignsGroup s := by
  rintro ⟨before, c, d, after, rfl, -, hd⟩
  have hmem : d ∈ (before ++ c :: d :: after).tail := by cases before <;> simp
  simp only [List.mem_cons, List.not_mem_nil, or_false] at hd
  rcases hd with rfl | rfl
  · exact hplus hmem
  · exact hminus hmem

/-- Only the first character of a literal with groups of digits may be a sign. -/
theorem Writes.not_signsGroup (h : Writes IsNumber s p) : ¬SignsGroup (trim s) := by
  obtain ⟨body, clock, point, hsign, hdays, hclock, hpoint⟩ := h
  -- The characters of the body are digits, blanks and marks, and no sign is one of these.
  have htail {c : Char} (hdigit : c.isDigit = false) (hblank : isBlank c = false)
      (hcolon : c ≠ ':') (hdot : c ≠ '.') : c ∉ (trim s).tail := by
    have hgroup (s : List Char) (n : Int) (h : IsNumber s n) : c ∉ s := h.not_mem hdigit
    have htime : c ∉ clock ++ point := by
      rw [List.mem_append, not_or]
      exact ⟨hclock.not_mem hgroup hcolon, hpoint.not_mem hdigit hdot⟩
    exact fun hmem => hdays.not_mem hgroup hblank htime (hsign.mem_of_mem_tail hmem)
  exact not_signsGroup_of_tail (htail (by decide) (by decide) (by decide) (by decide))
    (htail (by decide) (by decide) (by decide) (by decide))

/-! ## Values -/

theorem HasSign.eq_or_eq (h : HasSign s f body) : f = 1 ∨ f = -1 := by
  cases h with
  | sign hsign => exact hsign.eq_or_eq
  | unsigned => exact .inl rfl

theorem HasDays.nonneg (h : HasDays IsNumber body days time) : 0 ≤ days := by
  cases h with
  | days hdays _ => exact hdays.nonneg
  | none => exact Int.le_refl 0

/-- A fraction is below a second, since it has at most nine digits. -/
theorem IsFraction.lt (h : IsFraction point fraction) : fraction < 1000000000 := by
  cases h with
  | @digits s n hdigits hlength =>
    have hvalue : digitsValue s = n := Int.ofNat_inj.1 hdigits.value
    have hlt : n < 10 ^ s.length := hvalue ▸ digitsValue_lt hdigits.digits
    calc n * 10 ^ (9 - s.length)
        < 10 ^ s.length * 10 ^ (9 - s.length) :=
          Nat.mul_lt_mul_of_pos_right hlt (Nat.pow_pos (by decide))
      _ = 10 ^ 9 := by rw [← Nat.pow_add, Nat.add_sub_cancel' hlength]
  | none => decide

/-- A literal with groups of digits counts its seconds and nanoseconds in the direction of its
sign. -/
theorem Writes.ofSecondsNanos_eq (h : Writes IsNumber s p) (hfits : FitsBits 64 p.whole) :
    FitsBits 64 (p.days * 86400) ∧
      (ofSecondsNanos (p.sign * p.whole) (p.sign * p.fraction)).seconds.toInt = p.sign * p.whole ∧
      (ofSecondsNanos (p.sign * p.whole) (p.sign * p.fraction)).nanos = p.sign * p.fraction := by
  obtain ⟨body, clock, point, hsign, hdays, hclock, hpoint⟩ := h
  have hnonneg := hdays.nonneg
  have hlt := hpoint.lt
  rw [fitsBits_64_iff] at hfits ⊢
  -- Days and time of the day add up without a sign between them.
  have hwhole : p.days * 86400 ≤ p.whole ∧ 0 ≤ p.whole := by
    unfold Parts.whole
    omega
  refine ⟨by omega, ?_⟩
  rcases hsign.eq_or_eq with hf | hf
  · rw [hf, Int.one_mul, Int.one_mul]
    exact ofSecondsNanos_of_agree (.inl (by omega)) (fitsBits_64_iff.2 hfits) (by omega)
  · rw [hf, Int.neg_one_mul, Int.neg_one_mul]
    exact ofSecondsNanos_of_agree (.inr (by omega)) (fitsBits_64_iff.2 (by omega)) (by omega)

end DayTime

end SqlAccess
