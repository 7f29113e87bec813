import SqlAccess.Config
import SqlAccess.Proofs.Text.Digits

/-!
# Time zones of a URL

The text of an offset has a sign, a group of digits for the hours, and perhaps a colon and a group
of digits for the minutes (`Offset.Writes`). What is read is more than that, since a group is read
as an integer that may have a sign of its own, and only has an upper limit. This is said by the kind
of group alone: a text is read, unless it overflows, if it is one of the form with groups that may
have signs (`Offset.ofText?_of_not_overflows`), and where no group has a sign, nothing overflows and
only digits are read (`Offset.ofText?_of_not_signsGroup`).
-/

namespace SqlAccess

open SqlAccess.Text SqlAccess.Number SqlAccess.Calendar

namespace Calendar.Offset

/-! ## Texts of offsets -/

/-- A sign, and the factor that it stands for. -/
inductive SignOf : Char → Int → Prop
  | plus : SignOf '+' 1
  | minus : SignOf '-' (-1)

/-- A group of digits, and the number that it is worth. -/
structure IsNumber (s : List Char) (n : Int) : Prop where
  nonempty : s ≠ []
  digits : ∀ c ∈ s, c.isDigit = true
  value : (digitsValue s : Int) = n

/-- A group of digits that may have a sign, and the integer that it is worth. -/
inductive IsSigned : List Char → Int → Prop
  | number {s : List Char} {n : Int} (h : IsNumber s n) : IsSigned s n
  | sign {c : Char} {s : List Char} {f n : Int} (hsign : SignOf c f) (h : IsNumber s n) :
      IsSigned (c :: s) (f * n)

/-- The sign, the hours and the minutes of a text, with groups of some kind. -/
inductive HasParts (Group : List Char → Int → Prop) : List Char → Int × Int × Int → Prop
  | hours {c : Char} {s : List Char} {f h : Int} (hsign : SignOf c f) (hhours : Group s h) :
      HasParts Group (c :: s) (f, h, 0)
  | minutes {c : Char} {s t : List Char} {f h m : Int} (hsign : SignOf c f) (hhours : Group s h)
      (hminutes : Group t m) : HasParts Group (c :: (s ++ ':' :: t)) (f, h, m)

/-- The text is of the form of an offset with groups of some kind, and is for so many seconds. -/
def Writes (Group : List Char → Int → Prop) (s : List Char) (n : Int) : Prop :=
  ∃ f h m, HasParts Group s (f, h, m) ∧ h ≤ 14 ∧ m ≤ 59 ∧ n = f * (h * 3600 + m * 60)

/-- A sign stands where a group starts: behind another sign or behind a colon. -/
def SignsGroup (s : List Char) : Prop :=
  ∃ c ∈ ['+', '-', ':'], ∃ d ∈ ['+', '-'], [c, d] <:+: s

variable {s : List Char} {n : Int}

/-! ## Groups -/

theorem SignOf.mem {c : Char} {f : Int} (h : SignOf c f) : c ∈ ['+', '-'] := by
  cases h <;> simp

theorem SignOf.mem_colon {c : Char} {f : Int} (h : SignOf c f) : c ∈ ['+', '-', ':'] :=
  List.mem_append_left [':'] h.mem

theorem SignOf.eq_or_eq {c : Char} {f : Int} (h : SignOf c f) : f = 1 ∨ f = -1 := by
  cases h <;> simp

/-- A number is read from a group of digits. -/
theorem natOfDigits?_eq_some_iff_isNumber {k : Nat} : natOfDigits? s = some k ↔ IsNumber s k := by
  rw [natOfDigits?_eq_some_iff, List.all_eq_true]
  constructor
  · rintro ⟨⟨hne, hdigits⟩, hvalue⟩
    exact ⟨hne, hdigits, congrArg _ hvalue⟩
  · intro h
    exact ⟨⟨h.nonempty, h.digits⟩, Int.ofNat_inj.1 h.value⟩

namespace IsNumber

theorem nonneg (h : IsNumber s n) : 0 ≤ n := by
  rw [← h.value]
  exact Int.natCast_nonneg _

theorem natOfDigits? (h : IsNumber s n) : natOfDigits? s = some n.toNat := by
  rw [natOfDigits?_eq_some_iff_isNumber, Int.toNat_of_nonneg h.nonneg]
  exact h

theorem not_mem (h : IsNumber s n) {c : Char} (hc : c.isDigit = false) : c ∉ s := by
  intro hmem
  rw [h.digits c hmem] at hc
  cases hc

end IsNumber

/-- A number is written as a group of digits, with its padding. -/
theorem isNumber_paddedDigits (width n : Nat) : IsNumber (paddedDigits width n) n where
  nonempty := paddedDigits_ne_nil width n
  digits _ hc := isDigit_of_mem_paddedDigits hc
  value := congrArg _ (digitsValue_paddedDigits width n)

/-- An integer is read from digits that may have a sign. -/
theorem signed?_eq_some_iff : signed? s = some n ↔ IsSigned s n := by
  constructor
  · intro h
    unfold signed? at h
    split at h
    · next digits =>
      obtain ⟨k, hk, rfl⟩ : ∃ k, natOfDigits? digits = some k ∧ -(k : Int) = n := by
        simpa [Option.map_bind, Option.bind_eq_some_iff] using h
      simpa using IsSigned.sign .minus (natOfDigits?_eq_some_iff_isNumber.1 hk)
    · obtain ⟨k, hk, rfl⟩ := Option.map_eq_some_iff.1 h
      unfold unsigned? at hk
      split at hk
      · simpa using IsSigned.sign .plus (natOfDigits?_eq_some_iff_isNumber.1 hk)
      · exact .number (natOfDigits?_eq_some_iff_isNumber.1 hk)
  · intro h
    cases h with
    -- A group of digits does not start with a sign, so that it is read as it stands.
    | number h =>
      have hminus : '-' ∉ s := h.not_mem (by decide)
      have hplus : '+' ∉ s := h.not_mem (by decide)
      have hvalue : Int.ofNat n.toNat = n := Int.toNat_of_nonneg h.nonneg
      unfold signed?
      split
      · simp at hminus
      · unfold unsigned?
        split
        · simp at hplus
        · rw [h.natOfDigits?, Option.map_some, hvalue]
    | sign hsign h =>
      have hvalue := Int.toNat_of_nonneg h.nonneg
      cases hsign with
      | plus => simp [signed?, unsigned?, h.natOfDigits?, hvalue]
      | minus => simp [signed?, h.natOfDigits?, hvalue]

/-- An integer of 32 bits is read from digits that may have a sign, if it is in range. -/
theorem signed32?_eq_some_iff : signed32? s = some n ↔ IsSigned s n ∧ fits32 n = true := by
  rw [signed32?, Option.filter_eq_some_iff, signed?_eq_some_iff]

/-- A group has only digits and a sign in it. -/
theorem IsSigned.not_mem (h : IsSigned s n) {c : Char} (hdigit : c.isDigit = false)
    (hsign : c ∉ ['+', '-']) : c ∉ s := by
  cases h with
  | number h => exact h.not_mem hdigit
  | sign hsign' h =>
    rw [List.mem_cons, not_or]
    refine ⟨?_, h.not_mem hdigit⟩
    rintro rfl
    exact hsign hsign'.mem

theorem IsSigned.not_mem_colon (h : IsSigned s n) : ':' ∉ s :=
  h.not_mem (by decide) (by decide)

/-- The sign of a group stands behind the first character of the text. -/
theorem SignsGroup.mem_tail (h : SignsGroup s) : '+' ∈ s.tail ∨ '-' ∈ s.tail := by
  obtain ⟨c, -, d, hd, before, after, rfl⟩ := h
  have hmem : d ∈ (before ++ [c, d] ++ after).tail := by
    cases before <;> simp
  simp only [List.mem_cons, List.not_mem_nil, or_false] at hd
  rcases hd with rfl | rfl
  · exact .inl hmem
  · exact .inr hmem

/-! ## Parts -/

/-- The body of a text, behind its sign. -/
theorem parts?_cons {c : Char} {f : Int} (hsign : SignOf c f) (body : List Char) :
    parts? (c :: body) =
      match cutFirst ':' body with
      | some (hours, minutes) => do return (f, ← signed32? hours, ← signed32? minutes)
      | none => do return (f, ← signed32? body, 0) := by
  cases hsign <;> rfl

/-- The parts that are read are those of a text with groups that may have signs. -/
theorem parts?_eq_some_iff {f h m : Int} :
    parts? s = some (f, h, m) ↔
      HasParts IsSigned s (f, h, m) ∧ fits32 h = true ∧ fits32 m = true := by
  constructor
  · intro hparts
    -- Only texts that start with a sign have parts.
    obtain ⟨c, body, g, rfl, hsign⟩ : ∃ c body g, s = c :: body ∧ SignOf c g := by
      unfold parts? at hparts
      split at hparts
      · exact ⟨_, _, _, rfl, .plus⟩
      · exact ⟨_, _, _, rfl, .minus⟩
      · cases hparts
    rw [parts?_cons hsign] at hparts
    cases hcut : cutFirst ':' body with
    | some groups =>
      obtain ⟨hours, minutes⟩ := groups
      simp only [hcut, bind, Option.bind_eq_some_iff, signed32?_eq_some_iff, pure, Option.some.injEq,
        Prod.mk.injEq] at hparts
      obtain ⟨_, ⟨hhours, hfits⟩, _, ⟨hminutes, hfits'⟩, rfl, rfl, rfl⟩ := hparts
      -- What stands around the first colon are the two groups.
      rw [cutFirst_eq_some hcut]
      exact ⟨.minutes hsign hhours hminutes, hfits, hfits'⟩
    | none =>
      simp only [hcut, bind, Option.bind_eq_some_iff, signed32?_eq_some_iff, pure, Option.some.injEq,
        Prod.mk.injEq] at hparts
      obtain ⟨_, ⟨hhours, hfits⟩, rfl, rfl, rfl⟩ := hparts
      exact ⟨.hours hsign hhours, hfits, rfl⟩
  · rintro ⟨hparts, hfits, hfits'⟩
    cases hparts with
    | hours hsign hhours =>
      have hread := signed32?_eq_some_iff.2 ⟨hhours, hfits⟩
      -- No group has a colon in it, so that the text is cut between its groups.
      rw [parts?_cons hsign, cutFirst_eq_none hhours.not_mem_colon]
      simp only [hread]
      rfl
    | minutes hsign hhours hminutes =>
      have hread := signed32?_eq_some_iff.2 ⟨hhours, hfits⟩
      have hread' := signed32?_eq_some_iff.2 ⟨hminutes, hfits'⟩
      rw [parts?_cons hsign, cutFirst_append hhours.not_mem_colon]
      simp only [hread, hread']
      rfl

namespace HasParts

variable {f h m : Int}

/-- A text of the form has groups of digits, or one of its groups has a sign. -/
theorem number_or_signsGroup {p : Int × Int × Int} (hparts : HasParts IsSigned s p) :
    HasParts IsNumber s p ∨ SignsGroup s := by
  cases hparts with
  | hours hsign hhours =>
    cases hhours with
    -- A sign of the hours stands right behind the one of the offset.
    | number hhours => exact .inl (.hours hsign hhours)
    | sign hsign' _ => exact .inr ⟨_, hsign.mem_colon, _, hsign'.mem, [], _, rfl⟩
  | @minutes c first _ _ _ _ hsign hhours hminutes =>
    cases hhours with
    | sign hsign' _ => exact .inr ⟨_, hsign.mem_colon, _, hsign'.mem, [], _, rfl⟩
    | number hhours =>
      cases hminutes with
      | number hminutes => exact .inl (.minutes hsign hhours hminutes)
      | @sign d second _ _ hsign' _ =>
        exact .inr ⟨':', by simp, d, hsign'.mem, c :: first, second, by simp⟩

/-- Where the groups are digits, none of them has a sign. -/
theorem not_signsGroup {p : Int × Int × Int} (hparts : HasParts IsNumber s p) :
    ¬SignsGroup s := by
  -- Behind the first character there are digits and perhaps a colon.
  have hbody {c : Char} (hc : c ∈ s.tail) : c.isDigit = true ∨ c = ':' := by
    cases hparts with
    | hours _ hhours => exact .inl (hhours.digits c hc)
    | minutes _ hhours hminutes =>
      rcases List.mem_append.1 hc with hc | hc
      · exact .inl (hhours.digits c hc)
      · rcases List.mem_cons.1 hc with rfl | hc
        · exact .inr rfl
        · exact .inl (hminutes.digits c hc)
  intro hsigns
  rcases hsigns.mem_tail with hplus | hminus
  · exact absurd (hbody hplus) (by decide)
  · exact absurd (hbody hminus) (by decide)

/-- A group of digits is one that may have a sign. -/
theorem signed {p : Int × Int × Int} (hparts : HasParts IsNumber s p) : HasParts IsSigned s p := by
  cases hparts with
  | hours hsign hhours => exact .hours hsign (.number hhours)
  | minutes hsign hhours hminutes => exact .minutes hsign (.number hhours) (.number hminutes)

/-- A text of the form starts with a sign, whatever its groups are. -/
theorem sign_eq {G : List Char → Int → Prop} (hparts : HasParts G s (f, h, m)) :
    f = 1 ∨ f = -1 := by
  cases hparts with
  | hours hsign _ => exact hsign.eq_or_eq
  | minutes hsign _ _ => exact hsign.eq_or_eq

theorem nonneg (hparts : HasParts IsNumber s (f, h, m)) : 0 ≤ h ∧ 0 ≤ m := by
  cases hparts with
  | hours _ hhours => exact ⟨hhours.nonneg, Int.le_refl 0⟩
  | minutes _ hhours hminutes => exact ⟨hhours.nonneg, hminutes.nonneg⟩

end HasParts

/-! ## Seconds -/

/-- Nothing overflows unless a group has a sign. -/
theorem signsGroup_of_overflows (hoverflows : overflows s = true) : SignsGroup s := by
  unfold overflows at hoverflows
  split at hoverflows
  · next f h m hparts =>
    obtain ⟨hsigned, -, -⟩ := parts?_eq_some_iff.1 hparts
    refine hsigned.number_or_signsGroup.resolve_left fun hnumber => ?_
    -- Groups of digits within their limits make less than a day.
    obtain ⟨hhours, hminutes⟩ := hnumber.nonneg
    have hsign := hnumber.sign_eq
    simp only [Bool.and_eq_true, decide_eq_true_eq, Bool.not_eq_true',
      ← Bool.not_eq_true, fits32_iff] at hoverflows
    rcases hsign with rfl | rfl <;> omega
  · cases hoverflows

/-- Parts within their limits are read as their seconds, unless these overflow. -/
theorem ofText?_of_parts? {f h m : Int} (hparts : parts? s = some (f, h, m)) (hhours : h ≤ 14)
    (hminutes : m ≤ 59) (hfits : overflows s = false) :
    ofText? s = ofSeconds? (f * (h * 3600 + m * 60)) := by
  -- Without an overflow, the seconds are those that integers make.
  obtain ⟨hlow, hhigh⟩ : -2147483648 ≤ f * (h * 3600 + m * 60) ∧
      f * (h * 3600 + m * 60) ≤ 2147483647 := by
    simp only [overflows, hparts, hhours, hminutes, decide_true, Bool.true_and, Bool.not_eq_false',
      Bool.and_eq_true, fits32_iff] at hfits
    exact hfits.2
  have hlimit : ¬(14 < h ∨ 59 < m) := by omega
  simp only [ofText?, hparts, bind, Option.bind, if_neg hlimit]
  rw [Int32.toInt_ofInt_of_le hlow (by omega)]

/-- What is read has parts within their limits. -/
theorem parts?_of_ofText? {o : Offset} (hread : ofText? s = some o) :
    ∃ f h m, parts? s = some (f, h, m) ∧ h ≤ 14 ∧ m ≤ 59 := by
  unfold ofText? at hread
  obtain ⟨⟨f, h, m⟩, hparts, hread⟩ := Option.bind_eq_some_iff.1 hread
  refine ⟨f, h, m, hparts, ?_⟩
  by_cases hlimit : 14 < h ∨ 59 < m
  · simp [hlimit] at hread
  · omega

/-- Unless it overflows, a text is read if it is one of the form with groups that may have signs,
and is for less than a day. -/
theorem ofText?_of_not_overflows (hfits : overflows s = false) :
    (∃ o, ofText? s = some o ∧ o.seconds = n) ↔ n.natAbs < 86400 ∧ Writes IsSigned s n := by
  constructor
  · rintro ⟨o, hread, rfl⟩
    obtain ⟨f, h, m, hparts, hhours, hminutes⟩ := parts?_of_ofText? hread
    rw [ofText?_of_parts? hparts hhours hminutes hfits, ofSeconds?_eq_some_iff] at hread
    exact ⟨o.abs_lt, f, h, m, (parts?_eq_some_iff.1 hparts).1, hhours, hminutes, hread⟩
  · rintro ⟨hday, f, h, m, hsigned, hhours, hminutes, rfl⟩
    -- A group out of range would put the offset out of the day.
    obtain ⟨hfit, hfit'⟩ : fits32 h = true ∧ fits32 m = true := by
      rw [fits32_iff, fits32_iff]
      rcases hsigned.sign_eq with rfl | rfl <;> omega
    have hparts := parts?_eq_some_iff.2 ⟨hsigned, hfit, hfit'⟩
    refine ⟨⟨_, hday⟩, ?_, rfl⟩
    rw [ofText?_of_parts? hparts hhours hminutes hfits, ofSeconds?_eq_some_iff]

theorem Writes.not_signsGroup (h : Writes IsNumber s n) : ¬SignsGroup s := by
  obtain ⟨f, h, m, hparts, -⟩ := h
  exact hparts.not_signsGroup

/-- Where no group has a sign, nothing overflows. -/
theorem not_overflows_of_not_signsGroup (hgroups : ¬SignsGroup s) : overflows s = false := by
  rw [← Bool.not_eq_true]
  exact fun hoverflows => hgroups (signsGroup_of_overflows hoverflows)

/-- Where no group has a sign, just the texts with groups of digits are read. -/
theorem ofText?_of_not_signsGroup (hgroups : ¬SignsGroup s) :
    (∃ o, ofText? s = some o ∧ o.seconds = n) ↔ Writes IsNumber s n := by
  rw [ofText?_of_not_overflows (not_overflows_of_not_signsGroup hgroups)]
  constructor
  · rintro ⟨-, f, h, m, hparts, hrest⟩
    exact ⟨f, h, m, hparts.number_or_signsGroup.resolve_right hgroups, hrest⟩
  · rintro ⟨f, h, m, hparts, hhours, hminutes, rfl⟩
    obtain ⟨hhours', hminutes'⟩ := hparts.nonneg
    refine ⟨?_, f, h, m, hparts.signed, hhours, hminutes, rfl⟩
    -- Fourteen hours and 59 minutes are less than a day, so that the limit is met.
    rcases hparts.sign_eq with rfl | rfl <;> omega

end Calendar.Offset

/-- The offset of a time starts at the last sign, and so it cannot overflow. -/
theorem Calendar.OffsetTime.not_overflows {s time offset : List Char}
    (h : cutBeforeLast (fun c => c == '+' || c == '-') s = some (time, offset)) :
    Offset.overflows offset = false := by
  obtain ⟨c, rest, rfl, hrest⟩ := cutBeforeLast_eq_some h
  refine Offset.not_overflows_of_not_signsGroup ?_
  intro hsigns
  rcases hsigns.mem_tail with hplus | hminus
  · exact absurd (hrest '+' hplus) (by decide)
  · exact absurd (hrest '-' hminus) (by decide)

/-! ## URLs -/

namespace Config

/-- Segments overflow at one of them. -/
theorem exists_segmentOverflows {c : Config} {segments : List (List Char)}
    (h : c.segmentsOverflow segments = true) :
    ∃ segment ∈ segments, segmentOverflows segment = true := by
  induction segments generalizing c with
  | nil => cases h
  | cons segment segments ih =>
    rcases Bool.or_eq_true_iff.1 h with hhead | htail
    · exact ⟨segment, List.mem_cons_self, hhead⟩
    · split at htail
      · obtain ⟨other, hmem, hoverflows⟩ := ih htail
        exact ⟨other, List.mem_cons_of_mem _ hmem, hoverflows⟩
      · cases htail

/-- A segment that overflows is one for the time zone. -/
theorem timeZone_of_segmentOverflows {segment : List Char} (h : segmentOverflows segment = true) :
    ∃ key value, segment = key ++ '=' :: value ∧ asciiLower (trim key) = "time_zone".toList ∧
      Offset.overflows (trim value) = true := by
  unfold segmentOverflows at h
  split at h
  · next key value hcut =>
    simp only [propertyOverflows, Bool.and_eq_true, beq_iff_eq, String.toList_ofList] at h
    obtain ⟨⟨⟨hkey, -⟩, -⟩, hvalue⟩ := h
    have hword : asciiLower (trim key) = "time_zone".toList := by rw [← hkey, String.toList_ofList]
    exact ⟨key, value, cutFirst_eq_some hcut, hword, hvalue⟩
  · cases h

/-- A URL overflows only at a time zone in which some group has a sign. -/
theorem timeZone_of_overflows {url : String} (h : overflows url = true) :
    ∃ c segments key value, start url = .ok (c, segments) ∧ key ++ '=' :: value ∈ segments ∧
      asciiLower (trim key) = "time_zone".toList ∧ Offset.SignsGroup (trim value) := by
  unfold overflows at h
  split at h
  · next c segments hstart =>
    obtain ⟨_, hmem, hsegment⟩ := exists_segmentOverflows h
    obtain ⟨key, value, rfl, hkey, hvalue⟩ := timeZone_of_segmentOverflows hsegment
    exact ⟨c, segments, key, value, hstart, hmem, hkey, Offset.signsGroup_of_overflows hvalue⟩
  · cases h

end Config

namespace Calendar.Offset

/-! ## What is read -/

/-- Where no group has a sign, a text is read exactly if it is one of an offset with groups of
digits, and nothing overflows; so it is for a URL and its time zones. Texts of that form have no
such group. Of the others some are read, those where the integers that the groups are worth make
less than a day. -/
theorem ofText?_groups (s : List Char) (url : String) :
    (¬SignsGroup s → overflows s = false ∧
      ∀ n, (∃ o, ofText? s = some o ∧ o.seconds = n) ↔ Writes IsNumber s n) ∧
    (∀ n, Writes IsNumber s n → ¬SignsGroup s) ∧
    (overflows s = false →
      ∀ n, (∃ o, ofText? s = some o ∧ o.seconds = n) ↔ n.natAbs < 86400 ∧ Writes IsSigned s n) ∧
    (Config.overflows url = true →
      ∃ c segments key value, Config.start url = .ok (c, segments) ∧
        key ++ '=' :: value ∈ segments ∧ asciiLower (trim key) = "time_zone".toList ∧
        SignsGroup (trim value)) := by
  refine ⟨?_, fun n => Writes.not_signsGroup, ?_, Config.timeZone_of_overflows⟩
  · intro hgroups
    exact ⟨not_overflows_of_not_signsGroup hgroups, fun n => ofText?_of_not_signsGroup hgroups⟩
  · intro hfits n
    exact ofText?_of_not_overflows hfits

/-- Eight and a half hours to the west; too many hours; an hour with two signs, and a URL with far
too many of them. -/
theorem ofText?_groups_west :
    (∃ o, ofText? ['-', '0', '8', ':', '3', '0'] = some o ∧ o.seconds = -30600) ∧
      overflows ['+', '1', '5', ':', '0', '0'] = false ∧
      (∃ o, ofText? ['+', '-', '1'] = some o ∧ o.seconds = -3600) ∧
      ∃ c segments key value,
        Config.start "quarry:mem:x;time_zone=+-1193046" = .ok (c, segments) ∧
          key ++ '=' :: value ∈ segments ∧ asciiLower (trim key) = "time_zone".toList ∧
          SignsGroup (trim value) := by
  let url := "quarry:mem:x;time_zone=+-1193046"
  obtain ⟨hwestern, hform, -, hurl⟩ := ofText?_groups ['-', '0', '8', ':', '3', '0'] url
  obtain ⟨hplain, -⟩ := ofText?_groups ['+', '1', '5', ':', '0', '0'] url
  obtain ⟨-, -, hsigned, -⟩ := ofText?_groups ['+', '-', '1'] url
  have hhours : IsNumber ['0', '8'] 8 := ⟨by simp, by simp, rfl⟩
  have hminutes : IsNumber ['3', '0'] 30 := ⟨by simp, by simp, rfl⟩
  have hback : IsSigned ['-', '1'] (-1) := .sign .minus ⟨by simp, by simp, rfl⟩
  have hwest : Writes IsNumber ['-', '0', '8', ':', '3', '0'] (-30600) :=
    ⟨-1, 8, 30, .minutes .minus hhours hminutes, by decide, by decide, rfl⟩
  have htwice : Writes IsSigned ['+', '-', '1'] (-3600) :=
    ⟨1, -1, 0, .hours .plus hback, by decide, by decide, rfl⟩
  have hgroups : ¬SignsGroup ['+', '1', '5', ':', '0', '0'] :=
    fun hsigns => by simpa using hsigns.mem_tail
  exact ⟨((hwestern (hform _ hwest)).2 _).2 hwest, (hplain hgroups).1,
    (hsigned (by decide) _).2 ⟨by decide, htwice⟩, hurl (by decide +kernel)⟩

/-- An hour with a sign of its own is no group of digits, but it is read. With more digits it
overflows, and then it wraps to an offset that the text does not say at all. -/
theorem ofText?_signed_hours :
    (∀ n, ¬Writes IsNumber ['+', '-', '1'] n) ∧
      ofText? ['+', '-', '1'] = some ⟨-3600, by decide⟩ ∧
      overflows "+-1193046".toList = true ∧
      ofText? "+-1193046".toList = some ⟨1696, by decide⟩ ∧
      Config.overflows "quarry:mem:x;time_zone=+-1193046" = true := by
  have hsigns : SignsGroup ['+', '-', '1'] := ⟨'+', by simp, '-', by simp, [], ['1'], rfl⟩
  refine ⟨fun n hwrites => hwrites.not_signsGroup hsigns, ?_, ?_, ?_, ?_⟩
  · decide +kernel
  · decide +kernel
  · decide +kernel
  · decide +kernel

end Calendar.Offset

end SqlAccess
