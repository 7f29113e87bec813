import SqlAccess.Proofs.Config.TimeZone

/-!
# Reading an offset back from its text

The text of an offset is its sign and hours, and behind a colon its minutes and perhaps seconds
(`Offset.text_eq`). What is read has hours and minutes only, and less than fifteen hours. So the
text of an offset is read as the offset if it is a zone that configurations can name, and is refused
otherwise (`Offset.ofText?_text_eq`).
-/

namespace SqlAccess.Calendar.Offset

open SqlAccess.Text

variable {o : Offset}

/-! ## Texts in parts -/

/-- What the text of an offset has behind the colon after the hours. -/
def afterHours (o : Offset) : List Char :=
  let n := o.seconds.natAbs
  paddedDigits 2 (n / 60 % 60) ++ if n % 60 = 0 then [] else ':' :: paddedDigits 2 (n % 60)

/-- The text of an offset: its sign, its hours, a colon, and the rest. -/
theorem text_eq (o : Offset) :
    o.text = o.signText ::
      (paddedDigits 2 (o.seconds.natAbs / 3600) ++ ':' :: o.afterHours) := by
  simp [text, afterHours]

/-- The sign of the text is that of the offset. -/
theorem signOf_signText (o : Offset) : SignOf o.signText (if o.seconds < 0 then -1 else 1) := by
  unfold signText
  split
  · exact .minus
  · exact .plus

theorem endsInDigit_text (o : Offset) : EndsInDigit o.text := by
  have hend : EndsInDigit o.afterHours := by
    rw [afterHours]
    split
    · rw [List.append_nil]
      exact endsInDigit_paddedDigits 2 _
    · exact ((endsInDigit_paddedDigits 2 _).cons ':').append_left _
  rw [text_eq]
  exact ((hend.cons ':').append_left _).cons _

/-- A text of an offset has no blank at either end. -/
theorem tight_text (o : Offset) : Tight o.text where
  start := by
    rw [text_eq, signText]
    split <;> (rintro _ ⟨⟩; rfl)
  stop := o.endsInDigit_text.endsTight

/-- Behind the sign there are digits and colons. -/
theorem not_mem_tail_text {c : Char} (hdigit : c.isDigit = false) (hcolon : c ≠ ':') :
    c ∉ o.text.tail := by
  have hdigits (n : Nat) : c ∉ paddedDigits 2 n :=
    (isNumber_paddedDigits 2 n).not_mem hdigit
  rw [text_eq, List.tail_cons, afterHours]
  split <;> simp [hdigits, hcolon]

/-- Only signs, digits and colons stand in the text of an offset. -/
theorem not_mem_text {c : Char} (hdigit : c.isDigit = false) (hsign : c ∉ ['+', '-'])
    (hcolon : c ≠ ':') : c ∉ o.text := by
  have htail := not_mem_tail_text (o := o) hdigit hcolon
  rw [text_eq] at htail ⊢
  refine List.not_mem_cons_of_ne_of_not_mem ?_ htail
  rintro rfl
  exact hsign o.signOf_signText.mem

/-! ## Zones -/

/-- A zone that configurations can name: it has no seconds, and is less than 15 hours off UTC. -/
structure IsZone (o : Offset) : Prop where
  minutes : o.seconds % 60 = 0
  bound : o.seconds.natAbs ≤ 14 * 3600 + 59 * 60

theorem isZone_iff : o.IsZone ↔ o.seconds % 60 = 0 ∧ o.seconds.natAbs ≤ 14 * 3600 + 59 * 60 :=
  ⟨fun h => ⟨h.minutes, h.bound⟩, fun h => ⟨h.1, h.2⟩⟩

instance : DecidablePred IsZone := fun _ => decidable_of_iff' _ isZone_iff

/-- A zone is read back from its text. -/
theorem ofText?_text (h : o.IsZone) : ofText? o.text = some o := by
  have hminutes := h.minutes
  have hbound := h.bound
  have hwhole : o.seconds.natAbs % 60 = 0 := by omega
  -- Hours and minutes count the distance from UTC, and the sign gives it its direction.
  have hwrites : Writes IsNumber o.text o.seconds := by
    rw [text_eq, afterHours, if_pos hwhole, List.append_nil]
    refine ⟨_, _, _, .minutes o.signOf_signText (isNumber_paddedDigits 2 _)
      (isNumber_paddedDigits 2 _), by omega, by omega, ?_⟩
    split <;> omega
  obtain ⟨read, hread, hseconds⟩ :=
    (ofText?_of_not_signsGroup hwrites.not_signsGroup).2 hwrites
  rw [hread, eq_of_seconds_eq hseconds]

/-- Only zones have a text that is read. -/
theorem isZone_of_ofText?_text {read : Offset} (h : ofText? o.text = some read) : o.IsZone := by
  obtain ⟨f, hours, minutes, hparts, hhours, hminutes⟩ := parts?_of_ofText? h
  -- The group of the hours is cut off at the first colon, which is the one that the text has.
  have hnumber := isNumber_paddedDigits 2 (o.seconds.natAbs / 3600)
  rw [text_eq, parts?_cons o.signOf_signText, cutFirst_append (hnumber.not_mem (by decide))]
    at hparts
  simp only [bind, Option.bind_eq_some_iff, signed32?_eq_some_iff, pure, Option.some.injEq,
    Prod.mk.injEq] at hparts
  obtain ⟨_, ⟨hgroup, -⟩, _, ⟨hgroup', -⟩, -, rfl, rfl⟩ := hparts
  -- Seconds would put a colon into the group of the minutes.
  have hcolon := hgroup'.not_mem_colon
  have hwhole : o.seconds.natAbs % 60 = 0 := by
    rw [afterHours] at hcolon
    by_contra hseconds
    simp [hseconds] at hcolon
  -- The hours that were read are those that were written, so the limits of reading are limits of
  -- the offset.
  have hvalue : _ = ((o.seconds.natAbs / 3600 : Nat) : Int) := Option.some.inj
    ((signed?_eq_some_iff.2 hgroup).symm.trans (signed?_eq_some_iff.2 (.number hnumber)))
  exact isZone_iff.2 ⟨by omega, by omega⟩

/-- The text of an offset is read as the offset if it is a zone, and is refused otherwise. -/
theorem ofText?_text_eq (o : Offset) : ofText? o.text = if o.IsZone then some o else none := by
  by_cases hzone : o.IsZone
  · rw [if_pos hzone, ofText?_text hzone]
  · rw [if_neg hzone, Option.eq_none_iff_forall_ne_some]
    exact fun _ hread => hzone (isZone_of_ofText?_text hread)

end SqlAccess.Calendar.Offset
