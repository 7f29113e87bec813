import SqlAccess.Calendar.Timestamp
import SqlAccess.Text.Blank

/-!
# Reading dates and times

Each reader takes one field off the front of a text and returns the rest. Blanks may stand before
every numeric field. Fields of a clock have at most two digits; a year has at most four unless it
has a sign; a fraction keeps its first nine digits and drops the others. A second of 60 is the
leap second after 59. A literal has to be used up by its fields.
-/

namespace SqlAccess.Calendar

open SqlAccess.Text

/-- Takes one given character. -/
def takeChar (c : Char) : List Char → Option (List Char)
  | [] => none
  | d :: rest => if c = d then some rest else none

/-- Takes one up to `limit` digits. -/
def takeDigits (limit : Nat) (s : List Char) : Option (Nat × List Char) :=
  let digits := (s.take limit).takeWhile Char.isDigit
  if digits = [] then none else some (digitsValue digits, s.drop digits.length)

/-- Takes a number of at most `limit` digits that lies between `lo` and `hi`. -/
def takeField (limit lo hi : Nat) (s : List Char) : Option (Nat × List Char) :=
  match takeDigits limit (trimStart s) with
  | some (n, rest) => if lo ≤ n ∧ n ≤ hi then some (n, rest) else none
  | none => none

/-- Takes a year: up to four digits, or any number of them after a sign. -/
def takeYear (s : List Char) : Option (Int × List Char) :=
  match trimStart s with
  | '-' :: rest => (takeDigits rest.length rest).map fun (n, rest) => (-(n : Int), rest)
  | '+' :: rest => (takeDigits rest.length rest).map fun (n, rest) => ((n : Int), rest)
  | s => (takeDigits 4 s).map fun (n, rest) => ((n : Int), rest)

/-- Takes the nanoseconds after a point, if there is a point. -/
def takeFraction : List Char → Option (Nat × List Char)
  | '.' :: s =>
    match takeDigits 9 s with
    | none => none
    | some (n, rest) =>
      some (n * Nat.pow 10 (9 - (s.length - rest.length)), rest.dropWhile Char.isDigit)
  | s => some (0, s)

/-- Takes year, month and day, joined by hyphens. -/
def takeDate (s : List Char) : Option (Date × List Char) := do
  let (year, s) ← takeYear s
  let s ← takeChar '-' s
  let (month, s) ← takeField 2 1 12 s
  let s ← takeChar '-' s
  let (day, s) ← takeField 2 1 31 s
  return (← Date.ofParts? year month day, s)

/-- Takes hours, minutes and seconds, joined by colons, and an optional fraction. -/
def takeTime (s : List Char) : Option (TimeOfDay × List Char) := do
  let (hour, s) ← takeField 2 0 23 s
  let s ← takeChar ':' s
  let (minute, s) ← takeField 2 0 59 s
  let s ← takeChar ':' s
  let (second, s) ← takeField 2 0 60 s
  let (nano, s) ← takeFraction s
  -- The leap second is the one after 59, with its nanoseconds counted on.
  let time ←
    if second = 60 then TimeOfDay.ofParts? hour minute 59 (1000000000 + nano)
    else TimeOfDay.ofParts? hour minute second nano
  return (time, s)

/-- Takes a date and a time with blanks between them. -/
def takeSpacedTimestamp (s : List Char) : Option (Timestamp × List Char) := do
  let (date, s) ← takeDate s
  let (time, s) ← takeTime (trimStart s)
  return (⟨date, time⟩, s)

/-- Takes a date and a time joined by `T`. -/
def takeJoinedTimestamp (s : List Char) : Option (Timestamp × List Char) := do
  let (date, s) ← takeDate s
  let s ← takeChar 'T' s
  let (time, s) ← takeTime s
  return (⟨date, time⟩, s)

/-- Takes the sign of an offset; the typographic minus sign is one too. The result tells whether
the offset is negative. -/
def takeSign : List Char → Option (Bool × List Char)
  | '+' :: rest => some (false, rest)
  | '-' :: rest => some (true, rest)
  | '\u2212' :: rest => some (true, rest)
  | _ => none

/-- Takes exactly two digits. -/
def takeTwoDigits : List Char → Option (Nat × List Char)
  | a :: b :: rest =>
    if a.isDigit ∧ b.isDigit then some (10 * digitValue a + digitValue b, rest) else none
  | _ => none

/-- Takes an offset: a sign, two digits of hours, colons or blanks, and two digits of minutes. -/
def takeOffset (s : List Char) : Option (Offset × List Char) := do
  let (negative, s) ← takeSign (trimStart s)
  let (hours, s) ← takeTwoDigits s
  let (minutes, s) ← takeTwoDigits (s.dropWhile fun c => c == ':' || isBlank c)
  if minutes < 60 then
    let seconds : Int := hours * 3600 + minutes * 60
    return (← Offset.ofSeconds? (if negative then -seconds else seconds), s)
  else none

/-- Takes a timestamp with blanks before the time, and an offset; the instant has to be in
range. -/
def takeZonedTimestamp (s : List Char) : Option (ZonedTimestamp × List Char) := do
  let (ts, s) ← takeSpacedTimestamp s
  let (offset, s) ← takeOffset s
  return (← ZonedTimestamp.ofLocal? ts offset, s)

/-- The value read, if the text is used up. -/
def whole {α : Type} : Option (α × List Char) → Option α
  | some (a, []) => some a
  | _ => none

/-! ## Literals -/

/-- Reads a date of three fields. -/
def plainDate? (s : List Char) : Option Date :=
  whole (takeDate s)

/-- Reads a time of day. -/
def TimeOfDay.ofText? (s : List Char) : Option TimeOfDay :=
  whole (takeTime (trim s))

/-- Reads a timestamp: date and time separated by blanks or by `T`, or a date alone, which stands
for its midnight. -/
def Timestamp.ofText? (s : List Char) : Option Timestamp :=
  let s := trim s
  match whole (takeSpacedTimestamp s) with
  | some ts => some ts
  | none =>
    match whole (takeJoinedTimestamp s) with
    | some ts => some ts
    | none => (plainDate? s).map .ofDate

/-- Reads a date, or a timestamp for its date. -/
def Date.ofText? (s : List Char) : Option Date :=
  match plainDate? (trim s) with
  | some d => some d
  | none => (Timestamp.ofText? s).map (·.date)

/-- Reads a zoned timestamp; one without an offset is local to `zone`. -/
def ZonedTimestamp.ofText? (zone : Offset) (s : List Char) : Option ZonedTimestamp :=
  match whole (takeZonedTimestamp (trim s)) with
  | some z => some z
  | none => (Timestamp.ofText? s).bind (ZonedTimestamp.ofLocal? · zone)

theorem whole_eq_some_iff {α : Type} {r : Option (α × List Char)} {a : α} :
    whole r = some a ↔ r = some (a, []) := by
  unfold whole
  split
  · simp
  · next h => simp; rintro rfl; exact h a rfl

/-- The date of a text that is a timestamp is the timestamp's date, unless the text is a plain
date already. -/
theorem Date.ofText?_of_plainDate?_eq_none {s : List Char} (h : plainDate? (trim s) = none) :
    Date.ofText? s = (Timestamp.ofText? s).map (·.date) := by
  simp [Date.ofText?, h]

end SqlAccess.Calendar
