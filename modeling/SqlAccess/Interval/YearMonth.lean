import SqlAccess.Error
import SqlAccess.Number.Integer
import SqlAccess.Text.Blank
import SqlAccess.Text.Cut
import SqlAccess.Text.Digits

/-!
# Year-month intervals

A year-month interval is a signed number of months, held in 64 bits. Its literal form is years and
months joined by a hyphen, such as `2-6`, after an optional sign.
-/

namespace SqlAccess

open SqlAccess.Text SqlAccess.Number

/-- A signed number of months. -/
structure YearMonth where
  months : Int64
deriving DecidableEq, Inhabited

/-- The sign of a literal and the text after it; a text without a sign is positive. The result
tells whether the literal is negative. -/
def splitSign : List Char → Bool × List Char
  | '-' :: rest => (true, rest)
  | '+' :: rest => (false, rest)
  | s => (false, s)

namespace YearMonth

/-- The sum of years and months, each of either sign, if its steps stay in 64 bits. -/
def ofYearsMonths (years months : Int64) : Except Error YearMonth :=
  let total? := do
    let base ← int64? (years.toInt * 12)
    int64? (base.toInt + months.toInt)
  match total? with
  | some total => .ok ⟨total⟩
  | none => .error (.numericOutOfRange .intervalYearToMonth
      s!"{years.toInt} years {months.toInt} months")

/-- Whole years, toward zero. -/
def years (i : YearMonth) : Int := i.months.toInt.tdiv 12

/-- Months beyond the whole years, with the sign of the interval. -/
def monthsOfYear (i : YearMonth) : Int := i.months.toInt.tmod 12

/-- Years and months of the magnitude, after a minus sign if the interval is negative. -/
def text (i : YearMonth) : List Char :=
  let n := i.months.toInt.natAbs
  (if i.months.toInt < 0 then ['-'] else []) ++ natDigits (n / 12) ++ '-' :: natDigits (n % 12)

/-- Reads an integer that fits 64 bits. -/
def wideInteger? (s : List Char) : Option Int64 :=
  (signed? s).bind int64?

/-- Reads a literal. The months are below 12, and the magnitude fits 64 bits. -/
def ofText? (s : List Char) : Option YearMonth := do
  let (negative, body) := splitSign (trim s)
  let (years, months) ← cutFirst '-' body
  let years ← wideInteger? years
  let months ← wideInteger? months
  if 0 ≤ months.toInt ∧ months.toInt < 12 then
    let base ← int64? (years.toInt * 12)
    let total ← int64? (base.toInt + months.toInt)
    return ⟨if negative then -total else total⟩
  else none

/-- Reads a literal, or says which text is none. -/
def parse (s : String) : Except Error YearMonth :=
  match ofText? s.toList with
  | some i => .ok i
  | none => .error (.invalidFormat .intervalYearToMonth s)

end YearMonth

end SqlAccess
