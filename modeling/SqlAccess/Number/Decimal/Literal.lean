import SqlAccess.Number.Decimal

/-!
# Reading a decimal

A plain literal is an optional sign and digits with at most one point; underscores may follow the
first digit. Digits are taken as long as the mantissa and the scale stay in bounds. The first
fractional digit that no longer fits rounds the rest, a half away from zero, and the digits after
it do not count; an integral digit that does not fit is an error. A scientific literal is a plain
one followed by `e` or `E` and an exponent of at most 28 in magnitude.
-/

namespace SqlAccess.Number.Decimal

open SqlAccess.Text

/-- Rounds by the first digit that no longer fits. A mantissa that overflows by it gives up one
fractional digit. -/
def roundBy (mantissa scale : Nat) (next : Char) : Option (Nat × Nat) :=
  if digitValue next < 5 then some (mantissa, scale)
  else if mantissa + 1 < mantissaLimit then some (mantissa + 1, scale)
  else if scale = 0 then none
  else some ((mantissa + 5) / 10, scale - 1)

/-- Takes digits into a mantissa and a scale. `point` tells whether the point is passed, `seen`
whether there was a digit yet. -/
def takeDigits (point seen : Bool) (mantissa scale : Nat) : List Char → Option (Nat × Nat)
  | [] => if seen then some (mantissa, scale) else none
  | c :: rest =>
    if c.isDigit then
      let mantissa' := 10 * mantissa + digitValue c
      let scale' := if point then scale + 1 else scale
      if mantissa' < mantissaLimit ∧ scale' ≤ maxScale then
        takeDigits point true mantissa' scale' rest
      -- A digit that does not fit is an error before the point and rounds after it.
      else if point ∧ rest.all fun c => c.isDigit || c == '_' then roundBy mantissa scale c
      else none
    else if c = '.' ∧ !point then takeDigits true seen mantissa scale rest
    else if c = '_' ∧ seen then takeDigits point seen mantissa scale rest
    else none

/-- The decimal of a sign and the parts read; a zero has no sign. -/
def ofRead (negative : Bool) (parts : Nat × Nat) : Option Decimal :=
  ofParts? (negative && parts.1 != 0) parts.1 parts.2

/-- Reads a plain literal. -/
def ofPlain? : List Char → Option Decimal
  | '-' :: s => (takeDigits false false 0 0 s).bind (ofRead true)
  | '+' :: s => (takeDigits false false 0 0 s).bind (ofRead false)
  | s => (takeDigits false false 0 0 s).bind (ofRead false)

/-- The same digits read with another scale. -/
def withScale? (d : Decimal) (scale : Nat) : Option Decimal :=
  ofParts? d.negative d.mantissa scale

/-- A decimal divided by a power of ten; digits beyond the largest scale are rounded away. -/
def divPowTen? (d : Decimal) (exponent : Nat) : Option Decimal :=
  if maxScale < exponent then none
  else if maxScale < d.scale + exponent then
    (d.rescale (maxScale - exponent)).withScale? maxScale
  else d.withScale? (d.scale + exponent)

/-- A decimal multiplied by a power of ten. The scale shrinks first; an integer that results has
no fractional digits. -/
def mulPowTen? (d : Decimal) (exponent : Nat) : Option Decimal :=
  if exponent ≤ d.scale then d.withScale? (d.scale - exponent)
  else if maxScale < exponent then none
  else
    let mantissa := d.mantissa * Nat.pow 10 (exponent - d.scale)
    ofParts? (d.negative && mantissa != 0) mantissa 0

/-- Reads a scientific literal. -/
def ofScientific? (s : List Char) : Option Decimal :=
  let base := s.takeWhile fun c => c != 'e' && c != 'E'
  match s.dropWhile fun c => c != 'e' && c != 'E' with
  | [] => none
  | _ :: '-' :: exponent => do
    let d ← ofPlain? base
    divPowTen? d (← unsigned32? exponent)
  | _ :: exponent => do
    let d ← ofPlain? base
    mulPowTen? d (← unsigned32? exponent)

/-- Reads a plain or a scientific literal. -/
def ofText? (s : List Char) : Option Decimal :=
  match ofPlain? s with
  | some d => some d
  | none => ofScientific? s

end SqlAccess.Number.Decimal
