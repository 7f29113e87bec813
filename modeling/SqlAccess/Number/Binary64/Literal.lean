import SqlAccess.Number.Binary64
import SqlAccess.Text.Digits

/-!
# Reading a double

A literal is an optional sign and either digits with an optional point and an optional exponent,
or one of the words `inf`, `infinity` and `nan` in any case. It is rounded to the nearest double.
-/

namespace SqlAccess.Number.Binary64

open SqlAccess.Text

/-- The decimal `digits * 10 ^ exponent`. -/
structure DecimalLiteral where
  digits : Nat
  exponent : Int

/-- Reads digits with at most one point among or beside them, at least one digit, and an optional
exponent after `e` or `E`. -/
def decimalLiteral? (s : List Char) : Option DecimalLiteral :=
  let whole := s.takeWhile Char.isDigit
  let afterWhole := s.dropWhile Char.isDigit
  let (fraction, tail) :=
    match afterWhole with
    | '.' :: rest => (rest.takeWhile Char.isDigit, rest.dropWhile Char.isDigit)
    | _ => ([], afterWhole)
  let digits := digitsValue (whole ++ fraction)
  if whole ++ fraction = [] then none
  else
    match tail with
    | [] => some ⟨digits, -fraction.length⟩
    | c :: rest =>
      if c = 'e' ∨ c = 'E' then
        (signed? rest).map fun e => ⟨digits, e - fraction.length⟩
      else none

/-- The double of this sign nearest to a decimal. Exponents so large or small that the result is
surely infinite or zero are not multiplied out. -/
def ofDecimalLiteral (negative : Bool) (d : DecimalLiteral) : Binary64 :=
  let order : Int := d.exponent + (natDigits d.digits).length
  if d.digits = 0 ∨ order < -330 then ofMagnitude negative 0
  else if 310 < order then infinity negative
  else ofMagnitude negative ((d.digits : Rat) * (10 : Rat) ^ d.exponent)

/-- Reads an unsigned literal. -/
def unsignedLiteral? (negative : Bool) (s : List Char) : Option Binary64 :=
  let word := s.map Char.toLower
  if word = "inf".toList ∨ word = "infinity".toList then some (infinity negative)
  else if word = "nan".toList then some nan
  else (decimalLiteral? s).map (ofDecimalLiteral negative)

/-- Reads a double. -/
def ofText? : List Char → Option Binary64
  | '-' :: s => unsignedLiteral? true s
  | '+' :: s => unsignedLiteral? false s
  | s => unsignedLiteral? false s

end SqlAccess.Number.Binary64
