import SqlAccess.Number.Decimal
import SqlAccess.Number.Binary64

/-!
# Decimals and doubles

A decimal becomes a double by rounding its integral and fractional parts separately, adding them
and rounding the sum to the decimal's own scale. A whole double becomes a decimal exactly. One with
a fraction trades factors of two for factors of ten in a mantissa of 96 bits, and digits beyond
the precision of a double are then rounded away.
-/

namespace SqlAccess.Number.Decimal

/-! ## To a double -/

/-- The magnitude of a decimal as a double's value, every step rounded. -/
def roundedMagnitude (mantissa scale : Nat) : Rat :=
  if scale = 0 then Binary64.round mantissa
  else
    let power := Nat.pow 10 scale
    let unit := Binary64.round power
    let whole := Binary64.round (mantissa / power : Nat)
    let fraction := Binary64.round (Binary64.round (mantissa % power : Nat) / unit)
    if fraction = 0 then whole
    else
      -- Adding the parts may leave digits beyond the scale; they are rounded away.
      let scaled := Binary64.round (Binary64.round (whole + fraction) * unit)
      let nearest := divHalfUp scaled.num.natAbs scaled.den
      Binary64.round (nearest / unit)

/-- The double nearest to a decimal, as far as rounding its parts allows. A whole decimal without
scale loses the sign of its zero. -/
def toBinary64 (d : Decimal) : Binary64 :=
  Binary64.ofMagnitude (d.negative && !(d.scale == 0 && d.isZero))
    (roundedMagnitude d.mantissa d.scale)

/-! ## From a double -/

/-- A mantissa with a decimal exponent. -/
abbrev Scaled := Nat × Int

/-- Divides by `2 ^ n` in decimal: an even mantissa is halved, an odd one is multiplied by five
and the exponent keeps the tenth, and one that cannot grow loses its last bit. -/
def divideByTwos : (n : Nat) → Scaled → Scaled
  | 0, s => s
  | n + 1, (m, e) =>
    if m % 2 = 0 then divideByTwos n (m / 2, e + 1)
    else if 5 * m < mantissaLimit then divideByTwos n (5 * m, e)
    else divideByTwos n (m / 2, e + 1)

/-- The mantissa without its last digit, rounded by it. -/
def dropDigit (m : Nat) : Nat :=
  m / 10 + if 5 ≤ m % 10 then 1 else 0

/-- Drops `n` digits one at a time, each rounding the rest; a mantissa that vanishes is zero. -/
def dropDigits : (n : Nat) → (m scale : Nat) → Nat × Nat
  | 0, m, scale => (m, scale)
  | n + 1, m, scale =>
    if m / 10 = 0 then (0, 0) else dropDigits n (dropDigit m) (scale - 1)

/-- Drops digits as long as the mantissa is wider than the fraction of a double. -/
def limitPrecision : (m scale : Nat) → Nat × Nat
  | m, 0 => (m, 0)
  | m, scale + 1 =>
    if FloatFormat.double.fractionLimit ≤ m then limitPrecision (dropDigit m) scale
    else (m, scale + 1)

/-- Drops zeros at the end of the fraction. -/
def dropFractionZeros : (m scale : Nat) → Nat × Nat
  | m, 0 => (m, 0)
  | m, scale + 1 => if m % 10 = 0 then dropFractionZeros (m / 10) scale else (m, scale + 1)

/-- The decimal for `m * 2 ^ q`, up to sign. A whole number is exact and has to fit 96 bits: the
double `2 ^ 96`, which is the least that does not, was seen to be refused, and 45EFE86896AA2AF2
below it to become 78999999999999996926548246528. -/
def scaledOfBinary? (m : Nat) (q : Int) : Option (Nat × Nat) :=
  if 0 < q then
    let whole := m * Nat.pow 2 q.natAbs
    if whole < mantissaLimit then some (whole, 0) else none
  else
    let (m, e) := divideByTwos q.natAbs (m, q)
    -- The scale comes into bounds first, then the mantissa.
    let (m, scale) := dropDigits (e.natAbs - maxScale) m e.natAbs
    let (m, scale) := limitPrecision m scale
    some (dropFractionZeros m scale)

/-- The decimal of a double; none if it is infinite, no number, or too large. Zero keeps its sign,
and so does a number too small, which becomes zero. -/
def ofBinary64? (x : Binary64) : Option Decimal :=
  if !x.isFinite then none
  else if x.isZero then ofParts? x.isNegative 0 0
  else
    let (m, q) := FloatFormat.double.significand x.magnitudeWord
    (scaledOfBinary? m q).bind fun (m, scale) => ofParts? x.isNegative m scale

end SqlAccess.Number.Decimal
