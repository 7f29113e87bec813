import SqlAccess.Number.Rounding

/-!
# Binary floating point

A double-precision number is its 64-bit word. Finite words stand for rationals, and every
operation rounds the exact rational result once: to the nearest word, a tie going to the even one.
`FloatFormat` fixes the widths of the two fields, so that single precision is the same rounding
with other widths.
-/

namespace SqlAccess.Number

/-- Widths of the fraction and exponent fields of an interchange format. -/
structure FloatFormat where
  fractionBits : Nat
  exponentBits : Nat
deriving DecidableEq

namespace FloatFormat

/-- Double precision. -/
def double : FloatFormat := ⟨52, 11⟩

/-- Single precision. -/
def single : FloatFormat := ⟨23, 8⟩

/-- Fractions stay below this bound. -/
def fractionLimit (f : FloatFormat) : Nat :=
  Nat.pow 2 f.fractionBits

/-- The exponent of two that the last fraction bit of the smallest numbers counts. -/
def minExponent (f : FloatFormat) : Int :=
  2 - Nat.pow 2 (f.exponentBits - 1) - f.fractionBits

/-- The magnitude word of infinity. -/
def infinityWord (f : FloatFormat) : Nat :=
  (Nat.pow 2 f.exponentBits - 1) * f.fractionLimit

/-- The significand and exponent of two that a finite magnitude word stands for. -/
def significand (f : FloatFormat) (word : Nat) : Nat × Int :=
  let exponent := word / f.fractionLimit
  let fraction := word % f.fractionLimit
  if exponent = 0 then (fraction, f.minExponent)
  else (f.fractionLimit + fraction, f.minExponent + (exponent - 1 : Nat))

/-- The rational that a finite magnitude word stands for. -/
def magnitude (f : FloatFormat) (word : Nat) : Rat :=
  let (m, q) := f.significand word
  (m : Rat) * (2 : Rat) ^ q

/-- The exponent `e` with `2 ^ e ≤ x < 2 ^ (e + 1)`, for a positive `x`. -/
def binaryOrder (x : Rat) : Int :=
  let e : Int := (Nat.log2 x.num.natAbs : Int) - Nat.log2 x.den
  if (2 : Rat) ^ e ≤ x then e else e - 1

/-- The magnitude word nearest to a nonnegative rational; beyond the largest finite word it is
that of infinity. -/
def nearestWord (f : FloatFormat) (x : Rat) : Nat :=
  if x.num ≤ 0 then 0
  else
    let q := max (binaryOrder x - f.fractionBits) f.minExponent
    let scaled := x / (2 : Rat) ^ q
    let m := divHalfEven scaled.num.natAbs scaled.den
    -- A significand that rounds up to the next power of two carries into the exponent field.
    min ((q - f.minExponent).toNat * f.fractionLimit + m) f.infinityWord

end FloatFormat

/-- A double-precision number, given by its word. -/
structure Binary64 where
  word : UInt64
deriving DecidableEq, Inhabited

/-- What a double-precision word stands for. -/
inductive Binary64.Class
  | nan
  | infinity (negative : Bool)
  | finite (negative : Bool) (magnitude : Rat)
deriving DecidableEq

namespace Binary64

open FloatFormat

/-- The word of the sign bit alone. -/
def signWord : Nat := 9223372036854775808

/-- The word without its sign bit. -/
def magnitudeWord (x : Binary64) : Nat :=
  x.word.toNat % signWord

/-- The sign bit. -/
def isNegative (x : Binary64) : Bool :=
  signWord ≤ x.word.toNat

/-- The number with this sign and magnitude word. -/
def ofParts (negative : Bool) (word : Nat) : Binary64 :=
  ⟨UInt64.ofNat ((if negative then signWord else 0) + word)⟩

/-- The quiet word that stands for "not a number". -/
def nan : Binary64 := ofParts false (double.infinityWord + double.fractionLimit / 2)

/-- The infinity of this sign. -/
def infinity (negative : Bool) : Binary64 :=
  ofParts negative double.infinityWord

/-- What the word stands for. -/
def classify (x : Binary64) : Class :=
  let w := x.magnitudeWord
  if double.infinityWord < w then .nan
  else if w = double.infinityWord then .infinity x.isNegative
  else .finite x.isNegative (double.magnitude w)

/-- Neither an infinity nor "not a number". -/
def isFinite (x : Binary64) : Bool :=
  x.magnitudeWord < double.infinityWord

/-- The word stands for no number. -/
def isNaN (x : Binary64) : Bool :=
  double.infinityWord < x.magnitudeWord

/-- Either zero. -/
def isZero (x : Binary64) : Bool :=
  x.magnitudeWord == 0

/-- The number of this sign nearest to a nonnegative rational. -/
def ofMagnitude (negative : Bool) (x : Rat) : Binary64 :=
  ofParts negative (double.nearestWord x)

/-- The number nearest to an integer. -/
def ofInt (n : Int) : Binary64 :=
  ofMagnitude (decide (n < 0)) (n.natAbs : Rat)

/-- A nonnegative rational rounded to double precision. -/
def round (x : Rat) : Rat :=
  double.magnitude (double.nearestWord x)

/-- The integer part, toward zero; none for an infinity or "not a number". -/
def truncate? (x : Binary64) : Option Int :=
  match x.classify with
  | .finite negative magnitude =>
    some (if negative then -magnitude.floor else magnitude.floor)
  | _ => none

/-- The largest finite magnitude of single precision. -/
def singleMax : Rat :=
  single.magnitude (single.infinityWord - 1)

/-- The number rounded to single precision and widened again; "not a number" stays. -/
def toSingle (x : Binary64) : Binary64 :=
  match x.classify with
  | .finite negative magnitude =>
    let word := single.nearestWord magnitude
    if word = single.infinityWord then infinity negative
    else ofMagnitude negative (single.magnitude word)
  | _ => x

/-- A finite number beyond single precision. -/
def exceedsSingle (x : Binary64) : Bool :=
  match x.classify with
  | .finite _ magnitude => singleMax < magnitude
  | _ => false

/-- Numeric equality: "not a number" equals nothing, and the two zeros are equal. -/
def equal (x y : Binary64) : Bool :=
  !x.isNaN && !y.isNaN && (x.word == y.word || (x.isZero && y.isZero))

end Binary64

end SqlAccess.Number
