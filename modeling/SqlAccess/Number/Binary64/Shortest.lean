import SqlAccess.Number.Binary64
import SqlAccess.Text.Digits

/-!
# Shortest decimal text of a double

A double is written with the fewest decimal digits that read back as the same word. The numbers
that round to a word form an interval, closed if its significand is even; of the decimal grids
with 1, 2, … digits the first with a point in that interval is taken, and of two such points the
nearer one, the larger on a tie. The text is positional at every size and drops trailing zeros.
-/

namespace SqlAccess.Number.Binary64

open SqlAccess.Text

/-- The reals that round to a finite nonzero magnitude word. -/
structure RoundingInterval where
  lower : Rat
  upper : Rat
  closed : Bool

/-- Half the distance to the neighbouring words on each side; below a power of two the words are
twice as dense. -/
def roundingInterval (word : Nat) : RoundingInterval :=
  let (m, q) := FloatFormat.double.significand word
  let x := (m : Rat) * (2 : Rat) ^ q
  let half := (2 : Rat) ^ (q - 1)
  let below :=
    if m = FloatFormat.double.fractionLimit ∧ FloatFormat.double.minExponent < q then half / 2
    else half
  ⟨x - below, x + half, m % 2 == 0⟩

/-- The interval holds `x`. -/
def RoundingInterval.contains (i : RoundingInterval) (x : Rat) : Bool :=
  if i.closed then i.lower ≤ x && x ≤ i.upper else i.lower < x && x < i.upper

/-- The exponent `e` with `10 ^ e ≤ x < 10 ^ (e + 1)`, for a positive `x` in range of a double. -/
def decimalOrder (x : Rat) : Int :=
  let e := (FloatFormat.binaryOrder x * 30103) / 100000
  if (10 : Rat) ^ (e + 1) ≤ x then e + 1
  else if (10 : Rat) ^ e ≤ x then e
  else e - 1

/-- The point of the grid with step `10 ^ q` that stands for `x`: the nearer of its two
neighbours in the interval, the larger on a tie; none if neither is inside. -/
def gridPoint? (i : RoundingInterval) (x : Rat) (q : Int) : Option Nat :=
  let step := (10 : Rat) ^ q
  let scaled := x / step
  let lo := scaled.floor.natAbs
  let hi := lo + 1
  let loIn := i.contains (lo * step)
  let hiIn := i.contains (hi * step)
  if loIn && hiIn then some (if scaled - lo < hi - scaled then lo else hi)
  else if loIn then some lo
  else if hiIn then some hi
  else none

/-- The first grid with a point, counting down from the grid of one digit. -/
def firstGridPoint (i : RoundingInterval) (x : Rat) : (tries : Nat) → (q : Int) → Nat × Int
  | 0, q => ((x / (10 : Rat) ^ q).floor.natAbs, q)
  | tries + 1, q =>
    match gridPoint? i x q with
    | some d => (d, q)
    | none => firstGridPoint i x tries (q - 1)

/-- Digits and decimal exponent of the shortest decimal that reads back as this word. Seventeen
digits always suffice. -/
def shortestDecimal (word : Nat) : Nat × Int :=
  let x := FloatFormat.double.magnitude word
  firstGridPoint (roundingInterval word) x 17 (decimalOrder x)

/-- The positional text of `d * 10 ^ q`. -/
def positional (d : Nat) (q : Int) : List Char :=
  if 0 ≤ q then natDigits d ++ List.replicate q.toNat '0'
  else
    let places := q.natAbs
    let digits := paddedDigits (places + 1) d
    let whole := digits.take (digits.length - places)
    let fraction := dropTrailingZeros (digits.drop (digits.length - places))
    if fraction.isEmpty then whole else whole ++ '.' :: fraction

/-- The text of a double. Both zeros keep their sign, and "not a number" has none. -/
def text (x : Binary64) : List Char :=
  let sign := if x.isNegative then ['-'] else []
  if x.isNaN then "NaN".toList
  else if !x.isFinite then sign ++ "inf".toList
  else if x.isZero then sign ++ ['0']
  else
    let (d, q) := shortestDecimal x.magnitudeWord
    sign ++ positional d q

end SqlAccess.Number.Binary64
