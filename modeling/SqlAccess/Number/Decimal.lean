import SqlAccess.Number.Rounding
import SqlAccess.Number.Integer
import SqlAccess.Text.Digits

/-!
# Scaled decimals

A decimal is a sign, a mantissa of at most 96 bits and a scale: the number of its digits after
the point. The scale is part of the value as it is written, but two decimals with different scales
may be numerically equal. A decimal is made with a scale of at most 28; rescaling may go beyond, by
zeros only, and never with a zero. A zero may carry a minus sign.

The documented range ends at 28 fractional digits. What is said about more of them follows what
the decimal arithmetic was seen to answer (`rescale`).
-/

namespace SqlAccess.Number

open SqlAccess.Text

/-- A signed decimal number with a fixed number of fractional digits. The mantissa has at most 96
bits. Only a number that is not zero has more than 28 fractional digits, and those after the 28th
are zeros. -/
structure Decimal where
  negative : Bool
  mantissa : Nat
  scale : Nat
  mantissa_lt : mantissa < 79228162514264337593543950336
  scale_bound : scale ≤ 28 ∨ mantissa ≠ 0 ∧ Nat.pow 10 (scale - 28) ∣ mantissa
deriving DecidableEq

namespace Decimal

/-- The largest scale that a decimal is made with. -/
def maxScale : Nat := 28

/-- Mantissas stay below this bound. -/
def mantissaLimit : Nat := 79228162514264337593543950336

private theorem pow_excess_dvd {scale : Nat} (h : scale ≤ 28) (mantissa : Nat) :
    Nat.pow 10 (scale - 28) ∣ mantissa := by
  rw [Nat.sub_eq_zero_of_le h]
  exact Nat.one_dvd mantissa

/-- The fractional digits after the 28th are zeros. -/
theorem zeros_dvd (d : Decimal) : Nat.pow 10 (d.scale - 28) ∣ d.mantissa := by
  rcases d.scale_bound with hscale | ⟨-, hzeros⟩
  · exact pow_excess_dvd hscale d.mantissa
  · exact hzeros

/-- The decimal of these parts, if they are within bounds. -/
def ofParts? (negative : Bool) (mantissa scale : Nat) : Option Decimal :=
  if h : mantissa < mantissaLimit ∧ scale ≤ 28 then
    some ⟨negative, mantissa, scale, h.1, .inl h.2⟩
  else none

/-- Zero without fractional digits. -/
def zero : Decimal := ⟨false, 0, 0, by decide, .inl (Nat.zero_le 28)⟩

instance : Inhabited Decimal := ⟨zero⟩

/-- The decimal with the value of a 64-bit integer. -/
def ofInt64 (n : Int64) : Decimal :=
  ⟨decide (n.toInt < 0), n.toInt.natAbs, 0, by
    have lo := Int64.le_toInt n
    have hi := Int64.toInt_lt n
    omega, .inl (Nat.zero_le 28)⟩

/-- The mantissa with its sign. -/
def signedMantissa (d : Decimal) : Int :=
  if d.negative then -(d.mantissa : Int) else d.mantissa

/-- The rational number that a decimal stands for. -/
def toRat (d : Decimal) : Rat :=
  (d.signedMantissa : Rat) / (10 : Rat) ^ d.scale

/-- Either zero. -/
def isZero (d : Decimal) : Bool :=
  d.mantissa == 0

/-- The integer part, toward zero. -/
def truncate (d : Decimal) : Int :=
  d.signedMantissa.tdiv (Nat.pow 10 d.scale)

/-- Numeric equality, whatever the scales. -/
def equal (x y : Decimal) : Bool :=
  x.signedMantissa * Nat.pow 10 y.scale == y.signedMantissa * Nat.pow 10 x.scale

/-! ## Text -/

/-- The digits of a mantissa with the point set before the last `scale` of them. -/
def unsignedText (mantissa scale : Nat) : List Char :=
  if scale = 0 then natDigits mantissa
  else
    let digits := paddedDigits (scale + 1) mantissa
    digits.take (digits.length - scale) ++ '.' :: digits.drop (digits.length - scale)

/-- The text of a decimal: its sign, its digits, and a point if it has fractional digits. Texts were
seen with up to 30 of these. -/
def text (d : Decimal) : List Char :=
  (if d.negative then ['-'] else []) ++ unsignedText d.mantissa d.scale

/-! ## Changing the scale -/

/-- The largest number of zeros, up to `tries`, that can be appended to a mantissa. -/
def zerosThatFit (mantissa : Nat) : (tries : Nat) → Nat
  | 0 => 0
  | tries + 1 =>
    if 10 * mantissa < mantissaLimit then zerosThatFit (10 * mantissa) tries + 1 else 0

private theorem mul_zerosThatFit_lt {mantissa : Nat} (h : mantissa < mantissaLimit) (tries : Nat) :
    mantissa * Nat.pow 10 (zerosThatFit mantissa tries) < mantissaLimit := by
  induction tries generalizing mantissa with
  | zero => simpa [zerosThatFit] using h
  | succ tries ih =>
    unfold zerosThatFit
    split
    · next fits =>
      have := ih fits
      rw [Nat.pow_eq] at this ⊢
      rw [Nat.pow_succ, Nat.mul_comm (10 ^ _) 10, ← Nat.mul_assoc, Nat.mul_comm mantissa 10]
      exact this
    · simpa using h

private theorem divHalfUp_pow_lt {m k : Nat} (h : m < mantissaLimit) (hk : 0 < k) :
    divHalfUp m (Nat.pow 10 k) < mantissaLimit := by
  unfold divHalfUp
  -- The divisor is at least ten, so the quotient is far below the mantissa.
  have hpos : 10 ≤ Nat.pow 10 k := by
    calc 10 = 10 ^ 1 := rfl
      _ ≤ 10 ^ k := Nat.pow_le_pow_right (by decide) hk
  rw [Nat.div_lt_iff_lt_mul (by omega)]
  generalize Nat.pow 10 k = d at hpos ⊢
  generalize hl : mantissaLimit = l at h ⊢
  have hl1 : 1 ≤ l := by omega
  have hd : d ≤ l * d := Nat.le_mul_of_pos_left d hl1
  have hten : l * 10 ≤ l * d := Nat.mul_le_mul_left l hpos
  have hsplit : l * (2 * d) = l * d + l * d := by
    rw [← Nat.mul_add, Nat.two_mul]
  omega

/-- Dropping digits keeps the bound: of a mantissa with more than 28 fractional digits only zeros
are dropped as long as more than 28 are left. -/
private theorem scale_bound_divHalfUp {m old new : Nat}
    (h : old ≤ 28 ∨ m ≠ 0 ∧ Nat.pow 10 (old - 28) ∣ m) (less : new < old) :
    new ≤ 28 ∨ divHalfUp m (Nat.pow 10 (old - new)) ≠ 0 ∧
      Nat.pow 10 (new - 28) ∣ divHalfUp m (Nat.pow 10 (old - new)) := by
  by_cases hn : new ≤ 28
  · exact .inl hn
  · -- All digits that are dropped are zeros, so nothing is rounded.
    obtain ⟨hm0, c, rfl⟩ := h.resolve_left (by omega)
    have hsplit : old - 28 = (new - 28) + (old - new) := by omega
    have hpos : 0 < Nat.pow 10 (old - new) := Nat.pow_pos (by decide)
    have hm : Nat.pow 10 (old - 28) * c = Nat.pow 10 (new - 28) * c * Nat.pow 10 (old - new) := by
      simp only [Nat.pow_eq]
      rw [hsplit, Nat.pow_add, Nat.mul_right_comm]
    rw [hm] at hm0
    rw [hm, divHalfUp_mul _ hpos]
    exact .inr ⟨Nat.ne_zero_of_mul_ne_zero_left hm0, Nat.dvd_mul_right _ c⟩

/-- Appending zeros to a mantissa that is not zero keeps the bound. -/
private theorem scale_bound_mul {m scale : Nat} (hm : m ≠ 0)
    (h : Nat.pow 10 (scale - 28) ∣ m) (zeros : Nat) :
    scale + zeros ≤ 28 ∨ m * Nat.pow 10 zeros ≠ 0 ∧
      Nat.pow 10 (scale + zeros - 28) ∣ m * Nat.pow 10 zeros := by
  have hpos : 0 < Nat.pow 10 zeros := Nat.pow_pos (by decide)
  have hle : scale + zeros - 28 ≤ (scale - 28) + zeros := by omega
  refine .inr ⟨Nat.mul_ne_zero hm (Nat.ne_of_gt hpos), ?_⟩
  simp only [Nat.pow_eq] at h ⊢
  exact Nat.dvd_trans (Nat.pow_dvd_pow 10 hle)
    (by rw [Nat.pow_add]; exact Nat.mul_dvd_mul h (Nat.dvd_refl _))

/-- The decimal with `scale` fractional digits. Digits that are dropped round the rest to the
nearest, a half away from zero. Zeros are appended as long as the mantissa stays in bounds, and to
a zero up to the largest scale. The sign stays, also on a result of zero.

More than 28 fractional digits were seen where 30 were asked of `0.5` and `0.08`, which then have
29, and of `10⁻²⁸`, which has 30; and where 29 were asked of `-0.5` and `-10⁻²⁸`. A zero has 28 of
them when 4294967295 are asked. No answer had more than 30: from there on the rule is continued. -/
def rescale (d : Decimal) (scale : Nat) : Decimal :=
  if scale = d.scale then d
  else if less : scale < d.scale then
    ⟨d.negative, divHalfUp d.mantissa (Nat.pow 10 (d.scale - scale)), scale,
      divHalfUp_pow_lt d.mantissa_lt (by omega), scale_bound_divHalfUp d.scale_bound less⟩
  else if hzero : d.mantissa = 0 then
    ⟨d.negative, 0, min scale maxScale, by decide, .inl (Nat.min_le_right _ _)⟩
  else
    let zeros := zerosThatFit d.mantissa (scale - d.scale)
    ⟨d.negative, d.mantissa * Nat.pow 10 zeros, d.scale + zeros,
      mul_zerosThatFit_lt d.mantissa_lt _, scale_bound_mul hzero d.zeros_dvd zeros⟩

end Decimal

end SqlAccess.Number
