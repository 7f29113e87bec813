/-!
# Rounding quotients

Quotients of naturals rounded to the nearest natural, with a half going to the even neighbour
(`divHalfEven`) or upwards (`divHalfUp`). Rounding a magnitude upwards rounds a signed number
away from zero.
-/

namespace SqlAccess.Number

/-- The natural nearest to `n / d`; of two equally near, the even one. -/
def divHalfEven (n d : Nat) : Nat :=
  let q := n / d
  let r := n % d
  if 2 * r < d then q
  else if d < 2 * r then q + 1
  else q + q % 2

/-- The natural nearest to `n / d`; of two equally near, the larger one. -/
def divHalfUp (n d : Nat) : Nat :=
  (2 * n + d) / (2 * d)

theorem divHalfUp_mul (q : Nat) {d : Nat} (h : 0 < d) : divHalfUp (q * d) d = q := by
  unfold divHalfUp
  have hsum : 2 * (q * d) + d = d + 2 * d * q := by
    rw [Nat.mul_comm q d, ← Nat.mul_assoc, Nat.add_comm]
  rw [hsum, Nat.add_mul_div_left _ _ (by omega : 0 < 2 * d),
    Nat.div_eq_of_lt (by omega), Nat.zero_add]

end SqlAccess.Number
