import Mathlib.Algebra.Group.Int.Defs
import SqlAccess.Number.Integer

/-!
# Integers of a width

An integer fits so many bits if it is a signed integer of that width. Those that fit 64 bits are
just those that a 64-bit integer can stand for (`fitsBits_64_iff_exists`). Any other integer wraps
around to the one among them that differs from it by turns of 2^64 (`toInt_ofInt_of_turns`).
-/

namespace SqlAccess

open SqlAccess.Number

/-- The integer is a signed one of so many bits. -/
def FitsBits (width : Nat) (n : Int) : Prop :=
  -2 ^ (width - 1) ≤ n ∧ n < 2 ^ (width - 1)
deriving Decidable

variable {n : Int}

/-- The limits of 64 bits, as numbers. -/
theorem fitsBits_64_iff :
    FitsBits 64 n ↔ -9223372036854775808 ≤ n ∧ n ≤ 9223372036854775807 := by
  rw [FitsBits, ← Int.lt_add_one_iff (b := 9223372036854775807)]
  rfl

theorem int64?_of_fitsBits (h : FitsBits 64 n) : int64? n = some (Int64.ofInt n) :=
  if_pos (fitsBits_64_iff.1 h)

theorem fitsBits_64_toInt (k : Int64) : FitsBits 64 k.toInt :=
  fitsBits_64_iff.2 ⟨Int64.le_toInt k, Int.le_of_lt_add_one (Int64.toInt_lt k)⟩

theorem toInt_ofInt_of_fitsBits (h : FitsBits 64 n) : (Int64.ofInt n).toInt = n :=
  int64?_eq_some_iff.1 (int64?_of_fitsBits h)

/-- The integers that fit are those that one of 64 bits stands for. -/
theorem fitsBits_64_iff_exists : FitsBits 64 n ↔ ∃ k : Int64, k.toInt = n := by
  constructor
  · intro h
    exact ⟨_, toInt_ofInt_of_fitsBits h⟩
  · rintro ⟨k, rfl⟩
    exact fitsBits_64_toInt k

/-- An integer wraps around to the one of 64 bits that is so many turns away. -/
theorem toInt_ofInt_of_turns {turns : Int} (h : FitsBits 64 (n - turns * 18446744073709551616)) :
    (Int64.ofInt n).toInt = n - turns * 18446744073709551616 := by
  -- Both integers are the same up to turns, and the second one fits.
  calc (Int64.ofInt n).toInt
      = n.bmod Int64.size := Int64.toInt_ofInt
    _ = (n - turns * 18446744073709551616).bmod Int64.size :=
        (Int.sub_mul_bmod_self_right n turns Int64.size).symm
    _ = (Int64.ofInt (n - turns * 18446744073709551616)).toInt := Int64.toInt_ofInt.symm
    _ = n - turns * 18446744073709551616 := toInt_ofInt_of_fitsBits h

/-- Negating does not wrap around if the result fits. -/
theorem toInt_neg_of_fitsBits {k : Int64} (h : FitsBits 64 (-k.toInt)) : (-k).toInt = -k.toInt := by
  calc (-k).toInt
      = (-k.toInt).bmod (2 ^ 64) := Int64.toInt_neg k
    _ = (Int64.ofInt (-k.toInt)).toInt := Int64.toInt_ofInt.symm
    _ = -k.toInt := toInt_ofInt_of_fitsBits h

end SqlAccess
