/-!
# 64-bit and 32-bit integers

The step from an unbounded integer to a signed one of so many bits, which exists exactly inside its
range.
-/

namespace SqlAccess.Number

/-- The signed 64-bit integer of this value, if it is in range. -/
def int64? (n : Int) : Option Int64 :=
  if -9223372036854775808 ≤ n ∧ n ≤ 9223372036854775807 then some (Int64.ofInt n) else none

/-- The integer is one of 32 bits, with a sign. -/
def fits32 (n : Int) : Bool :=
  -2147483648 ≤ n && n ≤ 2147483647

theorem fits32_iff {n : Int} : fits32 n = true ↔ -2147483648 ≤ n ∧ n ≤ 2147483647 := by
  simp [fits32]

theorem int64?_toInt (k : Int64) : int64? k.toInt = some k := by
  have lo := Int64.le_toInt k
  have hi := Int64.toInt_lt k
  unfold int64?
  rw [if_pos ⟨lo, by omega⟩, Int64.ofInt_toInt]

theorem int64?_eq_some_iff {n : Int} {k : Int64} : int64? n = some k ↔ k.toInt = n := by
  constructor
  · intro h
    unfold int64? at h
    split at h
    · next hn =>
      cases h
      exact Int64.toInt_ofInt_of_le hn.1 (by omega)
    · cases h
  · rintro rfl
    exact int64?_toInt k

end SqlAccess.Number
