/-!
# Decimal digits

Writing naturals and integers in base ten, padded or not, and reading signed and unsigned
integer texts. A sign is optional, at least one digit is needed, and nothing else may follow.
-/

namespace SqlAccess.Text

/-- The value of an ASCII digit. -/
def digitValue (c : Char) : Nat :=
  c.toNat - '0'.toNat

/-- The number that a run of digits spells. -/
def digitsValue (s : List Char) : Nat :=
  s.foldl (fun n c => 10 * n + digitValue c) 0

/-- A natural in base ten. -/
def natDigits (n : Nat) : List Char :=
  Nat.toDigits 10 n

/-- A natural in base ten, filled with zeros on the left to at least `width` digits. -/
def paddedDigits (width n : Nat) : List Char :=
  let digits := natDigits n
  List.replicate (width - digits.length) '0' ++ digits

/-- An integer in base ten, with a minus sign if it is negative. -/
def intDigits (n : Int) : List Char :=
  if n < 0 then '-' :: natDigits n.natAbs else natDigits n.natAbs

/-- A text without its trailing zeros. -/
def dropTrailingZeros (s : List Char) : List Char :=
  (s.reverse.dropWhile (· == '0')).reverse

/-- Reads one or more digits and nothing else. -/
def natOfDigits? (s : List Char) : Option Nat :=
  if s ≠ [] ∧ s.all Char.isDigit then some (digitsValue s) else none

/-- Reads digits after an optional plus sign. -/
def unsigned? : List Char → Option Nat
  | '+' :: digits => natOfDigits? digits
  | s => natOfDigits? s

/-- Reads an unsigned number of 32 bits. -/
def unsigned32? (s : List Char) : Option Nat :=
  match unsigned? s with
  | some n => if n < 4294967296 then some n else none
  | none => none

/-- Reads digits after an optional sign. -/
def signed? : List Char → Option Int
  | '-' :: digits => (natOfDigits? digits).map fun n => -(n : Int)
  | s => (unsigned? s).map Int.ofNat

theorem natOfDigits?_eq_some_iff {s : List Char} {n : Nat} :
    natOfDigits? s = some n ↔ (s ≠ [] ∧ s.all Char.isDigit) ∧ digitsValue s = n := by
  unfold natOfDigits?
  split
  · next h => simp [h]
  · next h => simp only [h, false_and, reduceCtorEq]

end SqlAccess.Text
