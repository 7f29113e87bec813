import Mathlib.Algebra.Group.Nat.Defs
import Mathlib.Data.List.TakeWhile
import SqlAccess.Proofs.Text.Trim
import SqlAccess.Text.Digits

/-!
# Laws of digits and blanks

What is written as digits is read back as the same number (`digitsValue_paddedDigits`), and a number
that fits into the width of its field is written with just as many digits. No digit is blank, so
that trimming leaves a text alone that starts with a character which is none and ends in a digit
(`trim_eq_self`).
-/

namespace SqlAccess.Text

/-! ## Numbers as digits -/

/-- The library's fold over decimal digits is the same, so that its lemmas apply. -/
theorem digitsValue_eq_ofDigitChars (s : List Char) : digitsValue s = Nat.ofDigitChars 10 s 0 := rfl

theorem isDigit_of_mem_natDigits {n : Nat} {c : Char} (h : c ∈ natDigits n) : c.isDigit = true :=
  Nat.isDigit_of_mem_toDigits (by decide) (by decide) h

theorem isDigit_of_mem_paddedDigits {width n : Nat} {c : Char} (h : c ∈ paddedDigits width n) :
    c.isDigit = true := by
  rcases List.mem_append.1 h with hzero | hdigit
  · rw [List.eq_of_mem_replicate hzero]
    rfl
  · exact isDigit_of_mem_natDigits hdigit

theorem paddedDigits_ne_nil (width n : Nat) : paddedDigits width n ≠ [] := by
  simp [paddedDigits, natDigits, Nat.toDigits_ne_nil]

theorem exists_cons_paddedDigits (width n : Nat) :
    ∃ c digits, paddedDigits width n = c :: digits ∧ c.isDigit = true := by
  obtain ⟨c, digits, hdigits⟩ := List.exists_cons_of_ne_nil (paddedDigits_ne_nil width n)
  exact ⟨c, digits, hdigits, isDigit_of_mem_paddedDigits (hdigits ▸ List.mem_cons_self)⟩

/-- A text that begins with a number begins with a digit. -/
theorem isDigit_of_mem_head?_paddedDigits (width n : Nat) (rest : List Char) :
    ∀ c ∈ (paddedDigits width n ++ rest).head?, c.isDigit = true := by
  obtain ⟨d, digits, hdigits, hd⟩ := exists_cons_paddedDigits width n
  rw [hdigits]
  rintro _ ⟨⟩
  exact hd

/-- A text that begins with a number does not begin with anything but a digit. -/
theorem paddedDigits_append_ne_cons (width n : Nat) (rest : List Char) {c : Char}
    (hc : c.isDigit = false) (after : List Char) : paddedDigits width n ++ rest ≠ c :: after := by
  obtain ⟨d, digits, hdigits, hd⟩ := exists_cons_paddedDigits width n
  rw [hdigits]
  rintro ⟨⟩
  exact absurd hd (by simp [hc])

/-- A number that fits into its field fills it. -/
theorem length_paddedDigits {width n : Nat} (hwidth : 0 < width) (h : n < Nat.pow 10 width) :
    (paddedDigits width n).length = width := by
  -- As the zeros make up for what is missing, the digits must not be too many.
  have hle : (natDigits n).length ≤ width :=
    (Nat.length_toDigits_le_iff (by decide) hwidth).2 h
  rw [paddedDigits, List.length_append, List.length_replicate]
  omega

/-- What is written is read. The zeros in front do not count. -/
theorem digitsValue_paddedDigits (width n : Nat) : digitsValue (paddedDigits width n) = n := by
  rw [digitsValue_eq_ofDigitChars, paddedDigits, natDigits, Nat.ofDigitChars_append,
    Nat.ofDigitChars_replicate_zero]
  simp

theorem toNat_of_isDigit {c : Char} (h : c.isDigit = true) : 48 ≤ c.toNat ∧ c.toNat ≤ 57 := by
  obtain ⟨hleast, hgreatest⟩ := Bool.and_eq_true_iff.1 h
  exact ⟨UInt32.le_iff_toNat_le.1 (of_decide_eq_true hleast),
    UInt32.le_iff_toNat_le.1 (of_decide_eq_true hgreatest)⟩

/-- Digits in front count as many times more as there are digits behind them. -/
theorem digitsValue_append (s t : List Char) :
    digitsValue (s ++ t) = 10 ^ t.length * digitsValue s + digitsValue t := by
  simp only [digitsValue_eq_ofDigitChars]
  rw [Nat.ofDigitChars_append, Nat.ofDigitChars_eq_ofDigitChars_zero]

/-- So many digits tell no more than so many powers of ten. -/
theorem digitsValue_lt {s : List Char} (h : ∀ c ∈ s, c.isDigit = true) :
    digitsValue s < 10 ^ s.length := by
  induction s with
  | nil => decide
  | cons c rest ih =>
    rw [List.forall_mem_cons] at h
    have hrest := ih h.2
    -- The first digit counts as often as the others have values, and is nine at most.
    have hdigit : digitsValue [c] ≤ 9 := by
      have hrange := toNat_of_isDigit h.1
      simp only [digitsValue, List.foldl_cons, List.foldl_nil, digitValue, Char.reduceToNat]
      omega
    have hscaled := Nat.mul_le_mul_left (10 ^ rest.length) hdigit
    have hsplit := digitsValue_append [c] rest
    rw [List.singleton_append] at hsplit
    rw [hsplit, List.length_cons, Nat.pow_succ]
    omega

/-- Dropping the trailing zeros of a text takes away zeros only. -/
theorem exists_zeros_dropTrailingZeros (s : List Char) :
    ∃ zeros, s = dropTrailingZeros s ++ List.replicate zeros '0' := by
  have hzeros : ∀ c ∈ s.reverse.takeWhile (· == '0'), c = '0' := by
    intro c hc
    simpa using List.mem_takeWhile_imp hc
  -- Seen from the end, the text is the zeros and what is kept.
  refine ⟨(s.reverse.takeWhile (· == '0')).length, ?_⟩
  calc s = (s.reverse.takeWhile (· == '0') ++ s.reverse.dropWhile (· == '0')).reverse := by
        rw [List.takeWhile_append_dropWhile, List.reverse_reverse]
    _ = _ := by
        rw [List.reverse_append, List.eq_replicate_of_mem hzeros, List.reverse_replicate,
          List.length_replicate, dropTrailingZeros]

/-! ## Blanks -/

theorem isBlank_eq_false_of_isDigit {c : Char} (h : c.isDigit = true) : isBlank c = false := by
  have hrange := toNat_of_isDigit h
  simp only [isBlank, Bool.or_eq_false_iff, Bool.and_eq_false_iff, decide_eq_false_iff_not,
    beq_eq_false_iff_ne]
  omega

theorem trimStart_cons_of_not_isBlank {c : Char} (h : isBlank c = false) (s : List Char) :
    trimStart (c :: s) = c :: s := by
  simp [trimStart, h]

theorem dropWhile_paddedDigits {p : Char → Bool} (hp : ∀ c, c.isDigit = true → p c = false)
    (width n : Nat) (rest : List Char) :
    (paddedDigits width n ++ rest).dropWhile p = paddedDigits width n ++ rest := by
  obtain ⟨c, digits, hdigits, hc⟩ := exists_cons_paddedDigits width n
  rw [hdigits, List.cons_append]
  exact List.dropWhile_cons_of_neg (by simp [hp c hc])

theorem trimStart_paddedDigits (width n : Nat) (rest : List Char) :
    trimStart (paddedDigits width n ++ rest) = paddedDigits width n ++ rest :=
  dropWhile_paddedDigits (fun _ => isBlank_eq_false_of_isDigit) width n rest

/-- A text whose last character is a digit. -/
def EndsInDigit (s : List Char) : Prop :=
  ∃ before c, s = before ++ [c] ∧ c.isDigit = true

theorem endsInDigit_paddedDigits (width n : Nat) : EndsInDigit (paddedDigits width n) := by
  have hne := paddedDigits_ne_nil width n
  exact ⟨_, _, (List.dropLast_concat_getLast hne).symm,
    isDigit_of_mem_paddedDigits (List.getLast_mem hne)⟩

theorem EndsInDigit.append_left {s : List Char} (h : EndsInDigit s) (before : List Char) :
    EndsInDigit (before ++ s) := by
  obtain ⟨inner, c, rfl, hc⟩ := h
  exact ⟨before ++ inner, c, (List.append_assoc ..).symm, hc⟩

theorem EndsInDigit.cons {s : List Char} (h : EndsInDigit s) (c : Char) : EndsInDigit (c :: s) :=
  h.append_left [c]

/-- No digit is blank. -/
theorem EndsInDigit.endsTight {s : List Char} (h : EndsInDigit s) : EndsTight s := by
  obtain ⟨before, c, rfl, hc⟩ := h
  intro last hlast
  rw [List.getLast?_concat] at hlast
  cases hlast
  exact isBlank_eq_false_of_isDigit hc

/-- Trimming leaves a text with a digit at the end, if it leaves the start. -/
theorem trim_eq_self {s : List Char} (hstart : trimStart s = s) (hend : EndsInDigit s) :
    trim s = s := by
  rw [trim, hstart, hend.endsTight.trimEnd_eq_self]

end SqlAccess.Text
