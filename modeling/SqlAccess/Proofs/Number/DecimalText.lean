import Mathlib.Algebra.Group.Int.Defs
import SqlAccess.Number.Decimal.Literal
import SqlAccess.Proofs.Text.Digits

/-!
# Reading a decimal back from its text

The digits of a decimal all fit, since its mantissa does: they are taken one after the other, first
those before the point and then those behind it (`takeDigits_run`). Digits behind the 28th
fractional one are zeros, which round nothing (`takeDigits_zeros`). So the text of a decimal is read
as the same number (`ofText?_text`, `equal_asRead`), and as the same decimal unless that shows a
minus sign before zero or more fractional digits than are read (`asRead_eq_self`).
-/

namespace SqlAccess.Number.Decimal

open SqlAccess.Text

/-! ## Taking digits -/

/-- The first digit is added behind what the digits before it have made. -/
theorem ofDigitChars_cons (c : Char) (s : List Char) (start : Nat) :
    Nat.ofDigitChars 10 (c :: s) start = Nat.ofDigitChars 10 s (10 * start + digitValue c) :=
  Nat.ofDigitChars_cons

/-- Digits behind a number never make it smaller. -/
theorem le_ofDigitChars (s : List Char) (start : Nat) : start ≤ Nat.ofDigitChars 10 s start := by
  rw [Nat.ofDigitChars_eq_ofDigitChars_zero]
  have hscaled : 1 * start ≤ 10 ^ s.length * start :=
    Nat.mul_le_mul_right start (Nat.pow_pos (by decide))
  omega

/-- Digits that fit are taken one after the other. -/
theorem takeDigits_run {point seen : Bool} {mantissa scale : Nat} {digits : List Char}
    (hdigits : ∀ c ∈ digits, c.isDigit = true) (hseen : digits = [] → seen = true)
    (hmantissa : Nat.ofDigitChars 10 digits mantissa < mantissaLimit)
    (hscale : scale + (if point then digits.length else 0) ≤ maxScale) (rest : List Char) :
    takeDigits point seen mantissa scale (digits ++ rest) =
      takeDigits point true (Nat.ofDigitChars 10 digits mantissa)
        (scale + if point then digits.length else 0) rest := by
  induction digits generalizing seen mantissa scale with
  | nil =>
    rw [hseen rfl]
    simp
  | cons c digits ih =>
    rw [List.forall_mem_cons] at hdigits
    rw [ofDigitChars_cons] at hmantissa ⊢
    -- What the first digit makes is at most what all of them make.
    have hfits : 10 * mantissa + digitValue c < mantissaLimit :=
      Nat.lt_of_le_of_lt (le_ofDigitChars digits _) hmantissa
    have hgrown : (if point then scale + 1 else scale) + (if point then digits.length else 0) =
        scale + if point then (c :: digits).length else 0 := by
      cases point with
      | false => rfl
      | true =>
        simp only [if_true, List.length_cons]
        omega
    have hle : (if point then scale + 1 else scale) ≤ maxScale := by omega
    rw [List.cons_append, takeDigits, if_pos hdigits.1, if_pos ⟨hfits, hle⟩,
      ih hdigits.2 (fun _ => rfl) hmantissa (hgrown ▸ hscale), hgrown]

/-- Zeros behind the last digit that fits do not count. -/
theorem takeDigits_zeros {mantissa scale : Nat} {digits : List Char}
    (hdigits : ∀ c ∈ digits, c.isDigit = true) (hzero : digitsValue digits = 0)
    (hscale : digits = [] ∨ scale = maxScale) :
    takeDigits true true mantissa scale digits = some (mantissa, scale) := by
  cases digits with
  | nil => rfl
  | cons c digits =>
    rw [List.forall_mem_cons] at hdigits
    obtain hnil | rfl := hscale
    · cases hnil
    · have hfull : ¬(10 * mantissa + digitValue c < mantissaLimit ∧ maxScale + 1 ≤ maxScale) := by
        omega
      have hrest : (true = true ∧ digits.all fun c => c.isDigit || c == '_') := by
        refine ⟨rfl, List.all_eq_true.2 fun d hd => ?_⟩
        rw [hdigits.2 d hd, Bool.true_or]
      have hfirst : digitValue c = 0 := by
        rw [digitsValue_eq_ofDigitChars, ofDigitChars_cons] at hzero
        have hle := le_ofDigitChars digits (10 * 0 + digitValue c)
        omega
      -- The scale is full, so the first digit only rounds, and a zero rounds nothing.
      rw [takeDigits, if_pos hdigits.1, if_pos rfl, if_neg hfull, if_pos hrest, roundBy, hfirst,
        if_pos (by decide)]

/-! ## The text of a decimal -/

/-- A decimal is written with digits and a point. -/
theorem isDigit_or_point_of_mem {mantissa scale : Nat} {c : Char}
    (h : c ∈ unsignedText mantissa scale) : c.isDigit = true ∨ c = '.' := by
  unfold unsignedText at h
  split at h
  · exact .inl (isDigit_of_mem_natDigits h)
  · rcases List.mem_append.1 h with hwhole | hrest
    · exact .inl (isDigit_of_mem_paddedDigits (List.mem_of_mem_take hwhole))
    · rcases List.mem_cons.1 hrest with rfl | hfraction
      · exact .inr rfl
      · exact .inl (isDigit_of_mem_paddedDigits (List.mem_of_mem_drop hfraction))

/-- The digits of a mantissa in three parts: those before the point, at most 28 behind it, and the
rest. -/
theorem exists_unsignedText (mantissa : Nat) {scale : Nat} (hscale : scale ≠ 0) :
    ∃ whole counted zeros : List Char,
      unsignedText mantissa scale = whole ++ '.' :: (counted ++ zeros) ∧
      (∀ c ∈ whole ++ counted ++ zeros, c.isDigit = true) ∧ whole ≠ [] ∧
      counted.length = min scale 28 ∧ zeros.length = scale - 28 ∧
      digitsValue (whole ++ counted ++ zeros) = mantissa := by
  -- There is a digit before the point, as there are more digits than fractional ones.
  let digits := paddedDigits (scale + 1) mantissa
  have hlength : scale + 1 ≤ digits.length := by
    change scale + 1 ≤ (List.replicate _ '0' ++ natDigits mantissa).length
    rw [List.length_append, List.length_replicate]
    omega
  let fraction := digits.drop (digits.length - scale)
  have hfraction : fraction.length = scale := by
    rw [List.length_drop]
    omega
  have hdigits : digits.take (digits.length - scale) ++ fraction.take (min scale 28) ++
      fraction.drop (min scale 28) = digits := by
    rw [List.append_assoc, List.take_append_drop, List.take_append_drop]
  refine ⟨digits.take (digits.length - scale), fraction.take (min scale 28),
    fraction.drop (min scale 28), ?_, ?_, ?_, ?_, ?_, ?_⟩
  · rw [List.take_append_drop]
    exact if_neg hscale
  · rw [hdigits]
    exact fun c => isDigit_of_mem_paddedDigits
  · intro hnil
    have hempty := congrArg List.length hnil
    rw [List.length_take, List.length_nil] at hempty
    omega
  · rw [List.length_take]
    omega
  · rw [List.length_drop]
    omega
  · rw [hdigits]
    exact digitsValue_paddedDigits _ _

/-- All digits of a mantissa that count are read. -/
theorem takeDigits_unsignedText {mantissa scale : Nat} (hmantissa : mantissa < mantissaLimit)
    (hdvd : Nat.pow 10 (scale - 28) ∣ mantissa) :
    takeDigits false false 0 0 (unsignedText mantissa scale) =
      some (mantissa / 10 ^ (scale - 28), min scale 28) := by
  by_cases hscale : scale = 0
  · subst hscale
    have hdigits : ∀ c ∈ natDigits mantissa, c.isDigit = true := fun c => isDigit_of_mem_natDigits
    have hvalue : Nat.ofDigitChars 10 (natDigits mantissa) 0 = mantissa :=
      Nat.ofDigitChars_ten_toDigits
    have hrun := @takeDigits_run false false 0 0 _ hdigits
      (fun h => absurd h Nat.toDigits_ne_nil) (hvalue.symm ▸ hmantissa) (Nat.zero_le _) []
    rw [List.append_nil, hvalue] at hrun
    rw [unsignedText, if_pos rfl, hrun]
    simp [takeDigits]
  · obtain ⟨whole, counted, zeros, htext, hdigits, hwhole, hcounted, hzeros, hvalue⟩ :=
      exists_unsignedText mantissa hscale
    have hsplit : mantissa = 10 ^ (scale - 28) * digitsValue (whole ++ counted) +
        digitsValue zeros := by
      rw [← hzeros, ← digitsValue_append, hvalue]
    have hlt : digitsValue zeros < 10 ^ (scale - 28) := by
      rw [← hzeros]
      exact digitsValue_lt fun c hc => hdigits c (List.mem_append_right _ hc)
    -- The digits behind the 28th are less than the power of ten that divides the mantissa.
    have hnone : digitsValue zeros = 0 := by
      rw [hsplit] at hdvd
      exact Nat.eq_zero_of_dvd_of_lt ((Nat.dvd_add_right (Nat.dvd_mul_right _ _)).1 hdvd) hlt
    have hread : mantissa / 10 ^ (scale - 28) =
        Nat.ofDigitChars 10 counted (Nat.ofDigitChars 10 whole 0) := by
      rw [hnone, Nat.add_zero] at hsplit
      rw [← Nat.ofDigitChars_append, ← digitsValue_eq_ofDigitChars, hsplit,
        Nat.mul_div_cancel_left _ (Nat.pow_pos (by decide))]
    have hfits : Nat.ofDigitChars 10 counted (Nat.ofDigitChars 10 whole 0) < mantissaLimit := by
      rw [← hread]
      exact Nat.lt_of_le_of_lt (Nat.div_le_self _ _) hmantissa
    -- With fewer digits the number is no larger.
    have hwholeFits : Nat.ofDigitChars 10 whole 0 < mantissaLimit :=
      Nat.lt_of_le_of_lt (le_ofDigitChars counted _) hfits
    have hzerosScale : zeros = [] ∨ min scale 28 = maxScale := by
      rw [← List.length_eq_zero_iff, hzeros, maxScale]
      omega
    have hcountedScale : 0 + (if true then counted.length else 0) ≤ maxScale := by
      rw [if_pos rfl, hcounted, maxScale]
      omega
    simp only [List.forall_mem_append] at hdigits
    calc takeDigits false false 0 0 (unsignedText mantissa scale)
      _ = takeDigits false true (Nat.ofDigitChars 10 whole 0) 0 ('.' :: (counted ++ zeros)) := by
        rw [htext, takeDigits_run hdigits.1.1 (fun h => absurd h hwhole) hwholeFits (by simp)]
        rfl
      _ = takeDigits true true (Nat.ofDigitChars 10 whole 0) 0 (counted ++ zeros) := by
        rw [takeDigits, if_neg (by decide), if_pos ⟨rfl, rfl⟩]
      _ = takeDigits true true (mantissa / 10 ^ (scale - 28)) (min scale 28) zeros := by
        rw [takeDigits_run hdigits.1.2 (fun _ => rfl) hfits hcountedScale, hread]
        simp [hcounted]
      _ = some (mantissa / 10 ^ (scale - 28), min scale 28) :=
        takeDigits_zeros hdigits.2 hnone hzerosScale

/-! ## Decimals -/

/-- A decimal as its text is read: zero has no sign, and fractional digits end at the 28th. -/
def asRead (d : Decimal) : Decimal :=
  ⟨d.negative && d.mantissa / 10 ^ (d.scale - 28) != 0, d.mantissa / 10 ^ (d.scale - 28),
    min d.scale 28, Nat.lt_of_le_of_lt (Nat.div_le_self _ _) d.mantissa_lt,
    .inl (Nat.min_le_right _ _)⟩

/-- A text that does not start with a sign is read as a number without one. -/
theorem ofPlain?_of_head {s : List Char} (h : ∀ c ∈ s.head?, c ≠ '-' ∧ c ≠ '+') :
    ofPlain? s = (takeDigits false false 0 0 s).bind (ofRead false) := by
  cases s with
  | nil => rfl
  | cons c s =>
    obtain ⟨hminus, hplus⟩ := h c rfl
    unfold ofPlain?
    split
    · next heq => cases heq; exact absurd rfl hminus
    · next heq => cases heq; exact absurd rfl hplus
    · rfl

/-- A decimal is read from its text, as far as a text can say it. -/
theorem ofText?_text (d : Decimal) : ofText? d.text = some d.asRead := by
  have hdigits := takeDigits_unsignedText d.mantissa_lt d.zeros_dvd
  have hparts : d.mantissa / 10 ^ (d.scale - 28) < mantissaLimit ∧ min d.scale 28 ≤ 28 :=
    ⟨Nat.lt_of_le_of_lt (Nat.div_le_self _ _) d.mantissa_lt, Nat.min_le_right _ _⟩
  have hplain : ofPlain? d.text = some d.asRead := by
    cases hsign : d.negative with
    | true =>
      have htext : d.text = '-' :: unsignedText d.mantissa d.scale := by simp [text, hsign]
      rw [htext, ofPlain?, hdigits]
      simp only [Option.bind_some, ofRead, ofParts?, dif_pos hparts, asRead, hsign]
    | false =>
      have htext : d.text = unsignedText d.mantissa d.scale := by simp [text, hsign]
      rw [htext, ofPlain?_of_head, hdigits]
      · simp only [Option.bind_some, ofRead, ofParts?, dif_pos hparts, asRead, hsign]
      · -- No digit and no point is a sign.
        intro c hc
        obtain hdigit | rfl := isDigit_or_point_of_mem (List.mem_of_mem_head? hc)
        · constructor
          · rintro rfl
            cases hdigit
          · rintro rfl
            cases hdigit
        · decide
  rw [ofText?, hplain]

/-- The digits that are not read are zeros of the mantissa. -/
theorem signedMantissa_asRead (d : Decimal) :
    d.signedMantissa = d.asRead.signedMantissa * 10 ^ (d.scale - 28) := by
  have hmantissa : d.mantissa / 10 ^ (d.scale - 28) * 10 ^ (d.scale - 28) = d.mantissa :=
    Nat.div_mul_cancel d.zeros_dvd
  -- Zero has lost its sign, which makes no difference to its value.
  by_cases hzero : d.mantissa / 10 ^ (d.scale - 28) = 0
  · have hmantissaZero : d.mantissa = 0 := by rw [← hmantissa, hzero, Nat.zero_mul]
    simp [signedMantissa, asRead, hmantissaZero]
  · have hsigned : d.asRead.signedMantissa =
        if d.negative then -((d.mantissa / 10 ^ (d.scale - 28) : Nat) : Int)
        else (d.mantissa / 10 ^ (d.scale - 28) : Nat) := by
      simp [signedMantissa, asRead, hzero]
    rw [hsigned, signedMantissa]
    split
    · rw [Int.neg_mul]
      exact_mod_cast congrArg (fun n : Nat => -(n : Int)) hmantissa.symm
    · exact_mod_cast hmantissa.symm

/-- A decimal is read back as the same number. -/
theorem equal_asRead (d : Decimal) : d.equal d.asRead = true := by
  have hscale : d.scale = (d.scale - 28) + min d.scale 28 := by omega
  rw [equal, beq_iff_eq, signedMantissa_asRead]
  calc d.asRead.signedMantissa * 10 ^ (d.scale - 28) * ((Nat.pow 10 (min d.scale 28) : Nat) : Int)
    _ = d.asRead.signedMantissa * ((10 ^ ((d.scale - 28) + min d.scale 28) : Nat) : Int) := by
      rw [Nat.pow_add, Int.mul_assoc]
      simp
    _ = d.asRead.signedMantissa * ((Nat.pow 10 d.scale : Nat) : Int) := by
      rw [← hscale]
      rfl

/-- A decimal of at most 28 fractional digits is read as itself, unless it is zero with a sign. -/
theorem asRead_eq_self {d : Decimal} (hsign : d.mantissa = 0 → d.negative = false)
    (hscale : d.scale ≤ 28) : d.asRead = d := by
  obtain ⟨negative, mantissa, scale, _, _⟩ := d
  have hexcess : scale - 28 = 0 := Nat.sub_eq_zero_of_le hscale
  have hnegative : (negative && mantissa != 0) = negative := by
    by_cases hzero : mantissa = 0
    · simp [show negative = false from hsign hzero]
    · simp [hzero]
  simp only [asRead, hexcess, Nat.pow_zero, Nat.div_one, hnegative, Nat.min_eq_left hscale]

/-- Blanks are no part of the text of a decimal. -/
theorem isBlank_eq_false_of_mem_text {d : Decimal} {c : Char} (h : c ∈ d.text) :
    isBlank c = false := by
  rcases List.mem_append.1 h with hsign | hdigits
  · split at hsign
    · rw [List.mem_singleton.1 hsign]
      rfl
    · cases hsign
  · obtain hdigit | rfl := isDigit_or_point_of_mem hdigits
    · exact isBlank_eq_false_of_isDigit hdigit
    · rfl

end SqlAccess.Number.Decimal
