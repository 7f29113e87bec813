import Mathlib.Data.Rat.Floor
import SqlAccess.Proofs.Number.Width
import SqlAccess.Proofs.Value.Projection

/-!
# Numbers read as integers

Integers, truth values, decimals and strings stand for rational numbers (`Value.Denotes`); a string
may stand for none. Converting one of them to an integral target gives the number without its
fraction, if that is an integer of the target's width, and fails otherwise (`convert_denoted`). What
is then read is that integer, so that nothing wraps on the way (`convert_integral`).
-/

namespace SqlAccess

open SqlAccess.Number SqlAccess.Conversion

/-! ## Numbers without their fraction -/

namespace Number

/-- The integer next to a number on the side of zero. -/
def towardZero (x : ℚ) : ℤ :=
  if 0 ≤ x then ⌊x⌋ else ⌈x⌉

/-- Division of integers that drops the fraction gives the integer on the side of zero. -/
theorem towardZero_div (a : ℤ) {b : ℕ} (hb : 0 < b) : towardZero ((a : ℚ) / b) = a.tdiv b := by
  have hpos : (0 : ℚ) < b := by exact_mod_cast hb
  unfold towardZero
  -- The sign decides whether to round down or up; the library divides upward by the negated
  -- numerator.
  by_cases ha : 0 ≤ a
  · have hquotient : (0 : ℚ) ≤ a / b := div_nonneg (by exact_mod_cast ha) hpos.le
    rw [if_pos hquotient, Rat.floor_intCast_div_natCast, Int.tdiv_eq_ediv_of_nonneg ha]
  · have hquotient : (a : ℚ) / b < 0 := div_neg_of_neg_of_pos (by exact_mod_cast not_le.1 ha) hpos
    rw [if_neg (not_le.2 hquotient), Rat.ceil_intCast_div_natCast,
      ← Int.tdiv_eq_ediv_of_nonneg (by omega), Int.neg_tdiv, neg_neg]

theorem towardZero_intCast (n : ℤ) : towardZero n = n := by
  simp [towardZero]

/-- Dropping the fractional digits of a decimal goes toward zero. -/
theorem Decimal.towardZero_toRat (d : Decimal) : towardZero d.toRat = d.truncate := by
  -- Powers are taken of naturals by the decimal, and of rationals here.
  have hscale : (10 : ℚ) ^ d.scale = ((Nat.pow 10 d.scale : ℕ) : ℚ) := by
    rw [Nat.pow_eq, Nat.cast_pow, Nat.cast_ofNat]
  have hpos : 0 < Nat.pow 10 d.scale := Nat.pow_pos (by decide)
  rw [toRat, hscale, towardZero_div _ hpos]
  rfl

end Number

/-! ## Widths -/

namespace TargetType

/-- The width of the integers that an integral target stands for. -/
def width? : TargetType → Option ℕ
  | tinyInt => some 8
  | smallInt => some 16
  | integer => some 32
  | bigInt => some 64
  | _ => none

/-- The integer that is read under an integral target. -/
def integer? : (t : TargetType) → t.Carrier → Option ℤ
  | tinyInt, n => some n.toInt
  | smallInt, n => some n.toInt
  | integer, n => some n.toInt
  | bigInt, n => some n.toInt
  | _, _ => none

variable {t : TargetType} {width : ℕ}

/-- The bounds of a target are those of its width. -/
theorem integralBounds?_of_width? (h : t.width? = some width) :
    t.integralBounds? = some (-2 ^ (width - 1), 2 ^ (width - 1) - 1) := by
  cases t with
  | tinyInt | smallInt | integer | bigInt =>
    cases h
    rfl
  | _ => cases h

/-- No target is wider than 64 bits. -/
theorem fitsBits_64_of_width? (h : t.width? = some width) {n : ℤ} (hn : FitsBits width n) :
    FitsBits 64 n := by
  have hwidth : width ≤ 64 := by
    cases t with
    | tinyInt | smallInt | integer | bigInt =>
      cases h
      decide
    | _ => cases h
  have hpow : (2 : ℤ) ^ (width - 1) ≤ 2 ^ (64 - 1) :=
    pow_le_pow_right₀ (by decide) (Nat.sub_le_sub_right hwidth 1)
  unfold FitsBits at hn ⊢
  omega

/-- What an integral target reads from an integer of its width is that integer. -/
theorem exists_unwrap_integer (h : t.width? = some width) {n : Int64}
    (hn : FitsBits width n.toInt) :
    ∃ a : t.Carrier, t.unwrap (.integer n) = .ok a ∧ t.integer? a = some n.toInt := by
  -- Within the width, narrowing the integer leaves it.
  cases t with
  | tinyInt =>
    cases h
    refine ⟨n.toInt8, rfl, congrArg some ?_⟩
    rw [Int64.toInt_toInt8]
    exact Int.bmod_eq_of_le hn.1 hn.2
  | smallInt =>
    cases h
    refine ⟨n.toInt16, rfl, congrArg some ?_⟩
    rw [Int64.toInt_toInt16]
    exact Int.bmod_eq_of_le hn.1 hn.2
  | integer =>
    cases h
    refine ⟨n.toInt32, rfl, congrArg some ?_⟩
    rw [Int64.toInt_toInt32]
    exact Int.bmod_eq_of_le hn.1 hn.2
  | bigInt => exact ⟨n, rfl, rfl⟩
  | _ => cases h

end TargetType

/-! ## Numbers that values stand for -/

/-- The number that a value stands for, if it is of a kind that stands for numbers. A string may be
none. -/
inductive Value.Denotes : Value → Option ℚ → Prop
  | integer (n : Int64) : Denotes (.integer n) (some n.toInt)
  | boolean (b : Bool) : Denotes (.boolean b) (some (if b then 1 else 0))
  | decimal (d : Decimal) : Denotes (.decimal d) (some d.toRat)
  | string (s : String) : Denotes (.string s) ((decimalOfText? s.toList).map Decimal.toRat)

variable {v : Value} {number : Option ℚ} {x : ℚ} {t : TargetType} {width : ℕ}

theorem Value.Denotes.isNull_eq (h : v.Denotes number) : v.isNull = false := by
  cases h <;> rfl

/-- The integer part of a value is that of the number it stands for. -/
theorem Value.Denotes.integerPart_eq (h : v.Denotes number) :
    integerPart v = orFault .incompatible (number.map towardZero) := by
  cases h with
  | integer n =>
    rw [Option.map_some, towardZero_intCast]
    rfl
  | boolean b =>
    cases b <;> simp [towardZero, integerPart, orFault]
  | decimal d =>
    rw [Option.map_some, Decimal.towardZero_toRat]
    rfl
  -- The string is read as a decimal, if it is read at all.
  | string s =>
    rw [integerPart]
    cases decimalOfText? s.toList with
    | none => rfl
    | some d =>
      rw [Option.map_some, Option.map_some, Decimal.towardZero_toRat]
      rfl

/-! ## Converting and reading -/

namespace Conversion

/-- An integral target takes the integers of its width. -/
theorem toIntegral_of_integerPart (ht : t.width? = some width) {n : ℤ}
    (h : integerPart v = .ok n) :
    toIntegral t v = if FitsBits width n then .ok (Int64.ofInt n) else .error .outOfRange := by
  -- The bounds are inclusive, the width is told by a strict one.
  have hwithin : -2 ^ (width - 1) ≤ n ∧ n ≤ 2 ^ (width - 1) - 1 ↔ FitsBits width n := by
    unfold FitsBits
    omega
  simp only [toIntegral, h, TargetType.integralBounds?_of_width? ht, orFault, hwithin, bind,
    Except.bind]
  by_cases hn : FitsBits width n
  · rw [int64?_of_fitsBits (TargetType.fitsBits_64_of_width? ht hn), if_pos hn]
    exact if_pos hn
  · rw [if_neg hn]
    -- What does not fit even 64 bits fails before the bounds are looked at.
    cases int64? n with
    | none => rfl
    | some k => exact if_neg hn

theorem ofNonNull_of_width? (ht : t.width? = some width) (v : Value) (source : SqlType)
    (zone : Calendar.Offset) : ofNonNull v source zone t = .integer <$> toIntegral t v := by
  cases t with
  | tinyInt | smallInt | integer | bigInt => rfl
  | _ => cases ht

end Conversion

variable {source : SqlType} {zone : Calendar.Offset}

/-- A number converts to the integer next to it on the side of zero, if that has the width of the
target; a string that is no number has no integer to convert to. -/
theorem convert_denoted (hv : v.Denotes number) (ht : t.width? = some width) :
    convert v source t zone =
      match number with
      | none => .error (.dataConversion source t.name v.text)
      | some x =>
        if FitsBits width (towardZero x) then .ok (.integer (Int64.ofInt (towardZero x)))
        else .error (.numericOutOfRange t.sqlType v.text) := by
  have hpart := hv.integerPart_eq
  rw [convert_of_not_isNull hv.isNull_eq, ofNonNull_of_width? ht]
  cases number with
  | none =>
    -- A string that is no number fails before any bounds are looked at.
    have hfails : toIntegral t v = .error .incompatible := by
      rw [toIntegral, hpart]
      rfl
    rw [hfails]
    rfl
  | some x =>
    rw [toIntegral_of_integerPart ht hpart]
    dsimp only
    split
    · rfl
    · rfl

/-- Integral reads never wrap. A number whose integer part has the width of the target is converted
to that integer and read as it; any other number is out of range. Only a string that is no number
cannot be converted at all. -/
theorem convert_integral (hv : v.Denotes number) (ht : t.width? = some width) (source : SqlType)
    (zone : Calendar.Offset) :
    (∀ x, number = some x → FitsBits width (towardZero x) →
      (∃ n : Int64, n.toInt = towardZero x ∧ convert v source t zone = .ok (.integer n)) ∧
      ∃ a : t.Carrier, extract v source t zone = .ok (some a) ∧
        t.integer? a = some (towardZero x)) ∧
    (∀ x, number = some x → ¬FitsBits width (towardZero x) →
      convert v source t zone = .error (.numericOutOfRange t.sqlType v.text) ∧
      extract v source t zone = .error (.numericOutOfRange t.sqlType v.text)) ∧
    (number = none →
      convert v source t zone = .error (.dataConversion source t.name v.text) ∧
      extract v source t zone = .error (.dataConversion source t.name v.text)) := by
  have hconvert : convert v source t zone = _ := convert_denoted hv ht
  refine ⟨?_, ?_, ?_⟩
  · rintro x rfl hfits
    -- What fits its width fits 64 bits, so that it is stored unchanged.
    have hinteger : (Int64.ofInt (towardZero x)).toInt = towardZero x :=
      int64?_eq_some_iff.1 (int64?_of_fitsBits (TargetType.fitsBits_64_of_width? ht hfits))
    have hok := hconvert.trans (if_pos hfits)
    obtain ⟨a, hunwrap, ha⟩ := TargetType.exists_unwrap_integer ht (hinteger.symm ▸ hfits)
    rw [hinteger] at ha
    exact ⟨⟨_, hinteger, hok⟩, a, extract_of_convert hv.isNull_eq hok hunwrap, ha⟩
  · rintro x rfl hfits
    have herror := hconvert.trans (if_neg hfits)
    exact ⟨herror, extract_of_convert_error herror⟩
  · rintro rfl
    exact ⟨hconvert, extract_of_convert_error hconvert⟩

/-- The least number of eight bits with a fraction beyond it, the least one that is too large, and a
word. -/
theorem convert_integral_tinyInt :
    let zone : Calendar.Offset := ⟨3600, by decide⟩
    Value.Denotes (.string " -128.9 ") (some (-1289 / 10)) ∧
      Value.Denotes (.string "1.28e2") (some 128) ∧ Value.Denotes (.string "one") none ∧
      TargetType.tinyInt.width? = some 8 ∧
      FitsBits 8 (towardZero (-1289 / 10)) ∧ ¬FitsBits 8 (towardZero 128) ∧
      (∃ a : Int8, extract (.string " -128.9 ") .varChar .tinyInt zone = .ok (some a) ∧
        a.toInt = -128) ∧
      convert (.string "1.28e2") .varChar .tinyInt zone =
        .error (.numericOutOfRange .tinyInt "1.28e2") ∧
      convert (.string "one") .varChar .tinyInt zone =
        .error (.dataConversion .varChar "TINYINT" "one") := by
  intro zone
  have hleast : Value.Denotes (.string " -128.9 ") (some (-1289 / 10)) := by
    have hread : (decimalOfText? " -128.9 ".toList).map Decimal.toRat = some (-1289 / 10) := by
      decide +kernel
    exact hread ▸ .string " -128.9 "
  have hlarge : Value.Denotes (.string "1.28e2") (some 128) := by
    have hread : (decimalOfText? "1.28e2".toList).map Decimal.toRat = some 128 := by
      decide +kernel
    exact hread ▸ .string "1.28e2"
  have hword : Value.Denotes (.string "one") none := .string "one"
  have hfits : FitsBits 8 (towardZero (-1289 / 10)) := by decide +kernel
  have hwide : ¬FitsBits 8 (towardZero 128) := by decide +kernel
  obtain ⟨hread, -, -⟩ := convert_integral hleast (t := .tinyInt) rfl .varChar zone
  obtain ⟨-, hrange, -⟩ := convert_integral hlarge (t := .tinyInt) rfl .varChar zone
  obtain ⟨-, -, hnone⟩ := convert_integral hword (t := .tinyInt) rfl .varChar zone
  obtain ⟨-, a, hextract, ha⟩ := hread _ rfl hfits
  have hvalue : a.toInt = towardZero (-1289 / 10) := Option.some.inj ha
  have hzero : towardZero (-1289 / 10) = -128 := by decide +kernel
  exact ⟨hleast, hlarge, hword, rfl, hfits, hwide, ⟨a, hextract, hvalue.trans hzero⟩,
    (hrange _ rfl hwide).1, (hnone rfl).1⟩

end SqlAccess
