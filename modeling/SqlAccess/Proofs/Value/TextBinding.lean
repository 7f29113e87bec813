import SqlAccess.Proofs.Number.DecimalText
import SqlAccess.Proofs.Text.Trim
import SqlAccess.Proofs.Value.Projection

/-!
# Binding the text of a value

The text of a value can be bound to a parameter of the value's own type. Each kind of value has its
own writer and reader: truth values go by words, integers and decimals by digits, bytes by
hexadecimal digits, and strings are their own texts. What is bound is equal to the value
(`coerceForParameter_text`). It is the same value but for decimals, which may lose the sign of a
zero and fractional digits that are zeros anyway.

BIT is the exception. Its values are written as digits, which no truth value is read from.
-/

namespace SqlAccess

open SqlAccess.Text SqlAccess.Number SqlAccess.Calendar Conversion

/-! ## Types and their targets -/

/-- Types whose values are bound by their texts: truth values, exact numbers, character strings and
binary strings. -/
def SqlType.bindsText (d : SqlType) : Bool :=
  d == .bit || d == .boolean || d.isIntegral || d == .numeric || d == .decimal || d.isCharacter ||
    d.isBinary

/-- Targets that their values are read back for from the texts of the values. -/
def TargetType.readsText : TargetType → Bool
  | boolean | tinyInt | smallInt | integer | bigInt | decimal | string | bytes => true
  | _ => false

theorem SqlType.readsText_of_bindsText {d : SqlType} {t : TargetType} (hd : d.bindsText = true)
    (ht : TargetType.ofSqlType d = .ok t) : t.readsText = true := by
  cases d <;> cases hd <;> cases ht <;> rfl

namespace Value

/-- A value as its text is read. -/
def asRead : Value → Value
  | decimal d => decimal d.asRead
  | v => v

/-- A value that its text shows in full: a decimal without a sign before zero and with at most 28
fractional digits, and every other value. -/
def IsShown : Value → Prop
  | decimal d => (d.mantissa = 0 → d.negative = false) ∧ d.scale ≤ 28
  | _ => True

theorem asRead_eq_self {v : Value} (h : v.IsShown) : v.asRead = v := by
  cases v with
  | decimal d => exact congrArg decimal (Decimal.asRead_eq_self h.1 h.2)
  | _ => rfl

end Value

/-! ## Readers and writers -/

/-- An integer is written as the decimal without a fraction. -/
theorem Number.Decimal.text_ofInt64 (n : Int64) : (Decimal.ofInt64 n).text = intDigits n.toInt := by
  by_cases hneg : n.toInt < 0
  · simp [Decimal.text, Decimal.ofInt64, Decimal.unsignedText, intDigits, hneg]
  · simp [Decimal.text, Decimal.ofInt64, Decimal.unsignedText, intDigits, hneg]

/-- Read back, it is still that integer. -/
theorem Number.Decimal.truncate_asRead_ofInt64 (n : Int64) :
    (Decimal.ofInt64 n).asRead.truncate = n.toInt := by
  have hsign : (Decimal.ofInt64 n).mantissa = 0 → (Decimal.ofInt64 n).negative = false := by
    intro hzero
    have hn : n.toInt = 0 := Int.natAbs_eq_zero.1 hzero
    simp [Decimal.ofInt64, hn]
  -- Zero has no sign, and there are no fractional digits to lose.
  rw [Decimal.asRead_eq_self hsign (Nat.zero_le 28)]
  have hsigned : (Decimal.ofInt64 n).signedMantissa = n.toInt := by
    simp only [Decimal.signedMantissa, Decimal.ofInt64, decide_eq_true_eq]
    omega
  rw [Decimal.truncate, hsigned]
  exact Int.tdiv_one n.toInt

namespace Conversion

/-- The text of a decimal is read as a number. -/
theorem decimalOfText?_text (d : Decimal) : decimalOfText? d.text = some d.asRead := by
  have htight : Tight d.text := tight_of_forall fun _ => Decimal.isBlank_eq_false_of_mem_text
  rw [decimalOfText?, htight.trim_eq_self, Decimal.ofText?_text]

theorem integerPart_text (n : Int64) :
    integerPart (.string (Value.integer n).text) = .ok n.toInt := by
  have hchars : (Value.integer n).text.toList = (Decimal.ofInt64 n).text := by
    rw [Value.toList_text, Decimal.text_ofInt64]
    rfl
  rw [integerPart, hchars, decimalOfText?_text]
  exact congrArg Except.ok (Decimal.truncate_asRead_ofInt64 n)

theorem toIntegral_text {t : TargetType} {n : Int64} (ht : t.family? = some .integer)
    (h : t.Admits n) : toIntegral t (.string (Value.integer n).text) = .ok n := by
  rw [toIntegral, integerPart_text]
  exact toIntegral_integer ht h

theorem isBlank_eq_false_of_mem_hexOfBytes {b : List UInt8} {c : Char} (h : c ∈ hexOfBytes b) :
    isBlank c = false := by
  -- There are sixteen digits to look at, two for each byte.
  have hdigit : ∀ n : Fin 16, isBlank (hexDigit n) = false := by decide
  obtain ⟨byte, -, hc⟩ := List.mem_flatMap.1 h
  have hbyte : byte.toNat < 256 := byte.toNat_lt
  simp only [List.mem_cons, List.not_mem_nil, or_false] at hc
  rcases hc with rfl | rfl
  · exact hdigit ⟨byte.toNat / 16, by omega⟩
  · exact hdigit ⟨byte.toNat % 16, by omega⟩

/-- Bytes are read back from their hexadecimal digits. -/
theorem toBytes_text (b : List UInt8) : toBytes (.string (Value.bytes b).text) = .ok b := by
  have hchars : (Value.bytes b).text.toList = hexOfBytes b := Value.toList_text _
  have htight : Tight (hexOfBytes b) := tight_of_forall fun _ => isBlank_eq_false_of_mem_hexOfBytes
  rw [toBytes, hchars, htight.trim_eq_self, bytesOfHex?_hexOfBytes]
  rfl

theorem toBoolean_text (b : Bool) : toBoolean (.string (Value.boolean b).text) = .ok b := by
  cases b <;> decide +kernel

/-- The text of a value is read back for its target. -/
theorem ofNonNull_text {t : TargetType} (ht : t.readsText = true) (a : t.Carrier)
    (source : SqlType) (zone : Offset) :
    ofNonNull (.string (t.wrap a).text) source zone t = .ok (t.wrap a).asRead := by
  -- Each target reads with its own reader what its writer wrote.
  cases t with
  | boolean => exact congrArg (Value.boolean <$> ·) (toBoolean_text a)
  | tinyInt | smallInt | integer | bigInt =>
    exact congrArg (Value.integer <$> ·) (toIntegral_text rfl (TargetType.admits_of_wrap rfl))
  | decimal =>
    rw [ofNonNull, toDecimal, Value.toList_text]
    exact congrArg (fun d => Value.decimal <$> orFault .incompatible d) (decimalOfText?_text a)
  | string =>
    have htext : (Value.string a).text = a := String.ofList_toList
    exact congrArg (fun s => Except.ok (Value.string s)) (String.ofList_toList.trans htext)
  | bytes => exact congrArg (Value.bytes <$> ·) (toBytes_text a)
  | _ => cases ht

/-- Every value but one of BIT is written as its text. -/
theorem ofNonNull_string {t : TargetType} (ht : t.readsText = true) (a : t.Carrier) {d : SqlType}
    (hd : d ≠ .bit) (zone : Offset) :
    ofNonNull (t.wrap a) d zone .string = .ok (.string (t.wrap a).text) := by
  cases t with
  | boolean =>
    rw [ofNonNull, TargetType.wrap, toChars, if_neg hd]
    rfl
  | tinyInt | smallInt | integer | bigInt | decimal | string | bytes => rfl
  | _ => cases ht

end Conversion

/-- What a value is read as is equal to it. -/
theorem Value.equal_asRead {t : TargetType} (ht : t.readsText = true) (a : t.Carrier) :
    (t.wrap a).equal (t.wrap a).asRead = true := by
  cases t with
  | decimal => exact Decimal.equal_asRead a
  | boolean => exact beq_self_eq_true a
  | tinyInt => exact beq_self_eq_true a.toInt64
  | smallInt => exact beq_self_eq_true a.toInt64
  | integer => exact beq_self_eq_true a.toInt64
  | bigInt => exact beq_self_eq_true a
  | string => exact beq_self_eq_true a
  | bytes => exact beq_self_eq_true a
  | _ => cases ht

/-! ## Binding what was read -/

/-- A digit is no truth value. -/
theorem coerceForParameter_bit (b : Bool) (zone : Offset) :
    coerceForParameter (.string (if b then "1" else "0")) .bit zone =
      .error (.dataConversion .varChar "BOOLEAN" (if b then "1" else "0")) := by
  cases b <;> rfl

variable {d : SqlType} {t : TargetType} {v₀ v : Value} {source : SqlType} {zone₀ : Offset}

/-- What is read as a string can be bound again, and is then the value that was read. Only decimals
may be written in another way than they are bound, and only BIT is not bound at all. -/
theorem coerceForParameter_text (hd : d.bindsText = true) (ht : TargetType.ofSqlType d = .ok t)
    (hv : convert v₀ source t zone₀ = .ok v) (hnull : v.isNull = false) (zone zone' : Offset) :
    ∃ s, convert v d .string zone = .ok (.string s) ∧
      (d ≠ .bit → ∃ w, coerceForParameter (.string s) d zone' = .ok w ∧ v.equal w = true ∧
        (v.IsShown → w = v)) ∧
      (d = .bit → ∃ b, v = .boolean b ∧ s = (if b then "1" else "0") ∧
        coerceForParameter (.string s) d zone' = .error (.dataConversion .varChar "BOOLEAN" s)) := by
  have hreads : t.readsText = true := SqlType.readsText_of_bindsText hd ht
  -- The value is one that the target stands for, and not NULL.
  obtain ⟨a, rfl⟩ : ∃ a : t.Carrier, v = t.wrap a := by
    obtain ⟨-, rfl⟩ | ⟨-, a, rfl⟩ := convert_cases hv
    · cases hnull
    · exact ⟨a, rfl⟩
  -- The text of a BIT is a digit; any other text is that of the value.
  by_cases hbit : d = .bit
  · subst hbit
    cases ht
    refine ⟨if a then "1" else "0", ?_, fun hne => absurd rfl hne, fun _ => ?_⟩
    · cases a <;> rfl
    · exact ⟨a, rfl, rfl, coerceForParameter_bit a zone'⟩
  · refine ⟨(t.wrap a).text, ?_, fun _ => ⟨(t.wrap a).asRead, ?_, ?_, ?_⟩, fun h => absurd h hbit⟩
    · exact (convert_eq_ok_iff hnull).2 (ofNonNull_string hreads a hbit zone)
    · have hobject : t ≠ .object := by
        rintro rfl
        cases hreads
      rw [coerceForParameter_of_not_isNull rfl ht hobject]
      exact (convert_eq_ok_iff rfl).2 (ofNonNull_text hreads a _ zone')
    · exact Value.equal_asRead hreads a
    · exact Value.asRead_eq_self

/-- A negative decimal with a zero at its end. -/
theorem coerceForParameter_text_decimal :
    let d : Decimal := ⟨true, 1250, 2, by decide, by decide⟩
    convert (.decimal d) .decimal .decimal .utc = .ok (.decimal d) ∧
      convert (.decimal d) .decimal .string .utc = .ok (.string "-12.50") ∧
      coerceForParameter (.string "-12.50") .decimal .utc = .ok (.decimal d) := by
  intro d
  have hd : convert (.decimal d) .decimal .decimal .utc = .ok (.decimal d) := rfl
  have htext : (Value.decimal d).text = "-12.50" := by decide +kernel
  have hstring : convert (.decimal d) .decimal .string .utc = .ok (.string "-12.50") := by
    rw [← htext]
    exact (convert_eq_ok_iff rfl).2 (ofNonNull_string (t := .decimal) rfl d (by decide) .utc)
  obtain ⟨s, hwritten, hbound, -⟩ := coerceForParameter_text (d := .decimal) rfl rfl hd rfl .utc .utc
  cases hstring.symm.trans hwritten
  obtain ⟨w, hw, -, hsame⟩ := hbound (by decide)
  rw [hsame ⟨by decide, by decide⟩] at hw
  exact ⟨hd, hstring, hw⟩

/-- The truth of a BIT is read as 1, which cannot be bound to it. -/
theorem coerceForParameter_text_bit :
    SqlType.bindsText .bit = true ∧ TargetType.ofSqlType .bit = .ok .boolean ∧
      convert (.boolean true) .bit .boolean .utc = .ok (.boolean true) ∧
      convert (.boolean true) .bit .string .utc = .ok (.string "1") ∧
      coerceForParameter (.string "1") .bit .utc ≠ .ok (.boolean true) := by
  refine ⟨rfl, rfl, rfl, rfl, ?_⟩
  exact ne_of_eq_of_ne (coerceForParameter_bit true .utc) nofun

end SqlAccess
