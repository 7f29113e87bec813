import SqlAccess.Proofs.Value.Projection
import SqlAccess.Value.Convertible

/-!
# The announced conversions are the ones that there are

Whether two SQL types convert depends on the families of their values only
(`isConvertible_eq_convertsTo`). A conversion between families that the table leaves out has no
rule (`ofNonNull_of_not_convertsTo`). One that is in the table fails for a number that the target
cannot hold and for nothing else (`faultsIn_of_convertsTo`), unless it reads a text: not every text
is a literal. So the table announces the conversions that there are (`isConvertible_agrees`).
-/

namespace SqlAccess

open SqlAccess.Calendar Conversion

/-! ## Families that convert -/

namespace Family

/-- Numbers and truth values. -/
def isNumberLike : Family → Bool
  | boolean | integer | double | decimal => true
  | _ => false

/-- Dates, times and timestamps. -/
def isDatetime : Family → Bool
  | date | time | timeTz | timestamp | timestampTz => true
  | _ => false

/-- Values of the first family convert to the second. -/
def convertsTo : Family → Family → Bool
  | string, ψ => ψ != blob && ψ != array
  | φ, string => φ != blob && φ != array
  | boolean, ψ | integer, ψ | double, ψ | decimal, ψ => ψ.isNumberLike
  | bytes, ψ | blob, ψ => ψ == bytes || ψ == blob
  | date, ψ => ψ == date || ψ == timestamp || ψ == timestampTz
  | time, ψ | timeTz, ψ => ψ == time || ψ == timeTz || ψ == timestamp
  | timestamp, ψ | timestampTz, ψ => ψ.isDatetime
  | yearMonth, ψ => ψ == yearMonth
  | dayTime, ψ => ψ == dayTime
  | clob, ψ => ψ == clob
  | array, ψ => ψ == array

end Family

namespace SqlType

/-- The family of the values of a type; types without a target of their own have none. -/
def family? (t : SqlType) : Option Family :=
  match TargetType.ofSqlType t with
  | .ok target => target.family?
  | .error _ => none

theorem family?_of_ofSqlType {t : SqlType} {target : TargetType}
    (h : TargetType.ofSqlType t = .ok target) : t.family? = target.family? := by
  simp only [family?, h]

/-- Only character types hold strings. -/
theorem isCharacter_of_family? {t : SqlType} (h : t.family? = some .string) :
    t.isCharacter = true := by
  cases t <;> cases h <;> rfl

theorem isNumberLike_eq {t : SqlType} {φ : Family} (h : t.family? = some φ) :
    t.isNumberLike = φ.isNumberLike := by
  cases t <;> cases h <;> rfl

/-- The table of types is one of families. Both are finite, and agree entry by entry. -/
theorem isConvertible_eq_convertsTo {source target : SqlType} {φ ψ : Family}
    (hφ : source.family? = some φ) (hψ : target.family? = some ψ) :
    source.isConvertible target = φ.convertsTo ψ := by
  -- As one statement about all pairs the table can be gone through.
  have table : ∀ source ∈ all, ∀ target ∈ all, ∀ φ ∈ source.family?, ∀ ψ ∈ target.family?,
      source.isConvertible target = φ.convertsTo ψ := by
    decide +kernel
  exact table source (mem_all source) target (mem_all target) φ hφ ψ hψ

end SqlType

/-! ## Values that convert -/

/-- A large object that was freed. -/
def Value.isFreed : Value → Bool
  | clob c => c.freed
  | blob b => b.freed
  | _ => false

/-- A date or a timestamp stays in the range of the calendar when a zone shifts it. -/
def Value.StaysInRange (zone : Offset) : Value → Prop
  | date d => (ZonedTimestamp.ofLocal? (.ofDate d) zone).isSome
  | timestamp ts => (ZonedTimestamp.ofLocal? ts zone).isSome
  | timestampTz z => (z.atOffset zone).toLocal.date.inRange
  | _ => True

theorem Value.isNull_of_family? {v : Value} {φ : Family} (h : v.family? = some φ) :
    v.isNull = false := by
  cases v with
  | null => cases h
  | _ => rfl

variable {v : Value} {t : TargetType} {source : SqlType} {zone : Offset} {φ ψ : Family}

/-- No target has a rule for a family that does not convert to its own. -/
theorem ofNonNull_of_not_convertsTo (hv : v.family? = some φ) (ht : t.family? = some ψ)
    (h : φ.convertsTo ψ = false) : ofNonNull v source zone t = .error .incompatible := by
  cases v <;> cases hv <;> cases t <;> cases ht <;> cases h <;> rfl

/-- A number that its target is too small for. -/
def IsOverflow (φ ψ : Family) (fault : ConversionFault) : Prop :=
  fault = .outOfRange ∧ φ.isNumberLike = true ∧ ψ.isNumberLike = true

/-- Only a number too large for its target does not convert, and a text that is no literal. -/
theorem faultsIn_of_convertsTo (hv : v.family? = some φ) (ht : t.family? = some ψ)
    (h : φ.convertsTo ψ = true) (hφ : φ ≠ .string) (hfreed : v.isFreed = false)
    (hrange : v.StaysInRange zone) :
    FaultsIn (IsOverflow φ ψ) (ofNonNull v source zone t) := by
  -- The families that are special come first. The others are told apart by the rules alone.
  cases v with
  | null | other => cases hv
  | string =>
    cases hv
    exact absurd rfl hφ
  | clob l | blob l =>
    -- The content is there to be read.
    have hl : l.freed = false := hfreed
    cases hv
    cases t <;> cases ht <;>
      simp [Family.convertsTo, ofNonNull, toChars, toBytes, toClob, toBlob, hl] at h ⊢
  | date | timestamp =>
    -- The instant is known in the zone.
    obtain ⟨z, hz⟩ := Option.isSome_iff_exists.1 hrange
    cases hv
    cases t <;> cases ht <;>
      simp [Family.convertsTo, Family.isDatetime, ofNonNull, toChars, toDate, toTime, toTimeTz,
        toTimestamp, toTimestampTz, hz] at h ⊢
  | boolean | integer | double | decimal =>
    cases hv
    cases t <;> cases ht <;>
      simp [Family.convertsTo, Family.isNumberLike, IsOverflow, ofNonNull, toChars, toBoolean,
        toIntegral, integerPart, TargetType.integralBounds?, toReal, toDouble, toDecimal] at h ⊢
  | bytes | time | timeTz | timestampTz | yearMonth | dayTime | array =>
    cases hv
    cases t <;> cases ht <;>
      simp [Family.convertsTo, Family.isDatetime, ofNonNull, toChars, toBytes, toBlob, toDate,
        toTime, toTimeTz, toTimestamp, toTimestampTz, toYearMonth, toDayTime, toArray] at h ⊢

/-- The table tells which conversions there are. Between types that are read as some family of
values, a conversion that it leaves out is refused for every value. One that it has succeeds,
unless the source is a text or a number is out of the range of the target. -/
theorem isConvertible_agrees {source target : SqlType} {f t : TargetType} {v : Value}
    {zone : Offset} (hf : TargetType.ofSqlType source = .ok f)
    (ht : TargetType.ofSqlType target = .ok t) (hfo : f ≠ .object) (hto : t ≠ .object)
    (hv : v.family? = f.family?) (hfreed : v.isFreed = false) (hrange : v.StaysInRange zone) :
    (source.isConvertible target = false →
      convert v source t zone = .error (.dataConversion source t.name v.text)) ∧
    (source.isConvertible target = true → source.isCharacter = false →
      (∃ w, convert v source t zone = .ok w) ∨
        source.isNumberLike = true ∧ target.isNumberLike = true ∧
          convert v source t zone = .error (.numericOutOfRange t.sqlType v.text)) := by
  obtain ⟨φ, hφ⟩ := Option.ne_none_iff_exists'.1 (mt TargetType.family?_eq_none_iff.1 hfo)
  obtain ⟨ψ, hψ⟩ := Option.ne_none_iff_exists'.1 (mt TargetType.family?_eq_none_iff.1 hto)
  have hsource : source.family? = some φ := (SqlType.family?_of_ofSqlType hf).trans hφ
  have htarget : target.family? = some ψ := (SqlType.family?_of_ofSqlType ht).trans hψ
  have hvalue : v.family? = some φ := hv.trans hφ
  have hnull : v.isNull = false := Value.isNull_of_family? hvalue
  -- From here on, only the two families matter.
  rw [SqlType.isConvertible_eq_convertsTo hsource htarget, SqlType.isNumberLike_eq hsource,
    SqlType.isNumberLike_eq htarget]
  constructor
  · intro h
    rw [convert_eq_error_iff hnull]
    exact ⟨.incompatible, ofNonNull_of_not_convertsTo hvalue hψ h, rfl⟩
  · intro h hcharacter
    have hstring : φ ≠ .string := by
      rintro rfl
      rw [SqlType.isCharacter_of_family? hsource] at hcharacter
      cases hcharacter
    cases hr : convert v source t zone with
    | ok w => exact .inl ⟨w, rfl⟩
    | error e =>
      obtain ⟨fault, hfault, rfl⟩ := (convert_eq_error_iff hnull).1 hr
      obtain ⟨rfl, hsourceNumber, htargetNumber⟩ :=
        faultsIn_of_convertsTo hvalue hψ h hstring hfreed hrange fault hfault
      exact .inr ⟨hsourceNumber, htargetNumber, rfl⟩

/-- The first day of the epoch, two hours east of UTC: it has no time of day, but an instant. -/
theorem isConvertible_agrees_epoch :
    let zone : Offset := ⟨7200, by decide⟩
    (SqlType.date.isConvertible .time = false ∧
      convert (.date .epoch) .date .time zone =
        .error (.dataConversion .date "TIME" (Value.date .epoch).text)) ∧
    SqlType.date.isConvertible .timestampWithTimeZone = true ∧
      ∃ w, convert (.date .epoch) .date .timestampTz zone = .ok w := by
  intro zone
  have hrange : (Value.date .epoch).StaysInRange zone := rfl
  have htime := @isConvertible_agrees .date .time .date .time (.date .epoch) zone
    rfl rfl nofun nofun rfl rfl hrange
  have hinstant := @isConvertible_agrees .date .timestampWithTimeZone .date .timestampTz
    (.date .epoch) zone rfl rfl nofun nofun rfl rfl hrange
  refine ⟨⟨rfl, htime.1 rfl⟩, rfl, ?_⟩
  -- A date is no number.
  obtain hw | ⟨hnumber, -⟩ := hinstant.2 rfl rfl
  · exact hw
  · cases hnumber

end SqlAccess
