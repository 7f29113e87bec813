import SqlAccess.Proofs.Action
import SqlAccess.Value.Reading

/-!
# Converting is a projection

A target stands for one family of values (`TargetType.family?`), and an integral one for those
within its bounds. Its carrier holds exactly these: what a conversion gives is a carrier wrapped as
a value (`exists_wrap_of_ofNonNull`), and a value of this kind converts to itself
(`ofNonNull_wrap`). The main result puts both together and adds that carriers are read without any
loss (`convert_projects`). Kinds of values that a client may ask for under one target, such as the
two kinds of character large objects, share its carrier.
-/

namespace SqlAccess

open SqlAccess.Number SqlAccess.Calendar

/-! ## Families -/

/-- A family of values. -/
inductive Family
  | boolean
  | integer
  | double
  | decimal
  | string
  | bytes
  | date
  | time
  | timeTz
  | timestamp
  | timestampTz
  | yearMonth
  | dayTime
  | clob
  | blob
  | array
deriving DecidableEq

/-- The family of a value; NULL and objects of the engine are of none. -/
def Value.family? : Value → Option Family
  | null => none
  | boolean _ => some .boolean
  | integer _ => some .integer
  | double _ => some .double
  | decimal _ => some .decimal
  | string _ => some .string
  | bytes _ => some .bytes
  | date _ => some .date
  | time _ => some .time
  | timeTz _ => some .timeTz
  | timestamp _ => some .timestamp
  | timestampTz _ => some .timestampTz
  | yearMonth _ => some .yearMonth
  | dayTime _ => some .dayTime
  | clob _ => some .clob
  | blob _ => some .blob
  | array _ => some .array
  | other _ => none

namespace TargetType

/-- The family that a target stands for; values as they are have no family in common. -/
def family? : TargetType → Option Family
  | boolean => some .boolean
  | tinyInt => some .integer
  | smallInt => some .integer
  | integer => some .integer
  | bigInt => some .integer
  | real => some .double
  | double => some .double
  | decimal => some .decimal
  | string => some .string
  | bytes => some .bytes
  | date => some .date
  | time => some .time
  | timeTz => some .timeTz
  | timestamp => some .timestamp
  | timestampTz => some .timestampTz
  | yearMonth => some .yearMonth
  | dayTime => some .dayTime
  | clob => some .clob
  | blob => some .blob
  | array => some .array
  | object => none

/-- An integer lies within the bounds of a target, if this has any. -/
def Admits (t : TargetType) (n : Int64) : Prop :=
  ∀ bounds ∈ t.integralBounds?, bounds.1 ≤ n.toInt ∧ n.toInt ≤ bounds.2

theorem family?_eq_none_iff {t : TargetType} : t.family? = none ↔ t = object := by
  cases t <;> simp [family?]

/-! ## Carriers -/

/-- A carrier is a value of the target's family. -/
theorem family?_wrap {t : TargetType} (h : t ≠ object) (a : t.Carrier) :
    (t.wrap a).family? = t.family? := by
  cases t with
  | object => exact absurd rfl h
  | _ => rfl

theorem isNull_wrap {t : TargetType} (h : t ≠ object) (a : t.Carrier) :
    (t.wrap a).isNull = false := by
  cases t with
  | object => exact absurd rfl h
  | _ => rfl

/-- A carrier of an integral target is as wide as the bounds of the target are. -/
theorem admits_of_wrap {t : TargetType} {a : t.Carrier} {n : Int64} (h : t.wrap a = .integer n) :
    t.Admits n := by
  intro bounds hb
  -- Widening the carrier keeps the integer, which is within the range of its own width.
  cases t with
  | tinyInt =>
    cases h
    cases hb
    rw [Int8.toInt_toInt64]
    exact ⟨Int8.le_toInt a, Int.lt_add_one_iff.1 (Int8.toInt_lt a)⟩
  | smallInt =>
    cases h
    cases hb
    rw [Int16.toInt_toInt64]
    exact ⟨Int16.le_toInt a, Int.lt_add_one_iff.1 (Int16.toInt_lt a)⟩
  | integer =>
    cases h
    cases hb
    rw [Int32.toInt_toInt64]
    exact ⟨Int32.le_toInt a, Int.lt_add_one_iff.1 (Int32.toInt_lt a)⟩
  | bigInt =>
    cases hb
    exact ⟨Int64.le_toInt n, Int.lt_add_one_iff.1 (Int64.toInt_lt n)⟩
  | _ => cases hb

/-- An integer within the bounds of a target is one of its carriers. -/
theorem exists_wrap_of_admits {t : TargetType} {n : Int64} (ht : t.family? = some .integer)
    (h : t.Admits n) : ∃ a : t.Carrier, t.wrap a = .integer n := by
  -- The integer is cut to the width of the carrier, which loses nothing within the bounds.
  cases t with
  | tinyInt =>
    obtain ⟨lo, hi⟩ := h _ rfl
    refine ⟨n.toInt8, congrArg Value.integer (Int64.toInt_inj.1 ?_)⟩
    rw [Int8.toInt_toInt64, Int64.toInt_toInt8]
    exact Int.bmod_eq_of_le lo (Int.lt_add_one_iff.2 hi)
  | smallInt =>
    obtain ⟨lo, hi⟩ := h _ rfl
    refine ⟨n.toInt16, congrArg Value.integer (Int64.toInt_inj.1 ?_)⟩
    rw [Int16.toInt_toInt64, Int64.toInt_toInt16]
    exact Int.bmod_eq_of_le lo (Int.lt_add_one_iff.2 hi)
  | integer =>
    obtain ⟨lo, hi⟩ := h _ rfl
    refine ⟨n.toInt32, congrArg Value.integer (Int64.toInt_inj.1 ?_)⟩
    rw [Int32.toInt_toInt64, Int64.toInt_toInt32]
    exact Int.bmod_eq_of_le lo (Int.lt_add_one_iff.2 hi)
  | bigInt => exact ⟨n, rfl⟩
  | _ => cases ht

/-- Every carrier is read, though perhaps as another one. -/
theorem exists_unwrap_wrap (t : TargetType) (a : t.Carrier) : ∃ b, t.unwrap (t.wrap a) = .ok b := by
  cases t <;> exact ⟨_, rfl⟩

/-- Only single-precision numbers may change when they are read. -/
theorem unwrap_wrap {t : TargetType} (h : t ≠ real) (a : t.Carrier) :
    t.unwrap (t.wrap a) = .ok a := by
  cases t with
  | real => exact absurd rfl h
  | tinyInt => exact congrArg Except.ok (Int8.toInt8_toInt64 a)
  | smallInt => exact congrArg Except.ok (Int16.toInt16_toInt64 a)
  | integer => exact congrArg Except.ok (Int32.toInt32_toInt64 a)
  | _ => rfl

end TargetType

namespace Conversion

/-! ## What a conversion gives -/

theorem orFault_eq_ok_iff {α : Type} {fault : ConversionFault} {o : Option α} {a : α} :
    orFault fault o = .ok a ↔ o = some a := by
  cases o with
  | none => simp [orFault]
  | some b => simp [orFault]

/-- An integer that an integral conversion gives is within the bounds of its target. -/
theorem admits_of_toIntegral {t : TargetType} {v : Value} {n : Int64}
    (h : toIntegral t v = .ok n) : t.Admits n := by
  obtain ⟨m, -, h⟩ := bind_eq_ok_iff.1 h
  obtain ⟨k, hk, h⟩ := bind_eq_ok_iff.1 h
  obtain ⟨bounds, hb, h⟩ := bind_eq_ok_iff.1 h
  rw [orFault_eq_ok_iff] at hk hb
  rw [int64?_eq_some_iff] at hk
  -- The bounds were looked at before the integer was given.
  by_cases hm : bounds.1 ≤ m ∧ m ≤ bounds.2
  · simp only [if_pos hm, pure, Except.pure, Except.ok.injEq] at h
    intro other ho
    cases hb.symm.trans ho
    rwa [← h, hk]
  · simp only [if_neg hm] at h
    cases h

/-- An integer that an integral target holds is kept. -/
theorem toIntegral_integer {t : TargetType} {n : Int64} (ht : t.family? = some .integer)
    (h : t.Admits n) : toIntegral t (.integer n) = .ok n := by
  -- Each integral target has bounds.
  have hb : ∃ bounds, t.integralBounds? = some bounds := by
    cases t with
    | tinyInt | smallInt | integer | bigInt => exact ⟨_, rfl⟩
    | _ => cases ht
  obtain ⟨bounds, hb⟩ := hb
  have hn : bounds.1 ≤ n.toInt ∧ n.toInt ≤ bounds.2 := h bounds hb
  simp only [toIntegral, integerPart, int64?_toInt, hb, orFault, bind, Except.bind, if_pos hn]
  rfl

/-- What is given is a carrier of the target. -/
theorem exists_wrap_of_ofNonNull {v w : Value} {source : SqlType} {zone : Offset}
    {t : TargetType} (h : ofNonNull v source zone t = .ok w) : ∃ a : t.Carrier, t.wrap a = w := by
  cases t with
  | object => exact ⟨w, rfl⟩
  | tinyInt | smallInt | integer | bigInt =>
    -- Only here is the carrier narrower than the value, which the bounds make up for.
    obtain ⟨n, hn, rfl⟩ := map_eq_ok_iff.1 h
    exact TargetType.exists_wrap_of_admits rfl (admits_of_toIntegral hn)
  | _ =>
    obtain ⟨a, -, rfl⟩ := map_eq_ok_iff.1 h
    exact ⟨_, rfl⟩

/-- A carrier converts to itself, from every type and in every zone. -/
theorem ofNonNull_wrap {t : TargetType} (h : t ≠ .real) (a : t.Carrier) (source : SqlType)
    (zone : Offset) : ofNonNull (t.wrap a) source zone t = .ok (t.wrap a) := by
  cases t with
  | real => exact absurd rfl h
  | tinyInt | smallInt | integer | bigInt =>
    exact congrArg (Value.integer <$> ·) (toIntegral_integer rfl (TargetType.admits_of_wrap rfl))
  | string =>
    -- The text of a string is the string, taken apart and put together again.
    exact congrArg (fun s => Except.ok (Value.string s)) String.ofList_toList
  | _ => rfl

/-! ## How a conversion fails -/

/-- Whatever fault there is has a property. -/
def FaultsIn {α : Type} (P : ConversionFault → Prop) (x : Except ConversionFault α) : Prop :=
  ∀ fault, x = .error fault → P fault

section FaultsIn

variable {α β : Type} {P : ConversionFault → Prop}

@[simp]
theorem faultsIn_ok (a : α) : FaultsIn P (.ok a) := by
  simp [FaultsIn]

@[simp]
theorem faultsIn_pure (a : α) : FaultsIn P (pure a) :=
  faultsIn_ok a

@[simp]
theorem faultsIn_error (fault : ConversionFault) :
    FaultsIn P (.error fault : Except ConversionFault α) ↔ P fault := by
  simp [FaultsIn]

@[simp]
theorem faultsIn_throw (fault : ConversionFault) :
    FaultsIn P (throw fault : Except ConversionFault α) ↔ P fault :=
  faultsIn_error fault

@[simp]
theorem faultsIn_map (f : α → β) (x : Except ConversionFault α) :
    FaultsIn P (f <$> x) ↔ FaultsIn P x := by
  cases x with
  | error e => simp [Functor.map, Except.map]
  | ok a => simp [Functor.map, Except.map]

@[simp]
theorem faultsIn_bind (x : Except ConversionFault α) (f : α → Except ConversionFault β) :
    FaultsIn P (x >>= f) ↔ FaultsIn P x ∧ ∀ a, x = .ok a → FaultsIn P (f a) := by
  cases x with
  | error e => simp [bind, Except.bind]
  | ok a => simp [bind, Except.bind]

@[simp]
theorem faultsIn_orFault (fault : ConversionFault) (o : Option α) :
    FaultsIn P (orFault fault o) ↔ (o = none → P fault) := by
  cases o with
  | none => simp [orFault]
  | some a => simp [orFault]

@[simp]
theorem faultsIn_ite (c : Prop) [Decidable c] (x y : Except ConversionFault α) :
    FaultsIn P (if c then x else y) ↔ (c → FaultsIn P x) ∧ (¬c → FaultsIn P y) := by
  split
  · next h => simp [h]
  · next h => simp [h]

@[simp]
theorem faultsIn_content (l : Lob β) :
    FaultsIn P (orUnreadable l.content) ↔
      (l.freed = true → P (.unreadable (.invalidArgument "LOB has been freed"))) := by
  cases h : l.freed with
  | false => simp [Lob.content, orUnreadable, h]
  | true => simp [Lob.content, orUnreadable, h]

end FaultsIn

/-- A fault that is not one of the client itself. -/
def NotInternal (fault : ConversionFault) : Prop :=
  ∀ text, fault ≠ .unreadable (.internal text)

/-- Only the content of a freed large object is unreadable. -/
theorem faultsIn_ofNonNull (v : Value) (source : SqlType) (zone : Offset) (t : TargetType) :
    FaultsIn NotInternal (ofNonNull v source zone t) := by
  -- As it is, a value is given without a rule.
  cases t with
  | object => simp [ofNonNull]
  | _ =>
    simp only [ofNonNull, faultsIn_map]
    -- Whichever rule a target has for a value, it names a fault of its own or reads a content.
    cases v <;> simp [NotInternal, toBoolean, toIntegral, integerPart, toReal, toDouble, toDecimal,
      toChars, toBytes, toDate, toTime, toTimeTz, toTimestamp, toTimestampTz, toYearMonth, toDayTime,
      toClob, toBlob, toArray]

end Conversion

/-! ## Converting and reading -/

open Conversion

variable {v w : Value} {source : SqlType} {t : TargetType} {zone : Offset} {e : Error}

theorem convert_of_isNull (h : v.isNull = true) : convert v source t zone = .ok .null :=
  if_pos h

/-- For any other value, an error is a fault put into words. -/
theorem convert_of_not_isNull (h : v.isNull = false) :
    convert v source t zone = (ofNonNull v source zone t).mapError (·.error v source t) := by
  rw [convert, h]
  rfl

/-- A conversion succeeds if the one for values other than NULL does. -/
theorem convert_eq_ok_iff (h : v.isNull = false) :
    convert v source t zone = .ok w ↔ ofNonNull v source zone t = .ok w := by
  rw [convert_of_not_isNull h]
  cases ofNonNull v source zone t with
  | error fault => exact ⟨nofun, nofun⟩
  | ok w' =>
    constructor
    · rintro ⟨⟩
      rfl
    · rintro ⟨⟩
      rfl

/-- An error is a fault in words. -/
theorem convert_eq_error_iff (h : v.isNull = false) :
    convert v source t zone = .error e ↔
      ∃ fault, ofNonNull v source zone t = .error fault ∧ fault.error v source t = e := by
  rw [convert_of_not_isNull h]
  cases ofNonNull v source zone t with
  | error fault =>
    constructor
    · rintro ⟨⟩
      exact ⟨fault, rfl, rfl⟩
    · rintro ⟨_, ⟨⟩, rfl⟩
      rfl
  | ok w' => exact ⟨nofun, nofun⟩

/-- What is converted is NULL for NULL only, and else a carrier of the target. -/
theorem convert_cases (h : convert v source t zone = .ok w) :
    (v.isNull = true ∧ w = .null) ∨ (v.isNull = false ∧ ∃ a : t.Carrier, w = t.wrap a) := by
  cases hv : v.isNull with
  | true =>
    rw [convert_of_isNull hv] at h
    cases h
    exact .inl ⟨rfl, rfl⟩
  | false =>
    rw [convert_eq_ok_iff hv] at h
    obtain ⟨a, rfl⟩ := exists_wrap_of_ofNonNull h
    exact .inr ⟨rfl, a, rfl⟩

/-- NULL is always converted. -/
theorem isNull_of_convert_error (h : convert v source t zone = .error e) : v.isNull = false := by
  cases hv : v.isNull with
  | true =>
    rw [convert_of_isNull hv] at h
    cases h
  | false => rfl

/-- NULL is what NULL is converted to, and nothing else is. -/
theorem isNull_of_convert (h : convert v source t zone = .ok w) : w.isNull = v.isNull := by
  -- Values as they are may be NULL, but then they were NULL before.
  by_cases ht : t = .object
  · subst ht
    rw [convert_object, Except.ok.injEq] at h
    rw [h]
  · obtain ⟨hv, rfl⟩ | ⟨hv, a, rfl⟩ := convert_cases h
    · exact hv.symm
    · rw [hv]
      exact TargetType.isNull_wrap ht a

/-- Every carrier but a single-precision number is converted to itself. -/
theorem convert_wrap (ht : t ≠ .real) (a : t.Carrier) (source : SqlType) (zone : Offset) :
    convert (t.wrap a) source t zone = .ok (t.wrap a) := by
  -- Without a family of its own, the target takes even NULL.
  by_cases hto : t = .object
  · subst hto
    exact convert_object a source zone
  · rw [convert_eq_ok_iff (TargetType.isNull_wrap hto a)]
    exact ofNonNull_wrap ht a source zone

/-- What was converted is not changed by another conversion. -/
theorem convert_of_convert (ht : t ≠ .real) (h : convert v source t zone = .ok w) (source' : SqlType)
    (zone' : Offset) : convert w source' t zone' = .ok w := by
  obtain ⟨-, rfl⟩ | ⟨-, a, rfl⟩ := convert_cases h
  · rfl
  · exact convert_wrap ht a source' zone'

/-- A conversion never fails for a reason of the client's own. -/
theorem convert_ne_internal (text : String) : convert v source t zone ≠ .error (.internal text) := by
  intro h
  have hv : v.isNull = false := isNull_of_convert_error h
  obtain ⟨fault, hfault, he⟩ := (convert_eq_error_iff hv).1 h
  -- Only an unreadable content hands on an error that is not made here.
  cases fault with
  | unreadable cause =>
    apply faultsIn_ofNonNull v source zone t _ hfault text
    exact congrArg _ he
  | _ => cases he

/-- A value is converted to the target of the parameter's type. -/
theorem coerceForParameter_of_not_isNull {d : SqlType} (hv : v.isNull = false)
    (ht : TargetType.ofSqlType d = .ok t) (hobject : t ≠ .object) :
    coerceForParameter v d zone = convert v v.sqlType t zone := by
  rw [coerceForParameter, hv, ht]
  cases t with
  | object => exact absurd rfl hobject
  | _ => rfl

theorem extract_of_isNull (h : v.isNull = true) : extract v source t zone = .ok none :=
  if_pos h

theorem extract_of_convert_error (h : convert v source t zone = .error e) :
    extract v source t zone = .error e := by
  have hv : v.isNull = false := isNull_of_convert_error h
  simp only [extract, hv, h, Bool.false_eq_true, if_false, bind, Except.bind]

theorem extract_of_convert {a : t.Carrier} (hv : v.isNull = false)
    (h : convert v source t zone = .ok w) (ha : t.unwrap w = .ok a) :
    extract v source t zone = .ok (some a) := by
  simp only [extract, hv, h, ha, Bool.false_eq_true, if_false, bind, Except.bind]
  rfl

/-- What is read is what was converted, unless that is a single-precision number. -/
theorem map_wrapOption_extract (ht : t ≠ .real) :
    (extract v source t zone).map t.wrapOption = convert v source t zone := by
  cases hc : convert v source t zone with
  | error e =>
    rw [extract_of_convert_error hc]
    rfl
  | ok w =>
    obtain ⟨hv, rfl⟩ | ⟨hv, a, rfl⟩ := convert_cases hc
    · rw [extract_of_isNull hv]
      rfl
    · rw [extract_of_convert hv hc (TargetType.unwrap_wrap ht a)]
      rfl

/-- Reading does not fail for a reason of the client's own either. -/
theorem extract_ne_internal (text : String) : extract v source t zone ≠ .error (.internal text) := by
  cases hc : convert v source t zone with
  | error e =>
    rw [extract_of_convert_error hc]
    rintro ⟨⟩
    exact convert_ne_internal text hc
  | ok w =>
    obtain ⟨hv, -⟩ | ⟨hv, a, rfl⟩ := convert_cases hc
    · rw [extract_of_isNull hv]
      nofun
    · -- Every carrier is read, though a single-precision number perhaps as another one.
      obtain ⟨b, hb⟩ := TargetType.exists_unwrap_wrap t a
      rw [extract_of_convert hv hc hb]
      nofun

/-- A value is one that a target stands for: of its family, and an integer within its bounds. -/
structure TargetType.Holds (t : TargetType) (w : Value) : Prop where
  family : w.family? = t.family?
  admits : ∀ n, w = .integer n → t.Admits n

theorem TargetType.holds_wrap (h : t ≠ .object) (a : t.Carrier) : t.Holds (t.wrap a) where
  family := TargetType.family?_wrap h a
  admits _ := TargetType.admits_of_wrap

/-- Converting is a projection: what it gives is NULL for NULL, else of the kind that the target
stands for, and converts to itself. Reading the converted value into its carrier never fails, and
the carrier stands for that very value. -/
theorem convert_projects (v : Value) (source : SqlType) (target : TargetType) (zone : Offset) :
    (∀ w, convert v source target zone = .ok w →
      w.isNull = v.isNull ∧
      (w.isNull = false → target ≠ .object → target.Holds w) ∧
      (target ≠ .real → ∀ later, convert w w.sqlType target later = .ok w)) ∧
    (∀ text, extract v source target zone ≠ .error (.internal text)) ∧
    (target ≠ .real →
      (extract v source target zone).map target.wrapOption = convert v source target zone) := by
  refine ⟨fun w h => ⟨isNull_of_convert h, ?_, fun ht => convert_of_convert ht h w.sqlType⟩,
    extract_ne_internal, map_wrapOption_extract⟩
  intro hw ht
  obtain ⟨-, rfl⟩ | ⟨-, a, rfl⟩ := convert_cases h
  · cases hw
  · exact TargetType.holds_wrap ht a

end SqlAccess
