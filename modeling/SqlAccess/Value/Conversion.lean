import SqlAccess.Number.Binary64.Literal
import SqlAccess.Number.Decimal.Binary
import SqlAccess.Number.Decimal.Literal
import SqlAccess.Text.Uppercase
import SqlAccess.Value
import SqlAccess.Value.Target

/-!
# Converting values

`convert` takes a stored value to a target type. The family of the value decides; the SQL type it
is stored under matters only where one family carries several types, and for the wording of
errors. NULL converts to NULL (`convert_null`), and every value to itself as an object
(`convert_object`). Values without a zone are local to the session's zone.

Each target has its own function below. It says why it failed; `convert` puts the cause into
words.
-/

namespace SqlAccess

open SqlAccess.Text SqlAccess.Number SqlAccess.Calendar

/-- Why a value has no form in a target. -/
inductive ConversionFault
  /-- There is no rule, or the text is no number. -/
  | incompatible
  /-- A number that the target cannot hold. -/
  | outOfRange
  /-- A text that is no literal of the target. -/
  | malformed
  /-- The value itself cannot be read. -/
  | unreadable (cause : Error)
deriving DecidableEq

namespace Conversion

/-- The result, or the fault if there is none. -/
def orFault {α : Type} (fault : ConversionFault) : Option α → Except ConversionFault α
  | some a => .ok a
  | none => .error fault

/-- The result; a failure is one to read the value. -/
def orUnreadable {α : Type} : Except Error α → Except ConversionFault α
  | .ok a => .ok a
  | .error e => .error (.unreadable e)

/-! ## One function for each target -/

/-- Every value but a binary large object and an array has a text. A BIT reads as a digit. -/
def toChars (source : SqlType) : Value → Except ConversionFault (List Char)
  | .clob c => orUnreadable c.content
  | .blob _ | .array _ => .error .incompatible
  | .boolean b => .ok (if source = .bit then [if b then '1' else '0'] else Value.booleanText b)
  | v => .ok v.chars

/-- Reads TRUE or FALSE in any case. -/
def booleanOfText? (s : List Char) : Option Bool :=
  let word := toUpper (trim s)
  if word = "TRUE".toList then some true
  else if word = "FALSE".toList then some false
  else none

/-- A number is true unless it is zero. -/
def toBoolean : Value → Except ConversionFault Bool
  | .boolean b => .ok b
  | .integer n => .ok (n != 0)
  | .double x => .ok !x.isZero
  | .decimal d => .ok !d.isZero
  | .string s => orFault .incompatible (booleanOfText? s.toList)
  | _ => .error .incompatible

/-- Reads a number between blanks. -/
def decimalOfText? (s : List Char) : Option Decimal :=
  Decimal.ofText? (trim s)

/-- The integer part of a number, toward zero. -/
def integerPart : Value → Except ConversionFault Int
  | .integer n => .ok n.toInt
  | .boolean b => .ok (if b then 1 else 0)
  | .double x => orFault .outOfRange x.truncate?
  | .decimal d => .ok d.truncate
  | .string s => do
    return (← orFault .incompatible (decimalOfText? s.toList)).truncate
  | _ => .error .incompatible

/-- The integer part of a number, if it lies within the bounds of an integral target. -/
def toIntegral (target : TargetType) (v : Value) : Except ConversionFault Int64 := do
  let n ← integerPart v
  let k ← orFault .outOfRange (int64? n)
  let (least, greatest) ← orFault .incompatible target.integralBounds?
  if least ≤ n ∧ n ≤ greatest then return k else throw .outOfRange

/-- A number as a double. -/
def toDouble : Value → Except ConversionFault Binary64
  | .integer n => .ok (.ofInt n.toInt)
  | .boolean b => .ok (.ofInt (if b then 1 else 0))
  | .double x => .ok x
  | .decimal d => .ok d.toBinary64
  | .string s => orFault .incompatible (Binary64.ofText? (trim s.toList))
  | _ => .error .incompatible

/-- A number in single precision. -/
def toReal (v : Value) : Except ConversionFault Binary64 := do
  let x ← toDouble v
  if x.exceedsSingle then throw .outOfRange else return x.toSingle

/-- A number as a decimal. -/
def toDecimal : Value → Except ConversionFault Decimal
  | .integer n => .ok (.ofInt64 n)
  | .boolean b => .ok (.ofInt64 (if b then 1 else 0))
  | .double x => orFault .outOfRange (Decimal.ofBinary64? x)
  | .decimal d => .ok d
  | .string s => orFault .incompatible (decimalOfText? s.toList)
  | _ => .error .incompatible

/-- Bytes, the content of a binary large object, or hexadecimal text between blanks. -/
def toBytes : Value → Except ConversionFault (List UInt8)
  | .bytes b | .other b => .ok b
  | .blob b => orUnreadable b.content
  | .string s => orFault .incompatible (bytesOfHex? (trim s.toList))
  | _ => .error .incompatible

/-- The date, in the session's zone if the value has a zone. -/
def toDate (zone : Offset) : Value → Except ConversionFault Date
  | .date d => .ok d
  | .timestamp ts => .ok ts.date
  | .timestampTz z => .ok (z.atOffset zone).toLocal.date
  | .string s => orFault .malformed (Date.ofText? s.toList)
  | _ => .error .incompatible

/-- The time of day, in the session's zone if the value has a zone. -/
def toTime (zone : Offset) : Value → Except ConversionFault TimeOfDay
  | .time t => .ok t
  | .timestamp ts => .ok ts.time
  | .timeTz t => .ok (t.atOffset zone).time
  | .timestampTz z => .ok (z.atOffset zone).toLocal.time
  | .string s => orFault .malformed (TimeOfDay.ofText? s.toList)
  | _ => .error .incompatible

/-- The time of day with an offset; a value without one is in the session's zone. -/
def toTimeTz (zone : Offset) : Value → Except ConversionFault OffsetTime
  | .timeTz t => .ok t
  | .time t => .ok ⟨t, zone⟩
  | .timestamp ts => .ok ⟨ts.time, zone⟩
  | .timestampTz z => .ok ⟨z.toLocal.time, z.offset⟩
  | .string s => orFault .malformed (OffsetTime.ofText? (trim s.toList))
  | _ => .error .incompatible

/-- Date and time; a date stands for its midnight and a time for a time of the epoch. -/
def toTimestamp (zone : Offset) : Value → Except ConversionFault Timestamp
  | .timestamp ts => .ok ts
  | .date d => .ok (.ofDate d)
  | .time t => .ok ⟨.epoch, t⟩
  | .timeTz t => .ok ⟨.epoch, (t.atOffset zone).time⟩
  | .timestampTz z => .ok (z.atOffset zone).toLocal
  | .string s => orFault .malformed (Timestamp.ofText? s.toList)
  | _ => .error .incompatible

/-- The instant; a value without an offset is local to the session's zone. -/
def toTimestampTz (zone : Offset) : Value → Except ConversionFault ZonedTimestamp
  | .timestampTz z => .ok z
  | .timestamp ts => orFault .incompatible (ZonedTimestamp.ofLocal? ts zone)
  | .date d => orFault .incompatible (ZonedTimestamp.ofLocal? (.ofDate d) zone)
  | .string s => orFault .malformed (ZonedTimestamp.ofText? zone s.toList)
  | _ => .error .incompatible

/-- A year-month interval or its literal. -/
def toYearMonth : Value → Except ConversionFault YearMonth
  | .yearMonth i => .ok i
  | .string s => orFault .malformed (YearMonth.ofText? s.toList)
  | _ => .error .incompatible

/-- A day-time interval or its literal. -/
def toDayTime : Value → Except ConversionFault DayTime
  | .dayTime i => .ok i
  | .string s => orFault .malformed (DayTime.ofText? s.toList)
  | _ => .error .incompatible

/-- A character large object, or one made from a string. -/
def toClob : Value → Except ConversionFault Clob
  | .clob c => .ok c
  | .string s => .ok (.ofList s.toList)
  | _ => .error .incompatible

/-- A binary large object, or one made from bytes. -/
def toBlob : Value → Except ConversionFault Blob
  | .blob b => .ok b
  | .bytes b => .ok (.ofList b)
  | _ => .error .incompatible

/-- The items of an array. -/
def toArray : Value → Except ConversionFault (List Value)
  | .array items => .ok items
  | _ => .error .incompatible

/-- A value that is not NULL, taken to a target. -/
def ofNonNull (v : Value) (source : SqlType) (zone : Offset) :
    TargetType → Except ConversionFault Value
  | .boolean => .boolean <$> toBoolean v
  | .tinyInt => .integer <$> toIntegral .tinyInt v
  | .smallInt => .integer <$> toIntegral .smallInt v
  | .integer => .integer <$> toIntegral .integer v
  | .bigInt => .integer <$> toIntegral .bigInt v
  | .real => .double <$> toReal v
  | .double => .double <$> toDouble v
  | .decimal => .decimal <$> toDecimal v
  | .string => (fun s => .string (String.ofList s)) <$> toChars source v
  | .bytes => .bytes <$> toBytes v
  | .date => .date <$> toDate zone v
  | .time => .time <$> toTime zone v
  | .timeTz => .timeTz <$> toTimeTz zone v
  | .timestamp => .timestamp <$> toTimestamp zone v
  | .timestampTz => .timestampTz <$> toTimestampTz zone v
  | .yearMonth => .yearMonth <$> toYearMonth v
  | .dayTime => .dayTime <$> toDayTime v
  | .clob => .clob <$> toClob v
  | .blob => .blob <$> toBlob v
  | .array => .array <$> toArray v
  | .object => .ok v

end Conversion

/-- A fault in words: what was to be converted, from which type and to which target. -/
def ConversionFault.error (v : Value) (source : SqlType) (target : TargetType) :
    ConversionFault → Error
  | incompatible => .dataConversion source target.name v.text
  | outOfRange => .numericOutOfRange target.sqlType v.text
  | malformed => .invalidFormat target.sqlType v.text
  | unreadable cause => cause

/-- Converts a value stored under an SQL type to a target. -/
def convert (v : Value) (source : SqlType) (target : TargetType) (zone : Offset) :
    Except Error Value :=
  if v.isNull then .ok .null
  else (Conversion.ofNonNull v source zone target).mapError (·.error v source target)

/-- Converts a value supplied by the client to the declared type of a parameter. -/
def coerceForParameter (v : Value) (declared : SqlType) (zone : Offset) : Except Error Value :=
  if v.isNull then .ok .null
  else
    match TargetType.ofSqlType declared with
    | .error e => .error e
    | .ok .object => .ok v
    | .ok target => convert v v.sqlType target zone

theorem convert_object (v : Value) (source : SqlType) (zone : Offset) :
    convert v source .object zone = .ok v := by
  cases v <;> rfl

end SqlAccess
