import SqlAccess.Error

/-!
# Target types

The types that a client can ask for a value in. Every SQL type that is supported has one target,
and every target but `object` stands for one family of values.
-/

namespace SqlAccess

/-- A type that a value can be requested as. -/
inductive TargetType
  | boolean | tinyInt | smallInt | integer | bigInt | real | double | decimal
  | string | bytes | date | time | timeTz | timestamp | timestampTz
  | yearMonth | dayTime | clob | blob | array
  /-- The engine's own representation, unconverted. -/
  | object
deriving DecidableEq, Inhabited

namespace TargetType

/-- Every target. -/
def all : List TargetType := [
  .boolean, .tinyInt, .smallInt, .integer, .bigInt, .real, .double, .decimal,
  .string, .bytes, .date, .time, .timeTz, .timestamp, .timestampTz,
  .yearMonth, .dayTime, .clob, .blob, .array, .object]

/-- The SQL type that a value converted to a target carries. -/
def sqlType : TargetType → SqlType
  | boolean => .boolean
  | tinyInt => .tinyInt
  | smallInt => .smallInt
  | integer => .integer
  | bigInt => .bigInt
  | real => .real
  | double => .double
  | decimal => .decimal
  | string => .varChar
  | bytes => .varBinary
  | date => .date
  | time => .time
  | timeTz => .timeWithTimeZone
  | timestamp => .timestamp
  | timestampTz => .timestampWithTimeZone
  | yearMonth => .intervalYearToMonth
  | dayTime => .intervalDayToSecond
  | clob => .clob
  | blob => .blob
  | array => .array
  | object => .other

/-- The name of a target in messages. -/
def name : TargetType → String
  | object => "OBJECT"
  | t => t.sqlType.name

/-- The name of a target as one word. -/
def identifier : TargetType → String
  | boolean => "Boolean"
  | tinyInt => "TinyInt"
  | smallInt => "SmallInt"
  | integer => "Integer"
  | bigInt => "BigInt"
  | real => "Real"
  | double => "Double"
  | decimal => "Decimal"
  | string => "String"
  | bytes => "Bytes"
  | date => "Date"
  | time => "Time"
  | timeTz => "TimeTz"
  | timestamp => "Timestamp"
  | timestampTz => "TimestampTz"
  | yearMonth => "IntervalYearMonth"
  | dayTime => "IntervalDaySecond"
  | clob => "Clob"
  | blob => "Blob"
  | array => "Array"
  | object => "Object"

/-- The target with this name. -/
def ofIdentifier? (s : String) : Option TargetType :=
  all.find? fun t => t.identifier == s

/-- The target of a declared SQL type. -/
def ofSqlType (t : SqlType) : Except Error TargetType :=
  match t with
  | .bit | .boolean => .ok boolean
  | .tinyInt => .ok tinyInt
  | .smallInt => .ok smallInt
  | .integer => .ok integer
  | .bigInt => .ok bigInt
  | .real => .ok real
  | .float | .double => .ok double
  | .numeric | .decimal => .ok decimal
  | .char | .varChar | .longVarChar | .nchar | .nvarchar | .longNvarchar => .ok string
  | .binary | .varBinary | .longVarBinary => .ok bytes
  | .date => .ok date
  | .time => .ok time
  | .timeWithTimeZone => .ok timeTz
  | .timestamp => .ok timestamp
  | .timestampWithTimeZone => .ok timestampTz
  | .intervalYear | .intervalMonth | .intervalYearToMonth => .ok yearMonth
  | .intervalDay | .intervalHour | .intervalMinute | .intervalSecond
  | .intervalDayToHour | .intervalDayToMinute | .intervalDayToSecond
  | .intervalHourToMinute | .intervalHourToSecond | .intervalMinuteToSecond => .ok dayTime
  | .clob | .nclob => .ok clob
  | .blob => .ok blob
  | .array => .ok array
  | .null | .other | .javaObject | .distinct | .struct => .ok object
  | .ref | .dataLink | .rowId | .sqlXml | .refCursor => .error (.featureNotSupported t.name)

/-- The least and the greatest integer of an integral target. -/
def integralBounds? : TargetType → Option (Int × Int)
  | tinyInt => some (-128, 127)
  | smallInt => some (-32768, 32767)
  | integer => some (-2147483648, 2147483647)
  | bigInt => some (-9223372036854775808, 9223372036854775807)
  | _ => none

end TargetType

end SqlAccess
