import SqlAccess.Value.Conversion

/-!
# Reading values into carriers

Every target has a carrier, the type of the values that a client gets when it asks for that
target. `unwrap` takes a converted value to its carrier and `wrap` takes it back; a converted
value survives the round trip. `extract` converts first, and tells NULL apart.
-/

namespace SqlAccess

open SqlAccess.Number SqlAccess.Calendar

namespace TargetType

/-- The type of the values that a client gets for a target. Single-precision numbers are kept
widened. -/
@[reducible] def Carrier : TargetType → Type
  | boolean => Bool
  | tinyInt => Int8
  | smallInt => Int16
  | integer => Int32
  | bigInt => Int64
  | real => Binary64
  | double => Binary64
  | decimal => Decimal
  | string => String
  | bytes => List UInt8
  | date => Date
  | time => TimeOfDay
  | timeTz => OffsetTime
  | timestamp => Timestamp
  | timestampTz => ZonedTimestamp
  | yearMonth => YearMonth
  | dayTime => DayTime
  | clob => Clob
  | blob => Blob
  | array => List Value
  | object => Value

/-- The value that a carrier stands for. -/
def wrap : (t : TargetType) → t.Carrier → Value
  | boolean, b => .boolean b
  | tinyInt, n => .integer n.toInt64
  | smallInt, n => .integer n.toInt64
  | integer, n => .integer n.toInt64
  | bigInt, n => .integer n
  | real, x => .double x
  | double, x => .double x
  | decimal, d => .decimal d
  | string, s => .string s
  | bytes, b => .bytes b
  | date, d => .date d
  | time, t => .time t
  | timeTz, t => .timeTz t
  | timestamp, ts => .timestamp ts
  | timestampTz, z => .timestampTz z
  | yearMonth, i => .yearMonth i
  | dayTime, i => .dayTime i
  | clob, c => .clob c
  | blob, b => .blob b
  | array, items => .array items
  | object, v => v

/-- A value of the wrong family for a target. -/
def unexpected (t : TargetType) (v : Value) : Error :=
  .internal s!"{v.sqlType.identifier} is not a converted {t.name} value"

/-- The carrier of a value already converted to the target. Integers wrap to the width of the
carrier. -/
def unwrap : (t : TargetType) → Value → Except Error t.Carrier
  | boolean, .boolean b => .ok b
  | tinyInt, .integer n => .ok n.toInt8
  | smallInt, .integer n => .ok n.toInt16
  | integer, .integer n => .ok n.toInt32
  | bigInt, .integer n => .ok n
  | real, .double x => .ok x.toSingle
  | double, .double x => .ok x
  | decimal, .decimal d => .ok d
  | string, .string s => .ok s
  | bytes, .bytes b => .ok b
  | date, .date d => .ok d
  | time, .time t => .ok t
  | timeTz, .timeTz t => .ok t
  | timestamp, .timestamp ts => .ok ts
  | timestampTz, .timestampTz z => .ok z
  | yearMonth, .yearMonth i => .ok i
  | dayTime, .dayTime i => .ok i
  | clob, .clob c => .ok c
  | blob, .blob b => .ok b
  | array, .array items => .ok items
  | object, v => .ok v
  | t, v => .error (t.unexpected v)

/-- The value that stands for NULL where a client asks for a number or a truth value. -/
def zero? : TargetType → Option Value
  | boolean => some (.boolean false)
  | tinyInt | smallInt | integer | bigInt => some (.integer 0)
  | real | double => some (.double (.ofInt 0))
  | _ => none

end TargetType

/-- Converts a stored value to a target and takes its carrier; none for NULL. -/
def extract (v : Value) (source : SqlType) (target : TargetType) (zone : Offset) :
    Except Error (Option target.Carrier) :=
  if v.isNull then .ok none
  else do
    return some (← target.unwrap (← convert v source target zone))

/-- A carrier as a value; NULL if there is none. -/
def TargetType.wrapOption (t : TargetType) : Option t.Carrier → Value
  | some a => t.wrap a
  | none => .null

end SqlAccess
