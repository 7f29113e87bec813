/-!
# SQL types

The data types of the engine with their numeric codes and their names in messages, and the
families they fall into.
-/

namespace SqlAccess

/-- A data type of the engine. -/
inductive SqlType
  | bit
  | tinyInt
  | smallInt
  | integer
  | bigInt
  | float
  | real
  | double
  | numeric
  | decimal
  | char
  | varChar
  | longVarChar
  | date
  | time
  | timestamp
  | binary
  | varBinary
  | longVarBinary
  | null
  | other
  | javaObject
  | distinct
  | struct
  | array
  | blob
  | clob
  | ref
  | dataLink
  | boolean
  | rowId
  | nchar
  | nvarchar
  | longNvarchar
  | nclob
  | sqlXml
  | refCursor
  | timeWithTimeZone
  | timestampWithTimeZone
  | intervalYear
  | intervalMonth
  | intervalDay
  | intervalHour
  | intervalMinute
  | intervalSecond
  | intervalYearToMonth
  | intervalDayToHour
  | intervalDayToMinute
  | intervalDayToSecond
  | intervalHourToMinute
  | intervalHourToSecond
  | intervalMinuteToSecond
deriving DecidableEq, Inhabited

namespace SqlType

/-- Every type, in the order of the standard interface. -/
def all : List SqlType := [
  .bit, .tinyInt, .smallInt, .integer, .bigInt, .float, .real, .double, .numeric, .decimal,
  .char, .varChar, .longVarChar, .date, .time, .timestamp, .binary, .varBinary, .longVarBinary,
  .null, .other, .javaObject, .distinct, .struct, .array, .blob, .clob, .ref, .dataLink,
  .boolean, .rowId, .nchar, .nvarchar, .longNvarchar, .nclob, .sqlXml, .refCursor,
  .timeWithTimeZone, .timestampWithTimeZone, .intervalYear, .intervalMonth, .intervalDay,
  .intervalHour, .intervalMinute, .intervalSecond, .intervalYearToMonth, .intervalDayToHour,
  .intervalDayToMinute, .intervalDayToSecond, .intervalHourToMinute, .intervalHourToSecond,
  .intervalMinuteToSecond]

/-- The numeric code of a type. -/
def code : SqlType → Int
  | .bit => -7
  | .tinyInt => -6
  | .smallInt => 5
  | .integer => 4
  | .bigInt => -5
  | .float => 6
  | .real => 7
  | .double => 8
  | .numeric => 2
  | .decimal => 3
  | .char => 1
  | .varChar => 12
  | .longVarChar => -1
  | .date => 91
  | .time => 92
  | .timestamp => 93
  | .binary => -2
  | .varBinary => -3
  | .longVarBinary => -4
  | .null => 0
  | .other => 1111
  | .javaObject => 2000
  | .distinct => 2001
  | .struct => 2002
  | .array => 2003
  | .blob => 2004
  | .clob => 2005
  | .ref => 2006
  | .dataLink => 70
  | .boolean => 16
  | .rowId => -8
  | .nchar => -15
  | .nvarchar => -9
  | .longNvarchar => -16
  | .nclob => 2011
  | .sqlXml => 2009
  | .refCursor => 2012
  | .timeWithTimeZone => 2013
  | .timestampWithTimeZone => 2014
  | .intervalYear => 101
  | .intervalMonth => 102
  | .intervalDay => 103
  | .intervalHour => 104
  | .intervalMinute => 105
  | .intervalSecond => 106
  | .intervalYearToMonth => 107
  | .intervalDayToHour => 108
  | .intervalDayToMinute => 109
  | .intervalDayToSecond => 110
  | .intervalHourToMinute => 111
  | .intervalHourToSecond => 112
  | .intervalMinuteToSecond => 113

/-- The type with this code. -/
def ofCode? (code : Int) : Option SqlType :=
  all.find? fun t => t.code == code

/-- The name of a type in messages and metadata. -/
def name : SqlType → String
  | .bit => "BIT"
  | .tinyInt => "TINYINT"
  | .smallInt => "SMALLINT"
  | .integer => "INTEGER"
  | .bigInt => "BIGINT"
  | .float => "FLOAT"
  | .real => "REAL"
  | .double => "DOUBLE"
  | .numeric => "NUMERIC"
  | .decimal => "DECIMAL"
  | .char => "CHARACTER"
  | .varChar => "VARCHAR"
  | .longVarChar => "LONGVARCHAR"
  | .date => "DATE"
  | .time => "TIME"
  | .timestamp => "TIMESTAMP"
  | .binary => "BINARY"
  | .varBinary => "VARBINARY"
  | .longVarBinary => "LONGVARBINARY"
  | .null => "NULL"
  | .other => "OTHER"
  | .javaObject => "JAVA_OBJECT"
  | .distinct => "DISTINCT"
  | .struct => "STRUCT"
  | .array => "ARRAY"
  | .blob => "BLOB"
  | .clob => "CLOB"
  | .ref => "REF"
  | .dataLink => "DATALINK"
  | .boolean => "BOOLEAN"
  | .rowId => "ROWID"
  | .nchar => "NCHAR"
  | .nvarchar => "NVARCHAR"
  | .longNvarchar => "LONGNVARCHAR"
  | .nclob => "NCLOB"
  | .sqlXml => "SQLXML"
  | .refCursor => "REF_CURSOR"
  | .timeWithTimeZone => "TIME WITH TIME ZONE"
  | .timestampWithTimeZone => "TIMESTAMP WITH TIME ZONE"
  | .intervalYear => "INTERVAL YEAR"
  | .intervalMonth => "INTERVAL MONTH"
  | .intervalDay => "INTERVAL DAY"
  | .intervalHour => "INTERVAL HOUR"
  | .intervalMinute => "INTERVAL MINUTE"
  | .intervalSecond => "INTERVAL SECOND"
  | .intervalYearToMonth => "INTERVAL YEAR TO MONTH"
  | .intervalDayToHour => "INTERVAL DAY TO HOUR"
  | .intervalDayToMinute => "INTERVAL DAY TO MINUTE"
  | .intervalDayToSecond => "INTERVAL DAY TO SECOND"
  | .intervalHourToMinute => "INTERVAL HOUR TO MINUTE"
  | .intervalHourToSecond => "INTERVAL HOUR TO SECOND"
  | .intervalMinuteToSecond => "INTERVAL MINUTE TO SECOND"

/-- The name of a type as one word, for diagnostics. -/
def identifier : SqlType → String
  | .bit => "Bit"
  | .tinyInt => "TinyInt"
  | .smallInt => "SmallInt"
  | .integer => "Integer"
  | .bigInt => "BigInt"
  | .float => "Float"
  | .real => "Real"
  | .double => "Double"
  | .numeric => "Numeric"
  | .decimal => "Decimal"
  | .char => "Char"
  | .varChar => "VarChar"
  | .longVarChar => "LongVarChar"
  | .date => "Date"
  | .time => "Time"
  | .timestamp => "Timestamp"
  | .binary => "Binary"
  | .varBinary => "VarBinary"
  | .longVarBinary => "LongVarBinary"
  | .null => "Null"
  | .other => "Other"
  | .javaObject => "JavaObject"
  | .distinct => "Distinct"
  | .struct => "Struct"
  | .array => "Array"
  | .blob => "Blob"
  | .clob => "Clob"
  | .ref => "Ref"
  | .dataLink => "DataLink"
  | .boolean => "Boolean"
  | .rowId => "RowId"
  | .nchar => "NChar"
  | .nvarchar => "NVarChar"
  | .longNvarchar => "LongNVarChar"
  | .nclob => "NClob"
  | .sqlXml => "SqlXml"
  | .refCursor => "RefCursor"
  | .timeWithTimeZone => "TimeWithTimeZone"
  | .timestampWithTimeZone => "TimestampWithTimeZone"
  | .intervalYear => "IntervalYear"
  | .intervalMonth => "IntervalMonth"
  | .intervalDay => "IntervalDay"
  | .intervalHour => "IntervalHour"
  | .intervalMinute => "IntervalMinute"
  | .intervalSecond => "IntervalSecond"
  | .intervalYearToMonth => "IntervalYearToMonth"
  | .intervalDayToHour => "IntervalDayToHour"
  | .intervalDayToMinute => "IntervalDayToMinute"
  | .intervalDayToSecond => "IntervalDayToSecond"
  | .intervalHourToMinute => "IntervalHourToMinute"
  | .intervalHourToSecond => "IntervalHourToSecond"
  | .intervalMinuteToSecond => "IntervalMinuteToSecond"

theorem mem_all (t : SqlType) : t ∈ all := by
  cases t <;> decide

/-! ## Families -/

/-- Exact integers. -/
def isIntegral : SqlType → Bool
  | .tinyInt | .smallInt | .integer | .bigInt => true
  | _ => false

/-- Numbers, exact and approximate. -/
def isNumeric (t : SqlType) : Bool :=
  t.isIntegral || match t with
    | .float | .real | .double | .numeric | .decimal => true
    | _ => false

/-- Character strings, national ones included. -/
def isCharacter : SqlType → Bool
  | .char | .varChar | .longVarChar | .nchar | .nvarchar | .longNvarchar => true
  | _ => false

/-- Binary strings. -/
def isBinary : SqlType → Bool
  | .binary | .varBinary | .longVarBinary => true
  | _ => false

/-- Dates, times and timestamps. -/
def isDatetime : SqlType → Bool
  | .date | .time | .timestamp | .timeWithTimeZone | .timestampWithTimeZone => true
  | _ => false

/-- Intervals that count months. -/
def isYearMonthInterval : SqlType → Bool
  | .intervalYear | .intervalMonth | .intervalYearToMonth => true
  | _ => false

/-- Intervals that count seconds. -/
def isDayTimeInterval : SqlType → Bool
  | .intervalDay | .intervalHour | .intervalMinute | .intervalSecond
  | .intervalDayToHour | .intervalDayToMinute | .intervalDayToSecond
  | .intervalHourToMinute | .intervalHourToSecond | .intervalMinuteToSecond => true
  | _ => false

/-- Intervals of either family. -/
def isInterval (t : SqlType) : Bool :=
  t.isYearMonthInterval || t.isDayTimeInterval

/-- Large objects. -/
def isLob : SqlType → Bool
  | .blob | .clob | .nclob => true
  | _ => false

/-- Types that values can neither be read nor written as. -/
def isUnsupported : SqlType → Bool
  | .ref | .dataLink | .rowId | .sqlXml => true
  | _ => false

end SqlType

end SqlAccess
