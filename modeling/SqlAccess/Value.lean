import SqlAccess.Calendar.OffsetTime
import SqlAccess.Interval.DayTime
import SqlAccess.Lob
import SqlAccess.Number.Binary64.Shortest
import SqlAccess.Number.Decimal
import SqlAccess.Text.Hex

/-!
# Values

A value as the engine holds it: NULL, or one of the families of SQL data. Each value belongs
naturally to one SQL type and has one text, the one the engine gives it when it is cast to a
character string. Equality is that of SQL comparison: by number, by instant, and nothing equals
"not a number".
-/

namespace SqlAccess

open SqlAccess.Text SqlAccess.Number SqlAccess.Calendar

/-- A value of the engine. -/
inductive Value
  | null
  | boolean (b : Bool)
  | integer (n : Int64)
  | double (x : Binary64)
  | decimal (d : Decimal)
  | string (s : String)
  | bytes (b : List UInt8)
  | date (d : Date)
  | time (t : TimeOfDay)
  | timeTz (t : OffsetTime)
  | timestamp (ts : Timestamp)
  | timestampTz (z : ZonedTimestamp)
  | yearMonth (i : YearMonth)
  | dayTime (i : DayTime)
  | clob (c : Clob)
  | blob (b : Blob)
  | array (items : List Value)
  /-- An object in the engine's own encoding. -/
  | other (b : List UInt8)
deriving Inhabited

namespace Value

/-- NULL. -/
def isNull : Value → Bool
  | null => true
  | _ => false

/-- The SQL type a value naturally belongs to. -/
def sqlType : Value → SqlType
  | null => .null
  | boolean _ => .boolean
  | integer _ => .bigInt
  | double _ => .double
  | decimal _ => .decimal
  | string _ => .varChar
  | bytes _ => .varBinary
  | date _ => .date
  | time _ => .time
  | timeTz _ => .timeWithTimeZone
  | timestamp _ => .timestamp
  | timestampTz _ => .timestampWithTimeZone
  | yearMonth _ => .intervalYearToMonth
  | dayTime _ => .intervalDayToSecond
  | clob _ => .clob
  | blob _ => .blob
  | array _ => .array
  | other _ => .other

/-- TRUE or FALSE. -/
def booleanText (b : Bool) : List Char :=
  if b then "TRUE".toList else "FALSE".toList

mutual

/-- The text of a value, as a list of characters. -/
def chars : Value → List Char
  | null => "NULL".toList
  | boolean b => booleanText b
  | integer n => intDigits n.toInt
  | double x => x.text
  | decimal d => d.text
  | string s => s.toList
  | bytes b | other b => hexOfBytes b
  | date d => d.text
  | time t => t.text
  | timeTz t => t.text
  | timestamp ts => ts.text
  | timestampTz z => z.text
  | yearMonth i => i.text
  | dayTime i => i.text
  | clob c => if c.freed then "<freed CLOB>".toList else c.units
  | blob b => if b.freed then "<freed BLOB>".toList else hexOfBytes b.units
  | array items => "ARRAY[".toList ++ itemChars items ++ [']']

/-- The texts of array items, joined by commas. -/
def itemChars : List Value → List Char
  | [] => []
  | [v] => v.chars
  | v :: rest => v.chars ++ ',' :: itemChars rest

end

/-- The text of a value. -/
def text (v : Value) : String :=
  String.ofList v.chars

instance : ToString Value := ⟨text⟩

mutual

/-- Equality as SQL compares values. -/
def equal : Value → Value → Bool
  | null, null => true
  | boolean a, boolean b => a == b
  | integer a, integer b => a == b
  | double a, double b => a.equal b
  | decimal a, decimal b => a.equal b
  | string a, string b => a == b
  | bytes a, bytes b => a == b
  | date a, date b => a == b
  | time a, time b => a == b
  | timeTz a, timeTz b => a == b
  | timestamp a, timestamp b => a == b
  | timestampTz a, timestampTz b => a.sameInstant b
  | yearMonth a, yearMonth b => a == b
  | dayTime a, dayTime b => a == b
  | clob a, clob b => a == b
  | blob a, blob b => a == b
  | array a, array b => equalAll a b
  | other a, other b => a == b
  | _, _ => false

/-- Item by item, and none left over. -/
def equalAll : List Value → List Value → Bool
  | [], [] => true
  | a :: as, b :: bs => equal a b && equalAll as bs
  | _, _ => false

end

/-- The order of two intervals of one family; other values have none. -/
def order? : Value → Value → Option Ordering
  | yearMonth a, yearMonth b => some (a.compare b)
  | dayTime a, dayTime b => some (a.compare b)
  | _, _ => none

theorem toList_text (v : Value) : v.text.toList = v.chars := by
  simp [text]

end Value

end SqlAccess
