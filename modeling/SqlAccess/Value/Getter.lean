import SqlAccess.Value.Reading

/-!
# Getters

Result columns and output parameters are read in the same ways. A getter says what a client asks
for: a target whose NULL is told apart, a number or truth value for which NULL reads as zero, a
value in another zone, or the value as it is. Its answer is a value again.
-/

namespace SqlAccess

open SqlAccess.Number SqlAccess.Calendar

/-- What a client asks of a stored value. -/
inductive Getter
  /-- A carrier of the target, or nothing for NULL. -/
  | optional (target : TargetType)
  /-- A carrier of the target, or zero for NULL. -/
  | zeroIfNull (target : TargetType)
  /-- A decimal with this many fractional digits. -/
  | rescaled (scale : Nat)
  /-- A date, for which zoned values are taken into a zone. -/
  | dateIn (zone : Offset)
  /-- A time of day as clocks in a zone show it. -/
  | timeIn (zone : Offset)
  /-- An instant, shown in a zone. -/
  | timestampIn (zone : Offset)
  /-- The engine's own representation. -/
  | object
  /-- The value converted to a target. -/
  | converted (target : TargetType)
  /-- A kind of value that no engine value can be read as. -/
  | unsupported (feature : String)
deriving DecidableEq

namespace Getter

/-- The getters without arguments, by the names of what they get. -/
def byName : List (String × Getter) := [
  ("string", optional .string), ("nstring", optional .string),
  ("boolean", zeroIfNull .boolean), ("byte", zeroIfNull .tinyInt),
  ("short", zeroIfNull .smallInt), ("int", zeroIfNull .integer), ("long", zeroIfNull .bigInt),
  ("float", zeroIfNull .real), ("double", zeroIfNull .double),
  ("big_decimal", optional .decimal), ("bytes", optional .bytes), ("date", optional .date),
  ("time", optional .time), ("timestamp", optional .timestamp), ("clob", optional .clob),
  ("nclob", optional .clob), ("blob", optional .blob), ("array", optional .array),
  ("object", object), ("ref", unsupported "REF"), ("url", unsupported "DATALINK"),
  ("row_id", unsupported "ROWID"), ("sqlxml", unsupported "SQLXML")]

/-- What a getter answers for a value of a column or parameter of type `source`. -/
def answer (v : Value) (source : SqlType) (zone : Offset) : Getter → Except Error Value
  | optional target => do return target.wrapOption (← extract v source target zone)
  | zeroIfNull target => do
    match ← extract v source target zone with
    | some a => return target.wrap a
    | none => return target.zero?.getD .null
  | rescaled scale => do
    match ← extract v source .decimal zone with
    | some d => return .decimal (d.rescale scale)
    | none => return .null
  | dateIn zone => do return TargetType.date.wrapOption (← extract v source .date zone)
  | timeIn zone => do
    match ← extract v source .timeTz zone with
    | some t => return .timeTz (t.atOffset zone)
    | none => return .null
  | timestampIn zone => do
    match ← extract v source .timestampTz zone with
    | some z => return .timestampTz (z.atOffset zone)
    | none => return .null
  | object => .ok v
  | converted target => convert v source target zone
  | unsupported feature => .error (.featureNotSupported feature)

end Getter

end SqlAccess
