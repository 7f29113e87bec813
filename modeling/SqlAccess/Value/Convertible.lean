import SqlAccess.SqlType

/-!
# Which types convert

The table of conversions between SQL types that the metadata announces. It is stated on types
alone; whether a conversion of a value succeeds is decided in `SqlAccess.Value.Conversion`.
-/

namespace SqlAccess.SqlType

/-- Numbers and truth values, which convert among each other. -/
def isNumberLike (t : SqlType) : Bool :=
  t.isNumeric || t == .bit || t == .boolean

/-- Types that a character string converts to. -/
def isReadFromText (t : SqlType) : Bool :=
  t.isNumberLike || t.isCharacter || t.isBinary || t.isDatetime || t.isInterval
    || t == .clob || t == .nclob

/-- Conversions between two types of which neither is a number or a character string. -/
def convertsWithinFamily (source target : SqlType) : Bool :=
  if source.isBinary || source == .blob then target.isBinary || target == .blob
  else
    match source with
    | .clob | .nclob => target == .clob || target == .nclob
    | .date => target == .timestamp || target == .timestampWithTimeZone
    | .time => target == .timestamp || target == .timeWithTimeZone
    | .timeWithTimeZone => target == .time || target == .timestamp
    | .timestamp | .timestampWithTimeZone => target.isDatetime
    | _ =>
      if source.isYearMonthInterval then target.isYearMonthInterval
      else source.isDayTimeInterval && target.isDayTimeInterval

/-- Values of type `source` can be converted to type `target`. -/
def isConvertible (source target : SqlType) : Bool :=
  if source.isUnsupported || target.isUnsupported then false
  else if source == target || source == .null then true
  else if source.isNumberLike && (target.isNumberLike || target.isCharacter) then true
  else if source.isCharacter then target.isReadFromText
  else if target.isCharacter then source != .blob && source != .array
  else convertsWithinFamily source target

end SqlAccess.SqlType
