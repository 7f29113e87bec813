import SqlAccess.Value.Conversion

/-!
# Arguments of setters

A client sets a parameter to a value, to NULL, to a value that is converted to some type first, or
to a local time in some zone. `Argument.value?` takes an argument to the value that is then coerced
to the declared type of the parameter.
-/

namespace SqlAccess

open SqlAccess.Calendar

/-- What a client sets a parameter to. -/
inductive Argument
  | value (v : Value)
  /-- NULL; the type that the client gives has no effect. -/
  | null (type : SqlType)
  /-- A value that is coerced to a type of the client's before the declared one. -/
  | typed (v : Value) (type : SqlType)
  /-- A timestamp that clocks in a zone show. -/
  | localTime (ts : Timestamp) (zone : Offset)
  /-- A kind of value that no parameter takes. -/
  | unsupported (feature : String)

namespace Argument

/-- The instant that clocks in a zone show as a timestamp. -/
def instant (ts : Timestamp) (zone : Offset) : Except Error ZonedTimestamp :=
  match ZonedTimestamp.ofLocal? ts zone with
  | some z => .ok z
  | none =>
    .error (.invalidArgument
      s!"{String.ofList ts.text} is not a valid time in {String.ofList zone.text}")

/-- The value that an argument stands for, in the zone of the statement. -/
def given (zone : Offset) : Argument → Except Error Value
  | value v => .ok v
  | null _ => .ok .null
  | typed v type => coerceForParameter v type zone
  | localTime ts zone => do return .timestampTz (← instant ts zone)
  | unsupported feature => .error (.featureNotSupported feature)

/-- The argument is looked at even if the statement is closed. -/
def isEager : Argument → Bool
  | localTime .. => true
  | _ => false

end Argument

end SqlAccess
