import SqlAccess.SqlType

/-!
# Errors

Every failure is one of these causes. A cause has a message, an engine error code and an SQLSTATE,
and most belong to one of three classes: wrong arguments, wrong state, failed conversions.
-/

namespace SqlAccess

/-- Why an operation failed. -/
inductive Error
  /-- A parameter ordinal outside 1 to the number of parameters. -/
  | invalidParameterIndex (index count : Nat)
  /-- No parameter with this name, exact or upper-cased. -/
  | parameterNotFound (name : String)
  /-- A column ordinal outside 1 to the number of columns. -/
  | invalidColumnIndex (index count : Nat)
  /-- No column with this label. -/
  | columnNotFound (label : String)
  /-- An input parameter that was not bound before execution. -/
  | parameterNotSet (ordinal : Nat)
  /-- An argument value that makes no sense. -/
  | invalidArgument (reason : String)
  /-- A required argument that is missing. -/
  | nullArgument (what : String)
  /-- A connection URL or property that cannot be read. -/
  | invalidConnectionString (reason : String)
  | statementClosed
  | resultSetClosed
  | connectionClosed
  /-- The cursor is not on a row. -/
  | noCurrentRow (reason : String)
  /-- A value of one SQL type that cannot be read as another. -/
  | dataConversion (source : SqlType) (target value : String)
  /-- A number that does not fit its type. -/
  | numericOutOfRange (target : SqlType) (value : String)
  /-- A text that is no literal of its type. -/
  | invalidFormat (target : SqlType) (value : String)
  | featureNotSupported (feature : String)
  /-- A query that produced no result set. -/
  | noResultSet
  /-- An update that produced a result set. -/
  | unexpectedResultSet
  /-- An error reported by the engine. -/
  | engine (code : Int) (sqlState message : String)
  /-- An engine response that breaks the protocol. -/
  | protocol (reason : String)
  | internal (reason : String)
deriving DecidableEq, Inhabited

namespace Error

/-- The name of a cause, without what it is about. -/
def cause : Error → String
  | invalidParameterIndex .. => "InvalidParameterIndex"
  | parameterNotFound _ => "ParameterNotFound"
  | invalidColumnIndex .. => "InvalidColumnIndex"
  | columnNotFound _ => "ColumnNotFound"
  | parameterNotSet _ => "ParameterNotSet"
  | invalidArgument _ => "InvalidArgument"
  | nullArgument _ => "NullArgument"
  | invalidConnectionString _ => "InvalidConnectionString"
  | statementClosed => "StatementClosed"
  | resultSetClosed => "ResultSetClosed"
  | connectionClosed => "ConnectionClosed"
  | noCurrentRow _ => "NoCurrentRow"
  | dataConversion .. => "DataConversion"
  | numericOutOfRange .. => "NumericOutOfRange"
  | invalidFormat .. => "InvalidFormat"
  | featureNotSupported _ => "FeatureNotSupported"
  | noResultSet => "NoResultSet"
  | unexpectedResultSet => "UnexpectedResultSet"
  | engine .. => "Engine"
  | protocol _ => "Protocol"
  | internal _ => "Internal"

/-- The text shown to the user. -/
def message : Error → String
  | invalidParameterIndex index count =>
    s!"parameter index out of range: {index} (statement has {count} parameters)"
  | parameterNotFound name => s!"parameter not found: {name}"
  | invalidColumnIndex index count =>
    s!"column index out of range: {index} (result has {count} columns)"
  | columnNotFound label => s!"column not found: {label}"
  | parameterNotSet ordinal => s!"parameter not set: {ordinal}"
  | invalidArgument reason => s!"invalid argument: {reason}"
  | nullArgument what => s!"null argument: {what}"
  | invalidConnectionString reason => s!"invalid connection string: {reason}"
  | statementClosed => "statement is closed"
  | resultSetClosed => "result set is closed"
  | connectionClosed => "connection is closed"
  | noCurrentRow reason => s!"invalid cursor state: {reason}"
  | dataConversion source target value =>
    s!"incompatible data type in conversion: from SQL type {source.name} to {target}, value: {value}"
  | numericOutOfRange target value =>
    s!"numeric value out of range for {target.name}: {value}"
  | invalidFormat target value => s!"invalid {target.name} format: {value}"
  | featureNotSupported feature => s!"feature not supported: {feature}"
  | noResultSet => "statement does not generate a result set"
  | unexpectedResultSet => "statement generates a result set"
  | engine code sqlState message => s!"{sqlState} ({code}): {message}"
  | protocol reason => s!"protocol error: {reason}"
  | internal reason => s!"internal error: {reason}"

/-- The engine's number for the cause. -/
def code : Error → Int
  | invalidParameterIndex .. | invalidColumnIndex .. => 426
  | parameterNotFound _ | columnNotFound _ => 421
  | parameterNotSet _ => 422
  | invalidArgument _ => 423
  | nullArgument _ => 424
  | invalidConnectionString _ => 1302
  | statementClosed => 1251
  | resultSetClosed => 1252
  | connectionClosed => 1303
  | noCurrentRow _ => 1253
  | dataConversion .. => 3438
  | numericOutOfRange .. => 3401
  | invalidFormat .. => 3407
  | featureNotSupported _ => 1500
  | noResultSet | unexpectedResultSet => 1255
  | engine code _ _ => code
  | protocol _ => 1352
  | internal _ => 458

/-- The SQLSTATE of the cause. -/
def sqlState : Error → String
  | invalidParameterIndex .. | invalidColumnIndex .. => "07009"
  | parameterNotFound _ | columnNotFound _ => "42S22"
  | parameterNotSet _ => "07001"
  | invalidArgument _ => "HY024"
  | nullArgument _ => "HY009"
  | invalidConnectionString _ => "08001"
  | statementClosed | resultSetClosed => "HY010"
  | connectionClosed => "08003"
  | noCurrentRow _ => "24000"
  | dataConversion .. => "22018"
  | numericOutOfRange .. => "22003"
  | invalidFormat .. => "22007"
  | featureNotSupported _ => "0A000"
  | noResultSet | unexpectedResultSet => "07503"
  | engine _ sqlState _ => sqlState
  | protocol _ => "08P01"
  | internal _ => "HY000"

/-- A wrong index, name or value. -/
def isArgument : Error → Bool
  | invalidParameterIndex .. | parameterNotFound _ | invalidColumnIndex .. | columnNotFound _
  | parameterNotSet _ | invalidArgument _ | nullArgument _ => true
  | _ => false

/-- A closed object, or a cursor that is on no row. -/
def isState : Error → Bool
  | statementClosed | resultSetClosed | connectionClosed | noCurrentRow _ => true
  | _ => false

/-- A value that cannot be converted. -/
def isConversion : Error → Bool
  | dataConversion .. | numericOutOfRange .. | invalidFormat .. => true
  | _ => false

end Error

/-- The SQL type with this code. -/
def SqlType.ofCode (code : Int) : Except Error SqlType :=
  match ofCode? code with
  | some t => .ok t
  | none => .error (.invalidArgument s!"unknown SQL type code: {code}")

end SqlAccess
