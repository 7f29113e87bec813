import SqlAccess.Connection
import SqlAccess.Metadata.NullOrdering
import SqlAccess.Text.Digits

/-!
# Live facts

Facts about the database that can change are asked from the engine each time: its version, the
user, the schema and catalog that unqualified names are in, and how it treats NULL. Most are the
one value of a query.
-/

namespace SqlAccess.Metadata

open SqlAccess.Text

/-- Runs a query on the catalog. Its result set can be scrolled and closes with its statement. -/
def rows (sql : String) : Action ResultSet := do
  let rs ← Connection.queryNative sql .insensitive
  return { rs with closeOnCompletion := true }

/-- The first column of the first row, or NULL if there is no row. -/
def firstValue (rs : ResultSet) : Except Error Value := do
  let (onRow, rs) ← rs.move .next
  if onRow then (rs.get (.ordinal 1) .object).1 else return .null

/-- The one value of a query. -/
def scalar (sql : String) : Action Value := do
  let rs ← rows sql
  MonadExcept.ofExcept (firstValue rs)

/-- The text of the one value of a query, unless that is NULL. -/
def scalarText (sql : String) : Action (Option String) := do
  let v ← scalar sql
  return if v.isNull then none else some v.text

/-! ## Version -/

/-- The groups of digits in a text. -/
def digitGroups (s : List Char) : List (List Char) :=
  (s.splitOnP fun c => !c.isDigit).filter (· ≠ [])

/-- A part of a version, counted from 0, if it is there and fits 32 bits. -/
def versionPart (version : String) (index : Nat) : Nat :=
  match (digitGroups version.toList)[index]?.bind natOfDigits? with
  | some n => if n < 2147483648 then n else 0
  | none => 0

/-- The version of the engine. -/
def productVersion : Action String := do
  return (← scalarText "CALL DATABASE_VERSION()").getD ""

/-- The first part of the version. -/
def majorVersion : Action Nat := do
  return versionPart (← productVersion) 0

/-- The second part of the version. -/
def minorVersion : Action Nat := do
  return versionPart (← productVersion) 1

/-! ## Session -/

/-- The name of the user. -/
def userName : Action String := do
  return (← scalarText "CALL USER()").getD ""

/-- The database cannot be changed. -/
def isReadOnly : Action Bool := do
  match ← scalar "CALL IS_READONLY_DATABASE()" with
  | .boolean b => return b
  | .null => return false
  | v => throw (.protocol s!"IS_READONLY_DATABASE returned {v.text}")

/-- The schema of the session. -/
def defaultSchema : Action (Option String) :=
  scalarText "SELECT SCHEMA_NAME FROM INFORMATION_SCHEMA.SYSTEM_SCHEMAS WHERE IS_DEFAULT=TRUE"

/-- The catalog of the database. -/
def defaultCatalog : Action (Option String) :=
  scalarText "SELECT CATALOG_NAME FROM INFORMATION_SCHEMA.INFORMATION_SCHEMA_CATALOG_NAME"

/-! ## NULL -/

/-- The query for the properties that concern NULL. -/
def nullOrderingQuery : String :=
  "SELECT PROPERTY_NAME, PROPERTY_VALUE " ++
  "FROM INFORMATION_SCHEMA.SYSTEM_PROPERTIES " ++
  "WHERE PROPERTY_NAME IN ('sql.concat_nulls', 'sql.nulls_first', 'sql.nulls_order')"

/-- The name and the value of a property on the current row; NULL reads as an empty text. -/
def property (rs : ResultSet) : Except Error (String × String) := do
  let name ← rs.read (.ordinal 1) .string
  let value ← rs.read (.ordinal 2) .string
  return (name.getD "", value.getD "")

/-- How the engine treats NULL. -/
def nullOrdering : Action NullOrdering := do
  let rs ← rows nullOrderingQuery
  return .ofProperties (← MonadExcept.ofExcept (rs.mapRows property))

end SqlAccess.Metadata
