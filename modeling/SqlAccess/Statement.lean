import SqlAccess.Statement.Escape
import SqlAccess.Text.Alphanumeric
import SqlAccess.Text.Uppercase

/-!
# Statements

A statement is its client text with what the client learns from it: the native text, the number
of parameter markers, and the kind of statement, which is told from its first word.
-/

namespace SqlAccess

open SqlAccess.Text

/-- What a statement does. -/
inductive StatementKind
  | other | query | dml | ddl | call
deriving DecidableEq, Inhabited

namespace StatementKind

/-- The name of a kind as one word. -/
def identifier : StatementKind → String
  | other => "Other"
  | query => "Query"
  | dml => "Dml"
  | ddl => "Ddl"
  | call => "Call"

/-- The kind with this name. -/
def ofIdentifier? (s : String) : Option StatementKind :=
  [other, query, dml, ddl, call].find? fun k => k.identifier == s

/-- The first word of a statement, after blanks and parentheses, in upper case. -/
def firstWord (sql : List Char) : List Char :=
  let start := sql.dropWhile fun c => isBlank c || c == '('
  toUpper (start.takeWhile fun c => isAlphanumeric c || c == '_')

/-- The kind of statement that a first word introduces. -/
def ofWord (word : String) : StatementKind :=
  if word ∈ ["SELECT", "WITH", "VALUES", "TABLE"] then query
  else if word ∈ ["INSERT", "UPDATE", "DELETE", "MERGE", "TRUNCATE"] then dml
  else if word ∈ ["CREATE", "ALTER", "DROP", "GRANT", "REVOKE", "COMMENT"] then ddl
  else if word = "CALL" then call
  else other

/-- The kind of a statement. -/
def ofChars (sql : List Char) : StatementKind :=
  ofWord (String.ofList (firstWord sql))

end StatementKind

/-- A statement and what its text tells. -/
structure Statement where
  sql : String
  native : String
  kind : StatementKind
  markers : Nat
deriving DecidableEq, Inhabited

namespace Statement

/-- The native text of a client text. -/
def nativeSql (sql : String) : String :=
  String.ofList (Escape.nativeChars (Escape.pieces sql.toList))

/-- The statement of a client text. -/
def ofSql (sql : String) : Statement :=
  let pieces := Escape.pieces sql.toList
  let native := Escape.nativeChars pieces
  { sql := sql
    native := String.ofList native
    kind := .ofChars native
    markers := Escape.markerCount pieces }

end Statement

end SqlAccess
