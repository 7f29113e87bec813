import SqlAccess.Text.Digits

/-!
# Catalog queries

A catalog query selects from one of the engine's catalog views. It is a start that ends in a WHERE
clause, and clauses that narrow or order its rows. A clause without a value has no effect, and an
empty name asks for rows that have none. Values stand in literals, in which a quote is doubled.
-/

namespace SqlAccess

open SqlAccess.Text

/-! ## Literals -/

/-- A text with each quote written twice. -/
def doubledQuotes (s : List Char) : List Char :=
  s.flatMap fun c => if c = '\'' then ['\'', '\''] else [c]

/-- The SQL literal of a text. -/
def literal (s : List Char) : List Char :=
  '\'' :: doubledQuotes s ++ ['\'']

/-- The SQL literal of a text. -/
def quote (s : String) : String :=
  String.ofList (literal s.toList)

/-! ## Patterns -/

/-- A text holds a wildcard of LIKE. -/
def hasWildcard (s : List Char) : Bool :=
  s.any fun c => c == '%' || c == '_'

/-- A text holds a wildcard after a backslash. -/
def hasEscapedWildcard : List Char → Bool
  | [] => false
  | c :: rest =>
    (c == '\\' && (rest.head? == some '%' || rest.head? == some '_')) || hasEscapedWildcard rest

theorem hasWildcard_of_escaped {s : List Char} (h : hasEscapedWildcard s = true) :
    hasWildcard s = true := by
  induction s with
  | nil => cases h
  | cons c rest ih =>
    simp only [hasEscapedWildcard, Bool.or_eq_true, Bool.and_eq_true] at h
    simp only [hasWildcard, List.any_cons, Bool.or_eq_true]
    rcases h with ⟨-, hw⟩ | hr
    · right
      cases rest with
      | nil => simp at hw
      | cons d rest =>
        simp only [List.head?_cons] at hw
        simp only [List.any_cons, Bool.or_eq_true]
        left
        simpa using hw
    · right
      exact ih hr

/-! ## Clauses -/

/-- A part of a catalog query after its start. -/
inductive Clause
  /-- The column has this name. -/
  | equals (column : String) (name : Option String)
  /-- The column matches this pattern. -/
  | like (column : String) (pattern : Option String)
  | equalsInt (column : String) (n : Option Int)
  | equalsBool (column : String) (b : Option Bool)
  /-- The column has one of these names. -/
  | oneOf (column : String) (names : Option (List String))
  | oneOfInts (column : String) (ns : Option (List Int))
  | orderBy (columns : List String)
deriving DecidableEq

namespace Clause

/-- A condition on a column. -/
def condition (column : String) (operator : String) (operand : List Char) : List Char :=
  " AND ".toList ++ column.toList ++ ' ' :: operator.toList ++ ' ' :: operand

/-- The condition that a column has a name. -/
def nameCondition (column : String) (name : List Char) : List Char :=
  if name.isEmpty then condition column "IS" "NULL".toList
  else condition column "=" (literal name)

/-- The condition that a column matches a pattern. Without wildcards it is a name; the escape
character is declared only where it is used. -/
def patternCondition (column : String) (pattern : List Char) : List Char :=
  if hasWildcard pattern then
    condition column "LIKE" (literal pattern) ++
      if hasEscapedWildcard pattern then " ESCAPE '\\'".toList else []
  else nameCondition column pattern

/-- The condition that a column is one of some operands; of none, there is no such column. -/
def memberCondition (column : String) (operands : List (List Char)) : List Char :=
  if operands.isEmpty then " AND FALSE".toList
  else condition column "IN" ('(' :: [','].intercalate operands ++ [')'])

/-- The text of a clause. -/
def chars : Clause → List Char
  | equals column (some name) => nameCondition column name.toList
  | like column (some pattern) => patternCondition column pattern.toList
  | equalsInt column (some n) => condition column "=" (intDigits n)
  | equalsBool column (some b) => condition column "=" (if b then "TRUE" else "FALSE").toList
  | oneOf column (some names) => memberCondition column (names.map fun s => literal s.toList)
  | oneOfInts column (some ns) => memberCondition column (ns.map intDigits)
  | orderBy (c :: cs) =>
    " ORDER BY ".toList ++ ", ".toList.intercalate ((c :: cs).map String.toList)
  | _ => []

end Clause

/-- A query on the engine's catalog. -/
structure CatalogQuery where
  /-- A text that ends in a WHERE clause. -/
  start : String
  clauses : List Clause

namespace CatalogQuery

/-- The schema of the catalog views. -/
def informationSchema : String := "INFORMATION_SCHEMA"

/-- A query for some columns of a view. -/
def select (columns view : String) (clauses : List Clause) : CatalogQuery :=
  ⟨s!"SELECT {columns} FROM {informationSchema}.{view} WHERE TRUE", clauses⟩

/-- A query for all columns of a view. -/
def ofView (view : String) (clauses : List Clause) : CatalogQuery :=
  select "*" view clauses

/-- The text of a query. -/
def text (q : CatalogQuery) : String :=
  q.start ++ String.ofList (q.clauses.flatMap Clause.chars)

theorem text_append (start : String) (a b : List Clause) :
    (CatalogQuery.mk start (a ++ b)).text =
      (CatalogQuery.mk start a).text ++ String.ofList (b.flatMap Clause.chars) := by
  simp [text, String.append_assoc]

end CatalogQuery

end SqlAccess
