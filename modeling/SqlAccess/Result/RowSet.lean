import SqlAccess.Text.Uppercase
import SqlAccess.Value

/-!
# Results of an execution

An execution produces a chain of results in the engine's order. Each is a row set or the number of
rows that were changed. The columns of a row set are found by label in any ASCII case.
-/

namespace SqlAccess

open SqlAccess.Text

/-- A column of a row set. -/
structure Column where
  label : String
  type : SqlType
  precision : Nat
  scale : Nat
  nullable : Bool
  /-- The engine's own name of the type. -/
  engineType : Option String
deriving DecidableEq, Inhabited

namespace Column

/-- A column of which only label and type are known. -/
def described (label : String) (type : SqlType) : Column :=
  { label := label
    type := type
    precision := 0
    scale := 0
    nullable := true
    engineType := none }

/-- The column holds large objects. -/
def isLob (c : Column) : Bool :=
  c.type.isLob

/-- The column has this label, up to ASCII case. -/
def hasLabel (label : String) (c : Column) : Bool :=
  equalIgnoringCase c.label.toList label.toList

end Column

/-- The values of one row, which need not match the columns in number. -/
abbrev Row := List Value

/-- Rows and what is known of their columns. -/
structure RowSet where
  columns : List Column
  rows : List Row
deriving Inhabited

namespace RowSet

/-- No columns and no rows. -/
def empty : RowSet := ⟨[], []⟩

/-- The first column with this label. -/
def column? (r : RowSet) (label : String) : Option Column :=
  r.columns.find? (Column.hasLabel label)

end RowSet

/-- One result of an execution. -/
inductive ResultItem
  | rows (r : RowSet)
  | updateCount (n : Nat)
deriving Inhabited

namespace ResultItem

/-- The result is a row set. -/
def isRows : ResultItem → Bool
  | rows _ => true
  | updateCount _ => false

end ResultItem

/-- Results in the order of the engine, the next one first. -/
abbrev ResultChain := List ResultItem

namespace ResultChain

/-- Adds a result at the end. -/
def push (c : ResultChain) (item : ResultItem) : ResultChain :=
  c ++ [item]

/-- Takes the next result. -/
def pop : ResultChain → Option ResultItem × ResultChain
  | [] => (none, [])
  | item :: rest => (some item, rest)

end ResultChain

end SqlAccess
