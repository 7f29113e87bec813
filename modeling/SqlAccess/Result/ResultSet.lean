import SqlAccess.Result.Kind
import SqlAccess.Result.RowSet
import SqlAccess.Value.Getter

/-!
# Result sets

A result set holds all its rows and a cursor. The cursor is before the first row, on a row, or
after the last one, so with `n` rows its position runs from 0 to `n + 1`. Every move takes it to a
position that depends on the move, on the number of rows and on where it was
(`Move.destination`), and stays in that range (`destination_le`).
-/

namespace SqlAccess

open SqlAccess.Calendar

/-- A way to move a cursor. -/
inductive Move
  | next
  | previous
  | first
  | last
  | beforeFirst
  | afterLast
  /-- To a row counted from the first, or from the end if it is negative. -/
  | absolute (row : Int64)
  /-- By a number of rows, backward if it is negative. -/
  | relative (rows : Int64)
deriving DecidableEq

namespace Move

/-- The position nearest to a place among `n` rows. -/
def nearest (n : Nat) (place : Int) : Nat :=
  min place.toNat (n + 1)

/-- The position of a row among `n`, counted back from the end if it is negative. -/
def ofRow (n : Nat) (row : Int) : Nat :=
  nearest n (if row < 0 then n + 1 + row else row)

/-- Where a move takes the cursor from position `p` among `n` rows. The place that a relative move
goes to is a 64-bit integer, and wraps like one (see `overflows`). -/
def destination (n p : Nat) : Move → Nat
  | next => min (p + 1) (n + 1)
  | previous => p - 1
  | first => ofRow n 1
  | last => ofRow n (-1)
  | beforeFirst => 0
  | afterLast => n + 1
  | absolute row => ofRow n row.toInt
  | relative rows => nearest n (Int64.ofInt (p + rows.toInt)).toInt

/-- The place that a relative move from position `p` goes to is no 64-bit integer. A program that
checks its arithmetic stops there, and one that does not goes on with the integer that it wraps
to. -/
def overflows (p : Nat) : Move → Bool
  | relative rows =>
    p + rows.toInt < -9223372036854775808 || 9223372036854775807 < p + rows.toInt
  | _ => false

/-- Only the move to the next row is open to a cursor that cannot scroll. -/
def needsScrolling : Move → Bool
  | next => false
  | _ => true

end Move

/-- Addresses a column. -/
inductive ColumnRef
  /-- By its place, from 1. -/
  | ordinal (n : Nat)
  | label (s : String)
deriving DecidableEq

/-- A row set with a cursor. -/
structure ResultSet where
  columns : List Column
  rows : List Row
  position : Nat
  scrolling : Scrolling
  /-- Closing it ends the statement it came from. -/
  closeOnCompletion : Bool
  /-- The zone of date-times that have none. -/
  zone : Offset
  /-- The value read last was NULL. -/
  wasNull : Bool
  closed : Bool
deriving Inhabited

namespace ResultSet

/-- A result set before its first row. -/
def ofRowSet (r : RowSet) (zone : Offset) (scrolling : Scrolling) : ResultSet :=
  { columns := r.columns
    rows := r.rows
    position := 0
    scrolling := scrolling.served
    closeOnCompletion := false
    zone := zone
    wasNull := false
    closed := false }

/-- Fails once the result set is closed. -/
def requireOpen (rs : ResultSet) : Except Error Unit :=
  if rs.closed then .error .resultSetClosed else .ok ()

/-! ## Cursor -/

/-- The cursor is on a row. -/
def onRow (rs : ResultSet) : Bool :=
  1 ≤ rs.position && rs.position ≤ rs.rows.length

/-- Moves the cursor, and tells whether it is on a row then. -/
def move (rs : ResultSet) (m : Move) : Except Error (Bool × ResultSet) := do
  rs.requireOpen
  if m.needsScrolling && rs.scrolling == .forwardOnly then
    throw (.invalidArgument "result set is forward only")
  let moved := { rs with position := m.destination rs.rows.length rs.position }
  return (moved.onRow, moved)

/-- The cursor is moved, and the move overflows. -/
def overflows (rs : ResultSet) (m : Move) : Bool :=
  !rs.closed && rs.scrolling != .forwardOnly && m.overflows rs.position

/-- The number of the row that the cursor is on, or 0. -/
def row (rs : ResultSet) : Except Error Nat := do
  rs.requireOpen
  return if rs.onRow then rs.position else 0

/-- The cursor is before the first of some rows. -/
def isBeforeFirst (rs : ResultSet) : Except Error Bool := do
  rs.requireOpen
  return !rs.rows.isEmpty && rs.position == 0

/-- The cursor is after the last of some rows. -/
def isAfterLast (rs : ResultSet) : Except Error Bool := do
  rs.requireOpen
  return !rs.rows.isEmpty && rs.position == rs.rows.length + 1

/-- The cursor is on the first row. -/
def isFirst (rs : ResultSet) : Except Error Bool := do
  rs.requireOpen
  return rs.onRow && rs.position == 1

/-- The cursor is on the last row. -/
def isLast (rs : ResultSet) : Except Error Bool := do
  rs.requireOpen
  return rs.onRow && rs.position == rs.rows.length

/-! ## Values -/

/-- The ordinal of the first column with this label. -/
def findColumn (rs : ResultSet) (label : String) : Except Error Nat := do
  rs.requireOpen
  match rs.columns.findIdx? (Column.hasLabel label) with
  | some n => return n + 1
  | none => throw (.columnNotFound label)

/-- The index and the column with this ordinal. -/
def columnAt (rs : ResultSet) (n : Nat) : Except Error (Nat × Column) :=
  if n = 0 then .error (.invalidColumnIndex n rs.columns.length)
  else
    match rs.columns[n - 1]? with
    | some c => .ok (n - 1, c)
    | none => .error (.invalidColumnIndex n rs.columns.length)

/-- The index and the column that are meant. A label is taken to its ordinal first. -/
def resolve (rs : ResultSet) : ColumnRef → Except Error (Nat × Column)
  | .ordinal n => rs.columnAt n
  | .label s => do rs.columnAt (← rs.findColumn s)

/-- The row that the cursor is on. -/
def currentRow (rs : ResultSet) : Except Error Row :=
  match rs.position with
  | 0 => .error (.noCurrentRow "not positioned on a row")
  | p + 1 =>
    match rs.rows[p]? with
    | some row => .ok row
    | none => .error (.noCurrentRow "not positioned on a row")

/-- The value of a column on the current row, and the type of the column. -/
def fetch (rs : ResultSet) (ref : ColumnRef) : Except Error (Value × SqlType) := do
  rs.requireOpen
  let (index, column) ← rs.resolve ref
  let row ← rs.currentRow
  match row[index]? with
  | some v => return (v, column.type)
  | none => throw (.protocol s!"row has no value for column {index + 1}")

/-- Reads a column of the current row. Every value that is fetched is noted as NULL or not, even
if the getter then fails on it. A getter that is not supported does not look at the column. -/
def get (rs : ResultSet) (ref : ColumnRef) : Getter → Except Error Value × ResultSet
  | .unsupported feature => (rs.requireOpen >>= fun _ => .error (.featureNotSupported feature), rs)
  | g =>
    match rs.fetch ref with
    | .ok (v, type) => (g.answer v type rs.zone, { rs with wasNull := v.isNull })
    | .error e => (.error e, rs)

/-- The value read last was NULL. -/
def lastWasNull (rs : ResultSet) : Except Error Bool := do
  rs.requireOpen
  return rs.wasNull

/-- Reads a column of the current row into the carrier of a target. -/
def read (rs : ResultSet) (ref : ColumnRef) (target : TargetType) :
    Except Error (Option target.Carrier) := do
  let (v, type) ← rs.fetch ref
  extract v type target rs.zone

/-- What a reader finds on each row from the first to the last. -/
def mapRows {α : Type} (rs : ResultSet) (f : ResultSet → Except Error α) :
    Except Error (List α) :=
  (List.range rs.rows.length).mapM fun p => f { rs with position := p + 1 }

/-- Gives up the rows for good. -/
def close (rs : ResultSet) : ResultSet :=
  { rs with rows := [], position := 0, closed := true }

end ResultSet

end SqlAccess
