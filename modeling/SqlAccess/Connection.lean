import SqlAccess.Config
import SqlAccess.Engine
import SqlAccess.Result.ResultSet

/-!
# Connections

A connection pairs an engine with a configuration. It remembers whether it is closed, the
auto-commit setting, and every call that it made: all calls go through `Connection.ask`, which adds
them to the log. An action on a connection may fail; what it did to the connection until then
stays done.
-/

namespace SqlAccess

/-- A connection to an engine. -/
structure Connection where
  config : Config
  engine : Engine
  closed : Bool
  /-- Every statement commits when it completes. -/
  autoCommit : Bool
  /-- The calls made so far, the oldest first. -/
  calls : List Call

/-- What is done on a connection. -/
abbrev Action := EStateM Error Connection

namespace Connection

/-- A new connection. -/
def ofConfig (config : Config) (engine : Engine) : Connection :=
  { config := config
    engine := engine
    closed := false
    autoCommit := true
    calls := [] }

/-- The connection with one more call in its log. -/
def log (c : Connection) (call : Call) : Connection :=
  { c with calls := c.calls ++ [call] }

/-- Makes a call to the engine. -/
def ask (call : Call) : Action call.Answer := fun c =>
  match c.engine.answer c.calls call with
  | .ok a => .ok a (c.log call)
  | .error e => .error e (c.log call)

/-- Fails once the connection is closed. -/
def requireOpen (c : Connection) : Except Error Unit :=
  if c.closed then .error .connectionClosed else .ok ()

/-- Fails once the connection is closed. -/
def checkOpen : Action Unit := fun c =>
  match c.requireOpen with
  | .ok () => .ok () c
  | .error e => .error e c

/-! ## Direct statements -/

/-- Runs a native text whose first result has to be rows. -/
def queryNative (sql : String) (scrolling : Scrolling) : Action ResultSet := do
  checkOpen
  let config := (← get).config
  let response ← ask (.execute
    { Request.direct sql with fetchSize := config.fetchSize, scrolling := scrolling })
  match response.results with
  | .rows rows :: _ => return .ofRowSet rows config.timeZone scrolling
  | _ => throw .noResultSet

/-- Runs a query without parameters. -/
def query (sql : String) : Action ResultSet :=
  queryNative (Statement.nativeSql sql) .forwardOnly

/-- Runs a statement without parameters that gives no rows, and tells how many rows it changed. -/
def execute (sql : String) : Action Nat := do
  checkOpen
  let response ← ask (.execute (.direct (Statement.nativeSql sql)))
  match response.results with
  | .rows _ :: _ => throw .unexpectedResultSet
  | .updateCount n :: _ => return n
  | [] => return 0

/-- The native text of a client text. -/
def nativeSql (sql : String) : Action String := do
  checkOpen
  return Statement.nativeSql sql

/-! ## Transactions -/

/-- Commits the transaction. -/
def commit : Action Unit := do
  checkOpen
  ask .commit

/-- Rolls the transaction back. -/
def rollback : Action Unit := do
  checkOpen
  ask .rollback

/-- Turns auto-commit on or off; the setting changes if the engine agrees. -/
def setAutoCommit (on : Bool) : Action Unit := do
  checkOpen
  ask (.setAutoCommit on)
  modify fun c => { c with autoCommit := on }

/-! ## End -/

/-- Closes the connection, once. It is closed even if the engine then fails. -/
def close : Action Unit := do
  if (← get).closed then return
  modify fun c => { c with closed := true }
  ask .close

/-! ## Lemmas on actions -/

/-- The connection after an action, whether it failed or not. -/
def after {α : Type} (a : Action α) (c : Connection) : Connection :=
  match a c with
  | .ok _ c => c
  | .error _ c => c

theorem after_ask (call : Call) (c : Connection) : after (ask call) c = c.log call := by
  unfold after ask
  cases c.engine.answer c.calls call <;> rfl

theorem checkOpen_of_closed {c : Connection} (h : c.closed = true) :
    checkOpen c = .error .connectionClosed c := by
  simp [checkOpen, requireOpen, h]

theorem close_of_closed {c : Connection} (h : c.closed = true) : close c = .ok () c := by
  change (if c.closed then (pure () : Action Unit) else _) c = _
  rw [if_pos h]
  rfl

end Connection

end SqlAccess
