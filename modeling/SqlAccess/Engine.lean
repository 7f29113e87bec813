import SqlAccess.Parameter
import SqlAccess.Result.Kind
import SqlAccess.Result.RowSet
import SqlAccess.Statement

/-!
# Engine

The engine parses, plans, runs and stores; the client only sends it calls and takes its answers.
Nothing is assumed of an engine but that the answer to a call depends on that call and on the calls
before it.
-/

namespace SqlAccess

/-- One execution that the engine is asked for. -/
structure Request where
  /-- The prepared statement to run; none to run the text itself. -/
  statementId : Option Nat
  sql : String
  /-- One value per parameter. -/
  parameters : List Value
  /-- The greatest number of rows, or 0 for no limit. -/
  maxRows : Nat
  /-- A hint, or 0 for the engine's own choice. -/
  fetchSize : Nat
  /-- A time limit in milliseconds. -/
  timeout : Option Nat
  scrolling : Scrolling
  concurrency : Concurrency
deriving Inhabited

namespace Request

/-- Runs a text that has no parameters. -/
def direct (sql : String) : Request :=
  { statementId := none
    sql := sql
    parameters := []
    maxRows := 0
    fetchSize := 0
    timeout := none
    scrolling := .forwardOnly
    concurrency := .readOnly }

/-- Runs a prepared statement. -/
def prepared (id : Nat) (sql : String) (parameters : List Value) : Request :=
  { direct sql with statementId := some id, parameters := parameters }

end Request

/-- What the engine tells about a statement that it prepared. -/
structure Description where
  id : Nat
  kind : StatementKind
  parameters : List Parameter
  /-- The columns of its rows, if it gives rows. -/
  columns : List Column
deriving Inhabited

/-- What the engine answers to an execution. -/
structure Response where
  results : ResultChain
  /-- The values of all parameters after the execution, or nothing. -/
  out : List Value
deriving Inhabited

/-- A call to the engine. -/
inductive Call
  | prepare (sql : String)
  | execute (request : Request)
  | closeStatement (id : Nat)
  | cancelStatement (id : Nat)
  | commit
  | rollback
  | setAutoCommit (on : Bool)
  | close

namespace Call

/-- What the engine answers to a call that succeeds. -/
@[reducible] def Answer : Call → Type
  | prepare _ => Description
  | execute _ => Response
  | closeStatement _ => Unit
  | cancelStatement _ => Unit
  | commit => Unit
  | rollback => Unit
  | setAutoCommit _ => Unit
  | close => Unit

end Call

/-- An engine: its answer to a call that comes after other calls, the oldest of them first. -/
structure Engine where
  answer (before : List Call) (call : Call) : Except Error call.Answer

end SqlAccess
