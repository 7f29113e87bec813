import SqlAccess.Engine
import SqlAccess.Text.Blank
import SqlAccess.Text.Uppercase

/-!
# Scripted engines

A scripted engine answers from lists: how it describes certain statements, what it answers to the
first, second and further executions of certain texts, and which other calls it fails. To all else
it gives plain answers, so that a script only holds what matters.
-/

namespace SqlAccess

open SqlAccess.Text

/-- The calls that are answered with nothing. -/
inductive Call.Plain
  | closeStatement | cancelStatement | commit | rollback | setAutoCommit | close
deriving DecidableEq

/-- What a scripted engine answers. -/
structure Script where
  /-- How texts are described, each time they are prepared. -/
  descriptions : List (String × Except Error Description)
  /-- What the executions of texts are answered, one after the other. -/
  responses : List (String × List (Except Error Response))
  /-- The calls that fail. -/
  failures : List (Call.Plain × Error)

namespace Script

/-- The identifier of the first statement that is not described. -/
def firstFreeId : Nat := 1001

/-- A text whose execution gives rows unless the script says otherwise. -/
def givesRows (sql : String) : Bool :=
  let start := asciiLower (trimStart sql.toList)
  ["select", "call", "values"].any fun word => word.toList.isPrefixOf start

/-- The answer to an execution that the script says nothing about. -/
def plainResponse (sql : String) : Response :=
  ⟨[if givesRows sql then .rows .empty else .updateCount 0], []⟩

/-- How often a statement was prepared. -/
def preparations (before : List Call) : Nat :=
  before.countP fun
    | .prepare _ => true
    | _ => false

/-- How often a text was executed. -/
def executions (before : List Call) (sql : String) : Nat :=
  before.countP fun
    | .execute request => request.sql == sql
    | _ => false

/-- Fails a call that the script fails. -/
def acknowledge (s : Script) (call : Call.Plain) : Except Error Unit :=
  match s.failures.lookup call with
  | some e => .error e
  | none => .ok ()

/-- The engine that plays a script. -/
def engine (s : Script) : Engine where
  answer before
    | .prepare sql =>
      match s.descriptions.lookup sql with
      | some described => described
      | none => .ok ⟨firstFreeId + preparations before, .other, [], []⟩
    | .execute request =>
      match ((s.responses.lookup request.sql).getD [])[executions before request.sql]? with
      | some response => response
      | none => .ok (plainResponse request.sql)
    | .closeStatement _ => s.acknowledge .closeStatement
    | .cancelStatement _ => s.acknowledge .cancelStatement
    | .commit => s.acknowledge .commit
    | .rollback => s.acknowledge .rollback
    | .setAutoCommit _ => s.acknowledge .setAutoCommit
    | .close => s.acknowledge .close

end Script

end SqlAccess
