import SqlAccess.Connection
import SqlAccess.Parameter.Buffer
import SqlAccess.Statement.Argument

/-!
# Prepared statements

A prepared statement is one that the engine has described. Its parameters are set by ordinal, each
value is coerced to the declared type, and an execution sends one value per parameter. The results
of an execution are taken one after the other: the statement is on the current one, and the others
are pending.

Setting parameters and options, and walking through results, concern the statement alone; such a
function gives the new statement, or fails and leaves everything as it was. Executions, `cancel`
and `close` also make calls. They are actions on the statement together with its connection, and
what they did before they failed stays done.
-/

namespace SqlAccess

open SqlAccess.Calendar

/-- How a statement is executed. -/
structure ExecutionOptions where
  /-- The greatest number of rows, or 0 for no limit. -/
  maxRows : Nat
  /-- A hint, or 0 for the engine's own choice. -/
  fetchSize : Nat
  /-- A time limit in milliseconds. -/
  timeout : Option Nat
  /-- The kind of its result sets. -/
  scrolling : Scrolling
deriving DecidableEq, Inhabited

/-- A statement that the engine has described. -/
structure PreparedStatement where
  statement : Statement
  /-- The engine's identifier. -/
  id : Nat
  kind : StatementKind
  columns : List Column
  parameters : ParameterBuffer
  /-- The result that the statement is on. -/
  current : Option ResultItem
  /-- The results after it. -/
  pending : ResultChain
  options : ExecutionOptions
  /-- The zone of date-times that have none. -/
  zone : Offset
deriving Inhabited

/-- What is done with a statement and its connection. -/
abbrev StatementAction := EStateM Error (PreparedStatement × Connection)

namespace PreparedStatement

/-- The statement that the engine describes. Its kind is told from the text if the engine does not
know it. -/
def ofDescription (statement : Statement) (d : Description) (config : Config) :
    PreparedStatement :=
  { statement := statement
    id := d.id
    kind := if d.kind = .other then statement.kind else d.kind
    columns := d.columns
    parameters := .ofParameters d.parameters
    current := none
    pending := []
    options := ⟨0, config.fetchSize, none, .forwardOnly⟩
    zone := config.timeZone }

/-- Prepares a statement. -/
def prepare (sql : String) : Action PreparedStatement := do
  Connection.checkOpen
  let statement := Statement.ofSql sql
  let d ← Connection.ask (.prepare statement.native)
  return ofDescription statement d (← get).config

/-- Fails once the statement is closed. -/
def requireOpen (s : PreparedStatement) : Except Error Unit :=
  s.parameters.requireOpen

/-! ## Options -/

/-- Changes the options of further executions. -/
def configure (s : PreparedStatement) (change : ExecutionOptions → ExecutionOptions) :
    Except Error PreparedStatement := do
  s.requireOpen
  return { s with options := change s.options }

/-- Limits the number of rows; 0 means no limit. -/
def setMaxRows (s : PreparedStatement) (n : Nat) : Except Error PreparedStatement :=
  s.configure fun o => { o with maxRows := n }

/-- Hints how many rows to fetch at a time. -/
def setFetchSize (s : PreparedStatement) (n : Nat) : Except Error PreparedStatement :=
  s.configure fun o => { o with fetchSize := n }

/-- Limits the time of an execution. -/
def setTimeout (s : PreparedStatement) (timeout : Option Nat) : Except Error PreparedStatement :=
  s.configure fun o => { o with timeout := timeout }

/-- Chooses the kind of result sets. They are read-only, whatever the concurrency asked for. -/
def setResultSetKind (s : PreparedStatement) (scrolling : Scrolling) (_ : Concurrency) :
    Except Error PreparedStatement :=
  s.configure fun o => { o with scrolling := scrolling.served }

/-! ## Parameters -/

/-- Coerces a value to the declared type of a parameter and writes it to its slot. -/
def bind (s : PreparedStatement) (n : Nat) (v : Value) : Except Error PreparedStatement := do
  s.requireOpen
  let (index, slot) ← s.parameters.slotAt n
  if slot.parameter.mode = .output then
    throw (.invalidArgument s!"parameter {n} is an OUT parameter and cannot be set")
  let v ← coerceForParameter v slot.parameter.type s.zone
  return { s with parameters := s.parameters.bind index v }

/-- Sets the parameter with this ordinal. -/
def setParameter (s : PreparedStatement) (n : Nat) (a : Argument) :
    Except Error PreparedStatement := do
  unless a.isEager do s.requireOpen
  s.bind n (← a.given s.zone)

/-- Forgets the values of all parameters. -/
def clearParameters (s : PreparedStatement) : Except Error PreparedStatement := do
  s.requireOpen
  return { s with parameters := s.parameters.clear }

/-! ## Execution -/

/-- The request that an execution sends; there is none if the statement or the connection is closed
or an input parameter was not set. -/
def request (s : PreparedStatement) (c : Connection) : Except Error Request := do
  s.requireOpen
  c.requireOpen
  if let some n := s.parameters.firstUnsetInput? then throw (.parameterNotSet n)
  return { Request.prepared s.id s.statement.native s.parameters.sent with
    maxRows := s.options.maxRows
    fetchSize := s.options.fetchSize
    timeout := s.options.timeout
    scrolling := s.options.scrolling }

/-- The statement without results. -/
def withoutResults (s : PreparedStatement) : PreparedStatement :=
  { s with current := none, pending := [] }

/-- Goes to the next of some results. -/
def onFirst (s : PreparedStatement) (results : ResultChain) : PreparedStatement :=
  let (current, pending) := results.pop
  { s with current := current, pending := pending }

/-- Takes up the answer to an execution. -/
def accept (s : PreparedStatement) (response : Response) : Except Error PreparedStatement := do
  let parameters ← s.parameters.receive response.out
  return { s with parameters := parameters }.onFirst response.results

/-- Sends the parameters and goes to the first result. An execution that cannot start changes
nothing. One that has started drops earlier results, even if it then fails. -/
def run : StatementAction Unit := fun (s, c) =>
  match s.request c with
  | .error e => .error e (s, c)
  | .ok request =>
    match Connection.ask (.execute request) c with
    -- From here on the results of an earlier execution are gone.
    | .error e c => .error e (s.withoutResults, c)
    | .ok response c =>
      match s.withoutResults.accept response with
      | .error e => .error e (s.withoutResults, c)
      | .ok s => .ok () (s, c)

/-! ## Results -/

/-- The result set over some rows. -/
def resultSet (s : PreparedStatement) (rows : RowSet) : ResultSet :=
  .ofRowSet rows s.zone s.options.scrolling

/-- The statement is on a row set. -/
def isOnRows (s : PreparedStatement) : Bool :=
  s.current.any ResultItem.isRows

/-- Takes the current result if it is a row set. -/
def takeRows (s : PreparedStatement) : Option ResultSet × PreparedStatement :=
  match s.current with
  | some (.rows rows) => (some (s.resultSet rows), { s with current := none })
  | _ => (none, s)

/-- Takes the current result if it is a row set. -/
def takeResultSet (s : PreparedStatement) :
    Except Error (Option ResultSet × PreparedStatement) := do
  s.requireOpen
  return s.takeRows

/-- The current result if it is an update count. -/
def updateCount (s : PreparedStatement) : Except Error (Option Nat) := do
  s.requireOpen
  match s.current with
  | some (.updateCount n) => return some n
  | _ => return none

/-- Goes to the next result, and tells whether it is a row set. -/
def moreResults (s : PreparedStatement) : Except Error (Bool × PreparedStatement) := do
  s.requireOpen
  let s := s.onFirst s.pending
  return (s.isOnRows, s)

/-- The first row set of a chain and what comes after it. -/
def firstRows? : ResultChain → Option (RowSet × ResultChain)
  | [] => none
  | .rows rows :: rest => some (rows, rest)
  | .updateCount _ :: rest => firstRows? rest

/-- Executes, and tells whether the first result is a row set. -/
def execute : StatementAction Bool := do
  run
  return (← get).1.isOnRows

/-- Executes a statement whose first result is a row set. -/
def executeQuery : StatementAction ResultSet := do
  run
  let (s, c) ← get
  let (rows, s) := s.takeRows
  set (s, c)
  match rows with
  | some rs => return rs
  | none => throw .noResultSet

/-- Executes a statement that gives no rows, and tells how many rows it changed. -/
def executeUpdate : StatementAction Nat := do
  run
  match (← get).1.current with
  | some (.rows _) => throw .unexpectedResultSet
  | some (.updateCount n) => return n
  | none => return 0

/-- Executes, and takes the first row set; the update counts before it are skipped. -/
def executeUntilRows : StatementAction ResultSet := do
  run
  let (s, c) ← get
  match firstRows? (s.current.toList ++ s.pending) with
  | some (rows, rest) =>
    set ({ s with current := none, pending := rest }, c)
    return s.resultSet rows
  | none =>
    set (s.withoutResults, c)
    throw .noResultSet

/-! ## Cancelling and closing -/

/-- Makes a call that concerns the statement. -/
def ask (call : PreparedStatement → Call) : StatementAction Unit := fun (s, c) =>
  match c.engine.answer c.calls (call s) with
  | .ok _ => .ok () (s, c.log (call s))
  | .error e => .error e (s, c.log (call s))

/-- Asks the engine to stop a running execution. -/
def cancel : StatementAction Unit := fun (s, c) =>
  match s.requireOpen, c.requireOpen with
  | .error e, _ => .error e (s, c)
  | _, .error e => .error e (s, c)
  | _, _ => ask (fun s => .cancelStatement s.id) (s, c)

/-- The statement without parameters and results, for good. -/
def released (s : PreparedStatement) : PreparedStatement :=
  { s.withoutResults with parameters := s.parameters.close }

/-- Closes the statement, once. The engine drops it unless the connection is closed already; the
statement is closed even if that fails. -/
def close : StatementAction Unit := fun (s, c) =>
  if s.parameters.closed then .ok () (s, c)
  else if c.closed then .ok () (s.released, c)
  else ask (fun s => .closeStatement s.id) (s.released, c)

/-! ## Lemmas -/

theorem length_parameters_of_request {s : PreparedStatement} {c : Connection} {r : Request}
    (h : s.request c = .ok r) : r.parameters.length = s.parameters.count := by
  unfold request at h
  -- A request that is made has passed both checks.
  cases hs : s.requireOpen with
  | error e =>
    rw [hs] at h
    cases h
  | ok u =>
    cases hc : c.requireOpen with
    | error e =>
      rw [hs, hc] at h
      cases h
    | ok v =>
      rw [hs, hc] at h
      simp only [Except.bind, Bind.bind] at h
      split at h
      · cases h
      · cases h
        exact s.parameters.length_sent

end PreparedStatement

end SqlAccess
