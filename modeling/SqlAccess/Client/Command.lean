import SqlAccess.Metadata.Listing
import SqlAccess.Statement.Callable

/-!
# Commands

Everything that a client can do with a connection, a statement or the metadata, as data. Each kind
of command has one function that performs it. What comes of a command is a reply, and maybe
something new: a statement, a result set, or the metadata.
-/

namespace SqlAccess

/-- Something that a client makes and goes on working with. -/
inductive Item
  | prepared (s : PreparedStatement)
  | callable (s : CallableStatement)
  | resultSet (rs : ResultSet)
  | metadata

/-- What a client is told. -/
inductive Reply
  | done
  | flag (b : Bool)
  | count (n : Option Nat)
  | text (s : Option String)
  | value (v : Value)
  | nullOrdering (o : NullOrdering)

/-- What comes of a command that succeeds. -/
structure Outcome where
  reply : Reply
  made : Option Item

namespace Outcome

/-- A reply and nothing new. -/
def told (reply : Reply) : Outcome := ⟨reply, none⟩

/-- Something new. -/
def making (item : Item) : Outcome := ⟨.done, some item⟩

end Outcome

/-! ## Connections -/

/-- What can be done with a connection. -/
inductive ConnectionCommand
  | prepareStatement (sql : String)
  | prepareCall (sql : String)
  | query (sql : String)
  | openMetadata
  | execute (sql : String)
  | nativeSql (sql : String)
  | commit
  | rollback
  | setAutoCommit (on : Bool)
  | autoCommit
  | close
  | isClosed
deriving DecidableEq

/-- Performs a command on a connection. -/
def ConnectionCommand.perform : ConnectionCommand → Action Outcome
  | prepareStatement sql => do return .making (.prepared (← PreparedStatement.prepare sql))
  | prepareCall sql => do return .making (.callable (← CallableStatement.prepare sql))
  | query sql => do return .making (.resultSet (← Connection.query sql))
  | openMetadata => do
    Connection.checkOpen
    return .making .metadata
  | execute sql => do return .told (.count (← Connection.execute sql))
  | nativeSql sql => do return .told (.text (← Connection.nativeSql sql))
  | commit => do
    Connection.commit
    return .told .done
  | rollback => do
    Connection.rollback
    return .told .done
  | setAutoCommit on => do
    Connection.setAutoCommit on
    return .told .done
  | autoCommit => do return .told (.flag (← get).autoCommit)
  | close => do
    Connection.close
    return .told .done
  | isClosed => do return .told (.flag (← get).closed)

/-! ## Metadata -/

/-- What can be asked of the metadata. -/
inductive MetadataCommand
  | list (e : Enumeration)
  | bestRowIdentifiers (place : Place) (table : String) (scope : Int) (nullable : Bool)
  | pseudoColumns
  | productVersion
  | majorVersion
  | minorVersion
  | userName
  | isReadOnly
  | defaultSchema
  | defaultCatalog
  | nullOrdering
  | nullsAreSortedHigh
  | nullsAreSortedLow
  | nullsAreSortedAtStart
  | nullsAreSortedAtEnd
  | nullPlusNonNullIsNull
  | isConnectionClosed
deriving DecidableEq

/-- Performs a command on the metadata. -/
def MetadataCommand.perform : MetadataCommand → Action Outcome
  | list e => do return .making (.resultSet (← Metadata.list e))
  | bestRowIdentifiers place table scope nullable => do
    return .making (.resultSet (← Metadata.bestRowIdentifiers place table scope nullable))
  | pseudoColumns => do return .making (.resultSet (← Metadata.pseudoColumns))
  | productVersion => do return .told (.text (← Metadata.productVersion))
  | majorVersion => do return .told (.count (← Metadata.majorVersion))
  | minorVersion => do return .told (.count (← Metadata.minorVersion))
  | userName => do return .told (.text (← Metadata.userName))
  | isReadOnly => do return .told (.flag (← Metadata.isReadOnly))
  | defaultSchema => do return .told (.text (← Metadata.defaultSchema))
  | defaultCatalog => do return .told (.text (← Metadata.defaultCatalog))
  | nullOrdering => do return .told (.nullOrdering (← Metadata.nullOrdering))
  | nullsAreSortedHigh => do return .told (.flag (← Metadata.nullOrdering).sortedHigh)
  | nullsAreSortedLow => do return .told (.flag (← Metadata.nullOrdering).sortedLow)
  | nullsAreSortedAtStart => do return .told (.flag (← Metadata.nullOrdering).sortedAtStart)
  | nullsAreSortedAtEnd => do return .told (.flag (← Metadata.nullOrdering).sortedAtEnd)
  | nullPlusNonNullIsNull => do return .told (.flag (← Metadata.nullOrdering).concatNulls)
  | isConnectionClosed => do return .told (.flag (← get).closed)

/-! ## Statements -/

/-- What can be done with a statement. -/
inductive StatementCommand
  | setParameter (n : Nat) (a : Argument)
  | clearParameters
  | setMaxRows (n : Nat)
  | setFetchSize (n : Nat)
  | setTimeout (timeout : Option Nat)
  | setResultSetKind (scrolling : Scrolling) (concurrency : Concurrency)
  | execute
  | executeQuery
  | executeUpdate
  /-- Takes the current result if it is a row set. -/
  | takeResultSet
  | updateCount
  | moreResults
  | cancel
  | close
  | isClosed

/-- Changes the statement alone. -/
def StatementAction.change (f : PreparedStatement → Except Error PreparedStatement) :
    StatementAction Outcome := fun (s, c) =>
  match f s with
  | .ok s => .ok (.told .done) (s, c)
  | .error e => .error e (s, c)

/-- Tells what the statement alone knows, and changes it. -/
def StatementAction.tell (f : PreparedStatement → Except Error (Outcome × PreparedStatement)) :
    StatementAction Outcome := fun (s, c) =>
  match f s with
  | .ok (outcome, s) => .ok outcome (s, c)
  | .error e => .error e (s, c)

/-- Performs a command on a prepared statement and its connection. -/
def StatementCommand.perform : StatementCommand → StatementAction Outcome
  | setParameter n a => .change fun s => s.setParameter n a
  | clearParameters => .change PreparedStatement.clearParameters
  | setMaxRows n => .change fun s => s.setMaxRows n
  | setFetchSize n => .change fun s => s.setFetchSize n
  | setTimeout timeout => .change fun s => s.setTimeout timeout
  | setResultSetKind scrolling concurrency =>
    .change fun s => s.setResultSetKind scrolling concurrency
  | execute => do return .told (.flag (← PreparedStatement.execute))
  | executeQuery => do return .making (.resultSet (← PreparedStatement.executeQuery))
  | executeUpdate => do return .told (.count (← PreparedStatement.executeUpdate))
  | takeResultSet => .tell fun s => do
    let (rows, s) ← s.takeResultSet
    return (⟨.flag rows.isSome, rows.map .resultSet⟩, s)
  | updateCount => .tell fun s => do return (.told (.count (← s.updateCount)), s)
  | moreResults => .tell fun s => do
    let (onRows, s) ← s.moreResults
    return (.told (.flag onRows), s)
  | cancel => do
    PreparedStatement.cancel
    return .told .done
  | close => do
    PreparedStatement.close
    return .told .done
  | isClosed => .tell fun s => .ok (.told (.flag s.parameters.closed), s)

/-- What can be done with a callable statement. -/
inductive CallableCommand
  | setParameter (ref : ParameterRef) (a : Argument)
  | get (ref : ParameterRef) (g : Getter)
  | wasNull
  | registerOutput (ref : ParameterRef)
  | executeQuery
  /-- What can be done with any statement. -/
  | plain (c : StatementCommand)

/-- Performs a command on a callable statement and its connection. -/
def CallableCommand.perform : CallableCommand → StatementAction Outcome
  | setParameter ref a => .change fun s => CallableStatement.setParameter s ref a
  | get ref g => fun (s, c) =>
    match CallableStatement.get s ref g with
    | (.ok v, s) => .ok (.told (.value v)) (s, c)
    | (.error e, s) => .error e (s, c)
  | wasNull => .tell fun s => do
    return (.told (.flag (← CallableStatement.lastWasNull s)), s)
  | registerOutput ref => .tell fun s => do
    CallableStatement.registerOutput s ref
    return (.told .done, s)
  | executeQuery => do return .making (.resultSet (← CallableStatement.executeQuery))
  | plain c => c.perform

end SqlAccess
