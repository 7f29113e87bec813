import SqlAccess.Statement.Prepared
import SqlAccess.Value.Getter

/-!
# Callable statements

A callable statement is a prepared statement that calls a routine. Its parameters are found by
ordinal or by name, and those that can carry output are read back after an execution. A name is
taken to its ordinal first, so that both ways of addressing a parameter have the same effect.
-/

namespace SqlAccess

/-- A prepared statement that calls a routine. -/
abbrev CallableStatement := PreparedStatement

namespace CallableStatement

/-- Prepares a call. -/
def prepare (sql : String) : Action CallableStatement :=
  PreparedStatement.prepare sql

/-- The ordinal of the parameter that is meant. -/
def ordinal (s : CallableStatement) (ref : ParameterRef) : Except Error Nat := do
  s.requireOpen
  let (index, _) ← s.parameters.resolve ref
  return index + 1

/-- Sets the parameter that is meant. -/
def setParameter (s : CallableStatement) (ref : ParameterRef) (a : Argument) :
    Except Error CallableStatement := do
  PreparedStatement.setParameter s (← ordinal s ref) a

/-- The slot of the parameter that is meant, which has to be one that can carry output. -/
def outputSlot (s : CallableStatement) (ref : ParameterRef) : Except Error Slot := do
  s.requireOpen
  let (index, slot) ← s.parameters.resolve ref
  unless slot.parameter.mode.isOutput do
    throw (.invalidArgument s!"parameter {index + 1} is not an OUT or IN OUT parameter")
  return slot

/-- Declares an output parameter. Its type and mode are known to the engine, so nothing is kept. -/
def registerOutput (s : CallableStatement) (ref : ParameterRef) : Except Error Unit := do
  let _ ← outputSlot s ref
  return ()

/-- Reads an output parameter. Every value that is fetched is noted as NULL or not, even if the
getter then fails on it; a getter that is not supported fetches none. -/
def get (s : CallableStatement) (ref : ParameterRef) :
    Getter → Except Error Value × CallableStatement
  | .unsupported feature => (outputSlot s ref >>= fun _ => .error (.featureNotSupported feature), s)
  | g =>
    match outputSlot s ref with
    | .ok slot =>
      (g.answer slot.value slot.parameter.type s.zone,
        { s with parameters := s.parameters.noteRead slot.value })
    | .error e => (.error e, s)

/-- The output value read last was NULL. -/
def lastWasNull (s : CallableStatement) : Except Error Bool := do
  s.requireOpen
  return s.parameters.wasNull

/-- Executes the call and takes its first row set. -/
def executeQuery : StatementAction ResultSet :=
  PreparedStatement.executeUntilRows

end CallableStatement

end SqlAccess
