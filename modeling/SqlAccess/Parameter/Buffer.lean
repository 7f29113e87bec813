import SqlAccess.Parameter
import SqlAccess.Value

/-!
# Parameter buffers

A statement keeps one slot for each of its parameters. Setters write slots, and after an execution
the engine's values replace those of all parameters that can carry output. The buffer is sent as
one value per parameter; a parameter that only carries output is sent as NULL.
-/

namespace SqlAccess

/-- The place of one parameter's value. -/
structure Slot where
  parameter : Parameter
  value : Value
  /-- The client set a value since the last clear. -/
  bound : Bool
deriving Inhabited

namespace Slot

/-- A slot that nothing was written to. -/
def blank (p : Parameter) : Slot := ⟨p, .null, false⟩

/-- The client's value. -/
def bind (s : Slot) (v : Value) : Slot := { s with value := v, bound := true }

/-- Forgets the value. -/
def clear (s : Slot) : Slot := blank s.parameter

/-- Takes the engine's value, if the parameter can carry output. -/
def receive (s : Slot) (v : Value) : Slot :=
  if s.parameter.mode.isOutput then { s with value := v } else s

/-- The value that is sent. -/
def sent (s : Slot) : Value :=
  if s.parameter.mode = .output then .null else s.value

/-- The client has yet to set a value. -/
def awaitsInput (s : Slot) : Bool :=
  s.parameter.mode.isInput && !s.bound

end Slot

/-- Addresses a parameter. -/
inductive ParameterRef
  /-- By its place, from 1. -/
  | ordinal (n : Nat)
  | name (s : String)
deriving DecidableEq

/-- The parameters of a statement with their values. -/
structure ParameterBuffer where
  slots : List Slot
  /-- The value read last was NULL. -/
  wasNull : Bool
  closed : Bool
deriving Inhabited

namespace ParameterBuffer

/-- The buffer of a new statement. -/
def ofParameters (ps : List Parameter) : ParameterBuffer :=
  ⟨ps.map Slot.blank, false, false⟩

/-- Fails once the buffer is closed. -/
def requireOpen (b : ParameterBuffer) : Except Error Unit :=
  if b.closed then .error .statementClosed else .ok ()

/-- The number of parameters. -/
def count (b : ParameterBuffer) : Nat :=
  b.slots.length

/-- The parameters in order. -/
def parameters (b : ParameterBuffer) : List Parameter :=
  b.slots.map (·.parameter)

/-- The values in order. -/
def values (b : ParameterBuffer) : List Value :=
  b.slots.map (·.value)

/-- The index and the slot with this ordinal. -/
def slotAt (b : ParameterBuffer) (n : Nat) : Except Error (Nat × Slot) :=
  if n = 0 then .error (.invalidParameterIndex n b.count)
  else
    match b.slots[n - 1]? with
    | some slot => .ok (n - 1, slot)
    | none => .error (.invalidParameterIndex n b.count)

/-- The index and the slot that are meant. A name is taken to its ordinal first. -/
def resolve (b : ParameterBuffer) : ParameterRef → Except Error (Nat × Slot)
  | .ordinal n => b.slotAt n
  | .name s => do
    if s = "" then throw (.nullArgument "parameter name")
    b.slotAt (← Parameter.ordinal b.parameters s)

/-- Writes the client's value to a slot. -/
def bind (b : ParameterBuffer) (index : Nat) (v : Value) : ParameterBuffer :=
  { b with slots := b.slots.modify index fun s => s.bind v }

/-- Forgets all values. -/
def clear (b : ParameterBuffer) : ParameterBuffer :=
  { b with slots := b.slots.map Slot.clear }

/-- The ordinal of the first parameter that the client has yet to set. -/
def firstUnsetInput? (b : ParameterBuffer) : Option Nat :=
  (b.slots.findIdx? Slot.awaitsInput).map (· + 1)

/-- One value per parameter, to be sent with an execution. -/
def sent (b : ParameterBuffer) : List Value :=
  b.slots.map Slot.sent

/-- Takes the engine's values after an execution: either none at all, or one per parameter. -/
def receive (b : ParameterBuffer) (out : List Value) : Except Error ParameterBuffer :=
  if out.isEmpty then .ok b
  else if out.length = b.count then .ok { b with slots := List.zipWith Slot.receive b.slots out }
  else
    .error (.protocol
      s!"engine returned {out.length} parameter values for {b.count} parameters")

/-- Notes whether a value that was read is NULL. -/
def noteRead (b : ParameterBuffer) (v : Value) : ParameterBuffer :=
  { b with wasNull := v.isNull }

/-- Gives up parameters and values for good. -/
def close (_ : ParameterBuffer) : ParameterBuffer :=
  ⟨[], false, true⟩

/-! ## One lemma per operation -/

theorem parameters_ofParameters (ps : List Parameter) : (ofParameters ps).parameters = ps := by
  simp [parameters, ofParameters, Slot.blank, Function.comp_def]

theorem getElem?_of_slotAt {b : ParameterBuffer} {n index : Nat} {slot : Slot}
    (h : b.slotAt n = .ok (index, slot)) : b.slots[index]? = some slot ∧ n = index + 1 := by
  unfold slotAt at h
  split at h
  · cases h
  · split at h
    · next hs =>
      cases h
      exact ⟨hs, by omega⟩
    · cases h

theorem getElem?_of_resolve {b : ParameterBuffer} {ref : ParameterRef} {index : Nat} {slot : Slot}
    (h : b.resolve ref = .ok (index, slot)) : b.slots[index]? = some slot := by
  cases ref with
  | ordinal k => exact (getElem?_of_slotAt h).1
  | name s =>
    simp only [resolve] at h
    split at h
    · cases h
    · cases ho : Parameter.ordinal b.parameters s with
      | error e =>
        rw [ho] at h
        cases h
      | ok k =>
        rw [ho] at h
        exact (getElem?_of_slotAt h).1

theorem parameters_bind (b : ParameterBuffer) (n : Nat) (v : Value) :
    (b.bind n v).parameters = b.parameters := by
  apply List.ext_getElem
  · simp [parameters, bind]
  · intro i h₁ h₂
    simp only [parameters, bind, List.getElem_map, List.getElem_modify]
    split <;> rfl

theorem parameters_clear (b : ParameterBuffer) : b.clear.parameters = b.parameters := by
  simp [parameters, clear, Slot.clear, Slot.blank, Function.comp_def]

theorem length_sent (b : ParameterBuffer) : b.sent.length = b.count := by
  simp [sent, count]

end ParameterBuffer

end SqlAccess
