import SqlAccess.Error

/-!
# Large objects

A large object owns a list of units: characters for a CLOB, bytes for a BLOB. Positions start at
1, and the position one past the end is allowed everywhere, so that writes can append. After a
large object is freed its content is gone and every content operation fails.
-/

namespace SqlAccess

/-- What distinguishes the large objects over one kind of unit. -/
class LobUnit (α : Type) where
  /-- The name of the SQL type. -/
  name : String
  /-- An empty pattern is found at the position one past the end. -/
  foundAtEnd : Bool
  /-- The bytes of a stream over units. -/
  encode : List α → List UInt8
  /-- At most `count` units behind the first `before` ones. -/
  slice (units : List α) (before count : Nat) : List α
  /-- A value in place of the units behind the first `before` ones. -/
  overwrite (units : List α) (before : Nat) (value : List α) : List α

instance : LobUnit Char where
  name := "CLOB"
  foundAtEnd := false
  encode s := s.flatMap String.utf8EncodeChar
  slice s before count := (s.drop before).take count
  overwrite s before value := s.take before ++ value ++ s.drop (before + value.length)

instance : LobUnit UInt8 where
  name := "BLOB"
  foundAtEnd := true
  encode b := b
  slice b before count := (b.take (min (before + count) b.length)).drop before
  overwrite b before value :=
    let stop := before + value.length
    -- Zeros make room for what reaches past the end, and the value is copied over the old bytes.
    let room := b ++ List.replicate (stop - b.length) 0
    room.take before ++ value ++ room.drop stop

/-- A large object. -/
structure Lob (α : Type) where
  units : List α
  freed : Bool
deriving DecidableEq, Inhabited

/-- A character large object; national ones are no different. -/
abbrev Clob := Lob Char

/-- A binary large object. -/
abbrev Blob := Lob UInt8

namespace Lob

variable {α : Type}

/-- A large object with this content. -/
def ofList (units : List α) : Lob α := ⟨units, false⟩

/-- The content, unless it was freed. -/
def content (l : Lob α) : Except Error (List α) :=
  if l.freed then .error (.invalidArgument "LOB has been freed") else .ok l.units

/-- The number of units before a position, which has to be at most one past the end. -/
def unitsBefore (pos length : Nat) : Except Error Nat :=
  if 1 ≤ pos ∧ pos ≤ length + 1 then .ok (pos - 1)
  else .error (.invalidArgument s!"LOB position out of range: {pos} (length {length})")

/-- The number of units. -/
def length (l : Lob α) : Except Error Nat := do
  return (← l.content).length

/-- At most `count` units from a position on. -/
def read [LobUnit α] (l : Lob α) (pos count : Nat) : Except Error (List α) := do
  let units ← l.content
  let before ← unitsBefore pos units.length
  return LobUnit.slice units before count

/-- The bytes of the whole content. -/
def stream [LobUnit α] (l : Lob α) : Except Error (List UInt8) := do
  return LobUnit.encode (← l.content)

/-- The bytes of at most `count` units from a position on. -/
def streamAt [LobUnit α] (l : Lob α) (pos count : Nat) : Except Error (List UInt8) := do
  return LobUnit.encode (← l.read pos count)

/-- How many units come before the first occurrence of a pattern. -/
def firstOccurrence [BEq α] (pattern : List α) : List α → Option Nat
  | [] => if pattern.isEmpty then some 0 else none
  | u :: rest =>
    if pattern.isPrefixOf (u :: rest) then some 0
    else (firstOccurrence pattern rest).map (· + 1)

/-- The position of the first occurrence of a pattern at or after `start`. -/
def position [BEq α] [LobUnit α] (l : Lob α) (pattern : List α) (start : Nat) :
    Except Error (Option Nat) := do
  let units ← l.content
  let before ← unitsBefore start units.length
  if before = units.length ∧ !LobUnit.foundAtEnd α then return none
  return (firstOccurrence pattern (units.drop before)).map fun n => before + n + 1

/-- The position of the first occurrence of another large object's content. -/
def positionOf [BEq α] [LobUnit α] (l pattern : Lob α) (start : Nat) :
    Except Error (Option Nat) := do
  l.position (← pattern.content) start

/-- Replaces units from a position on, extending the content where needed. -/
def write [LobUnit α] (l : Lob α) (pos : Nat) (value : List α) : Except Error (Lob α) := do
  let units ← l.content
  let before ← unitsBefore pos units.length
  return ofList (LobUnit.overwrite units before value)

/-- Keeps the first `count` units. -/
def truncate [LobUnit α] (l : Lob α) (count : Nat) : Except Error (Lob α) := do
  let units ← l.content
  if units.length < count then
    throw (.invalidArgument
      s!"truncate length {count} exceeds {LobUnit.name α} length {units.length}")
  return ofList (units.take count)

/-- Gives up the content for good. -/
def free (_ : Lob α) : Lob α := ⟨[], true⟩

theorem content_ofList (units : List α) : (ofList units).content = .ok units := rfl

theorem isPrefixOf_of_firstOccurrence [BEq α] {pattern units : List α} {n : Nat}
    (h : firstOccurrence pattern units = some n) :
    pattern.isPrefixOf (units.drop n) = true := by
  induction units generalizing n with
  | nil =>
    simp only [firstOccurrence] at h
    split at h
    · next he =>
      cases h
      cases pattern with
      | nil => rfl
      | cons _ _ => simp at he
    · cases h
  | cons u rest ih =>
    simp only [firstOccurrence] at h
    split at h
    · next hp => cases h; exact hp
    · obtain ⟨k, hk, rfl⟩ := Option.map_eq_some_iff.1 h
      exact ih hk

end Lob

end SqlAccess
