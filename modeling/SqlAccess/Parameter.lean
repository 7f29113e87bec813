import SqlAccess.Error
import SqlAccess.Text.Uppercase

/-!
# Statement parameters

The engine describes every parameter of a prepared statement: its name, its type, and in which
direction values travel. A parameter is found by name exactly as written first, and upper-cased
second, so that an unquoted name matches in any case. Parameters without a name are only found by
their ordinal.
-/

namespace SqlAccess

open SqlAccess.Text

/-- The direction in which the values of a parameter travel. -/
inductive ParameterMode
  /-- The engine could not tell. -/
  | unknown
  | input
  | inOut
  | output
deriving DecidableEq, Inhabited

namespace ParameterMode

/-- The client may send a value. -/
def isInput : ParameterMode → Bool
  | output => false
  | _ => true

/-- The engine may return a value. -/
def isOutput : ParameterMode → Bool
  | input => false
  | _ => true

/-- The engine's code of a mode. -/
def code : ParameterMode → Nat
  | unknown => 0
  | input => 1
  | inOut => 2
  | output => 4

/-- The mode with this code. -/
def ofCode : Nat → Except Error ParameterMode
  | 0 => .ok unknown
  | 1 => .ok input
  | 2 => .ok inOut
  | 4 => .ok output
  | n => .error (.protocol s!"invalid parameter mode: {n}")

/-- The name of a mode as one word. -/
def identifier : ParameterMode → String
  | unknown => "Unknown"
  | input => "In"
  | inOut => "InOut"
  | output => "Out"

/-- The mode with this name. -/
def ofIdentifier? (s : String) : Option ParameterMode :=
  [unknown, input, inOut, output].find? fun m => m.identifier == s

end ParameterMode

/-- What the engine says about a parameter. -/
structure Parameter where
  /-- Empty for a marker without a name. -/
  name : String
  type : SqlType
  mode : ParameterMode
  precision : Nat
  scale : Nat
  /-- Whether NULL is allowed: 0 for no, 1 for yes, 2 for unknown. -/
  nullable : Int
  /-- The engine's own name of the type. -/
  engineType : Option String
deriving DecidableEq, Inhabited

namespace Parameter

/-- A parameter of which only name, type and mode are known. -/
def described (name : String) (type : SqlType) (mode : ParameterMode) : Parameter :=
  { name := name
    type := type
    mode := mode
    precision := 0
    scale := 0
    nullable := 2
    engineType := none }

/-- The name of the type: the engine's own, or else the standard one. -/
def typeName (p : Parameter) : String :=
  p.engineType.getD p.type.name

/-! ## Names -/

/-- The index of the first parameter with exactly this name; nobody has the empty name. -/
def named? (ps : List Parameter) (name : String) : Option Nat :=
  if name = "" then none else ps.findIdx? fun p => p.name == name

/-- A name in upper case. -/
def upperName (name : String) : String :=
  String.ofList (toUpper name.toList)

/-- The index of the parameter that a name means. -/
def find? (ps : List Parameter) (name : String) : Option Nat :=
  (named? ps name).or (named? ps (upperName name))

/-- The ordinal of the parameter that a name means. -/
def ordinal (ps : List Parameter) (name : String) : Except Error Nat :=
  match find? ps name with
  | some n => .ok (n + 1)
  | none => .error (.parameterNotFound name)

/-- The distinct names in order of their first parameter. -/
def names (ps : List Parameter) : List String :=
  ((ps.map (·.name)).filter (· ≠ "")).eraseDups

theorem lt_of_named? {ps : List Parameter} {name : String} {n : Nat}
    (h : named? ps name = some n) : n < ps.length := by
  unfold named? at h
  split at h
  · cases h
  · exact (List.findIdx?_eq_some_iff_findIdx_eq.1 h).1

theorem lt_of_find? {ps : List Parameter} {name : String} {n : Nat}
    (h : find? ps name = some n) : n < ps.length := by
  unfold find? at h
  cases hn : named? ps name with
  | some k =>
    simp only [hn, Option.some_or, Option.some.injEq] at h
    exact h ▸ lt_of_named? hn
  | none =>
    simp only [hn, Option.none_or] at h
    exact lt_of_named? h

end Parameter

end SqlAccess
