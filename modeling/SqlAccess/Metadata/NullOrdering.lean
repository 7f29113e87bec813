import SqlAccess.Text.Uppercase

/-!
# NULL handling

Three properties of the engine decide where NULL is sorted and whether joining it to a text gives
NULL. They can change at any time, so they are asked for whenever they matter.
-/

namespace SqlAccess

open SqlAccess.Text

/-- The engine's properties for NULL. -/
structure NullOrdering where
  /-- A text joined to NULL is NULL. -/
  concatNulls : Bool
  /-- NULL comes before other values in ascending order. -/
  nullsFirst : Bool
  /-- Its place does not depend on the direction. -/
  nullsOrder : Bool
deriving DecidableEq

namespace NullOrdering

/-- The properties of an engine that does not say otherwise. -/
def standard : NullOrdering := ⟨true, true, true⟩

instance : Inhabited NullOrdering := ⟨standard⟩

/-- Takes up one property of the engine. -/
def applyProperty (o : NullOrdering) (name value : String) : NullOrdering :=
  let flag := equalIgnoringCase value.toList "true".toList
  if name = "sql.concat_nulls" then { o with concatNulls := flag }
  else if name = "sql.nulls_first" then { o with nullsFirst := flag }
  else if name = "sql.nulls_order" then { o with nullsOrder := flag }
  else o

/-- The properties that rows of names and values give; the last one of a name counts. -/
def ofProperties (properties : List (String × String)) : NullOrdering :=
  properties.foldl (fun o (name, value) => o.applyProperty name value) standard

/-- NULL is sorted as the highest value. -/
def sortedHigh (o : NullOrdering) : Bool := !o.nullsFirst && !o.nullsOrder

/-- NULL is sorted as the lowest value. -/
def sortedLow (o : NullOrdering) : Bool := o.nullsFirst && !o.nullsOrder

/-- NULL is sorted first in both directions. -/
def sortedAtStart (o : NullOrdering) : Bool := o.nullsFirst && o.nullsOrder

/-- NULL is sorted last in both directions. -/
def sortedAtEnd (o : NullOrdering) : Bool := !o.nullsFirst && o.nullsOrder

end NullOrdering

end SqlAccess
