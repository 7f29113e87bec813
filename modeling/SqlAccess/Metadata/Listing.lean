import SqlAccess.Catalog.Enumeration
import SqlAccess.Metadata.LiveFact

/-!
# Catalog listings

A listing runs the query of an enumeration. If the configuration asks for it, an empty catalog or
schema means the session's own, which is asked from the engine before the query is run.
-/

namespace SqlAccess.Metadata

/-- A catalog argument; an empty one may mean the database's own. -/
def ownCatalog (name : Option String) : Action (Option String) := do
  if name = some "" ∧ (← get).config.defaultSchema then
    return some ((← defaultCatalog).getD "")
  else return name

/-- A schema argument; an empty one may mean the session's own. -/
def ownSchema (name : Option String) : Action (Option String) := do
  if name = some "" ∧ (← get).config.defaultSchema then
    return some ((← defaultSchema).getD "")
  else return name

/-- A place, with the session's own names filled in. -/
def ownPlace (p : Place) : Action Place := do
  let catalog ← ownCatalog p.catalog
  let schema ← ownSchema p.schema
  return ⟨catalog, schema⟩

/-- Lists what an enumeration asks for. -/
def list (e : Enumeration) : Action ResultSet := do
  let e ← e.mapPlaces ownPlace
  rows e.query.text

/-- Lists the columns that best identify a row for at least as long as the scope with this code. -/
def bestRowIdentifiers (place : Place) (table : String) (scope : Int) (nullable : Bool) :
    Action ResultSet := do
  match RowScope.ofCode? scope with
  | some s => list (.bestRowIdentifiers place table s nullable)
  | none => throw (.invalidArgument s!"invalid best row scope: {scope}")

/-- There are no pseudo columns to list. -/
def pseudoColumns : Action ResultSet :=
  throw (.featureNotSupported "pseudo columns")

end SqlAccess.Metadata
