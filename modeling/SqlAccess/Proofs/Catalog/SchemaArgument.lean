import Mathlib.Data.List.TakeWhile
import SqlAccess.Catalog.Enumeration
import SqlAccess.Proofs.Catalog.NameCondition

/-!
# Schema arguments of catalog enumerations

Most enumerations are narrowed to a schema, given by its name or by a pattern (`SchemaArgument`).
The text of an enumeration is read as its fixed start and its clauses
(`Enumeration.exists_lexemes?_text`), so that the condition of each of its schema arguments stands
in it (`standsIn_condition`). This condition is satisfied by just the schema of this name unless the
argument is a pattern and the name holds a wildcard (`SchemaArgument.satisfied_condition_iff`).
-/

namespace SqlAccess

open SqlAccess.Text

/-! ## Schema arguments -/

/-- An argument of an enumeration for a schema: the column that it is compared with, whether it is a
pattern, and what is given for it. -/
structure SchemaArgument where
  column : String
  isPattern : Bool
  name : Option String
deriving DecidableEq

namespace SchemaArgument

/-- The clause of an argument. -/
def clause (a : SchemaArgument) : Clause :=
  if a.isPattern then .like a.column a.name else .equals a.column a.name

/-- The condition that an argument puts on its column if a name is given. -/
def condition (a : SchemaArgument) (name : String) : NameCondition :=
  if a.isPattern then .ofPattern name.toList else .ofName name.toList

/-- The clause of an argument is read as its condition. -/
theorem lexemes_clause {a : SchemaArgument} {name : String} (h : a.name = some name) :
    a.clause.lexemes = (a.condition name).lexemes a.column := by
  unfold clause condition
  split
  · rw [NameCondition.lexemes_ofPattern, h]
    rfl
  · rw [NameCondition.lexemes_ofName, h]
    rfl

/-- Only names with wildcards are not taken for just themselves, and only where a pattern is. -/
theorem satisfied_condition_iff (a : SchemaArgument) {d : String} (hd : d ≠ "") :
    (∀ m : String, (a.condition d).Satisfied m.toList ↔ m = d) ↔
      (a.isPattern = true → ¬HasWildcard d.toList) := by
  have hne : d.toList ≠ [] := by simpa using hd
  -- A name is the text of its characters, so that any list of characters may be tried as one.
  have hlist (P : NameCondition) : (∀ m : String, P.Satisfied m.toList ↔ m = d) ↔
      ∀ m, P.Satisfied m ↔ m = d.toList := by
    constructor
    · intro h m
      have hm := h (String.ofList m)
      rw [String.toList_ofList, ← String.toList_inj, String.toList_ofList] at hm
      exact hm
    · intro h m
      rw [h, String.toList_inj]
  -- On lists of characters this is what the two kinds of conditions mean.
  rw [hlist, condition]
  cases a.isPattern with
  | true => simpa using NameCondition.satisfied_ofPattern_iff hne
  | false => simpa using NameCondition.satisfied_ofName hne

end SchemaArgument

namespace Enumeration

/-- The arguments of an enumeration for schemas. -/
def schemaArguments : Enumeration → List SchemaArgument
  | tables place .. => [⟨"TABLE_SCHEM", true, place.schema⟩]
  | columns place .. => [⟨"TABLE_SCHEM", true, place.schema⟩]
  | schemas place => [⟨"TABLE_SCHEM", true, place.schema⟩]
  | columnPrivileges place .. => [⟨"TABLE_SCHEMA", false, place.schema⟩]
  | tablePrivileges place .. => [⟨"TABLE_SCHEMA", true, place.schema⟩]
  | bestRowIdentifiers place .. => [⟨"TABLE_SCHEM", false, place.schema⟩]
  | versionColumns place .. => [⟨"TABLE_SCHEM", false, place.schema⟩]
  | primaryKeys place .. => [⟨"TABLE_SCHEM", false, place.schema⟩]
  | importedKeys place .. => [⟨"FKTABLE_SCHEM", false, place.schema⟩]
  | exportedKeys place .. => [⟨"PKTABLE_SCHEM", false, place.schema⟩]
  | crossReferences parent _ foreign _ =>
    [⟨"PKTABLE_SCHEM", false, parent.schema⟩, ⟨"FKTABLE_SCHEM", false, foreign.schema⟩]
  | indexes place .. => [⟨"TABLE_SCHEM", false, place.schema⟩]
  | procedures place .. => [⟨"PROCEDURE_SCHEM", true, place.schema⟩]
  | procedureColumns place .. => [⟨"PROCEDURE_SCHEM", true, place.schema⟩]
  | functions place .. => [⟨"ROUTINE_SCHEMA", true, place.schema⟩]
  | userTypes place .. => [⟨"TYPE_SCHEM", true, place.schema⟩]
  | attributes place .. => [⟨"TYPE_SCHEM", true, place.schema⟩]
  | superTypes place .. => [⟨"TYPE_SCHEM", true, place.schema⟩]
  | superTables place .. => [⟨"TABLE_SCHEM", true, place.schema⟩]
  | catalogs | tableTypes | typeInfo | clientProperties => []

/-- The clause of each schema argument is among those of its enumeration. -/
theorem clause_mem {e : Enumeration} {a : SchemaArgument} (h : a ∈ e.schemaArguments) :
    a.clause ∈ e.query.clauses := by
  cases e with
  | catalogs | tableTypes | typeInfo | clientProperties => cases h
  -- Cross references have two tables, and a schema argument for each.
  | crossReferences =>
    rcases List.mem_cons.1 h with rfl | h
    · simp [SchemaArgument.clause, query, CatalogQuery.ofView, CatalogQuery.select, Place.named]
    · rw [List.mem_singleton.1 h]
      simp [SchemaArgument.clause, query, CatalogQuery.ofView, CatalogQuery.select, Place.named]
  | _ =>
    rw [List.mem_singleton.1 h]
    simp [SchemaArgument.clause, query, CatalogQuery.ofView, CatalogQuery.select, Place.named,
      Place.matching]

/-- Columns have no quotes in their names. -/
theorem quote_not_mem_columns (e : Enumeration) :
    ∀ clause ∈ e.query.clauses, ∀ column ∈ clause.columns, '\'' ∉ column.toList := by
  cases e <;> simp [query, CatalogQuery.ofView, CatalogQuery.select, Place.named, Place.matching,
    Clause.columns]

/-- A text is read faster as the list of its characters than by its encoding. -/
theorem quote_not_mem_ofList {s : List Char} (h : '\'' ∉ s) : '\'' ∉ (String.ofList s).toList := by
  rwa [String.toList_ofList]

theorem quote_not_mem_append {a b : String} (ha : '\'' ∉ a.toList) (hb : '\'' ∉ b.toList) :
    '\'' ∉ (a ++ b).toList := by
  rw [String.toList_append, List.mem_append, not_or]
  exact ⟨ha, hb⟩

/-- A text that has a literal behind its first quotes-free part is read as code and this literal. -/
theorem readsAs_ofList {s name : List Char} (h : s.dropWhile (· != '\'') = literal name) :
    ReadsAs (String.ofList s).toList (code (s.takeWhile (· != '\'')) ++ [.literal name]) := by
  have hquote : '\'' ∉ s.takeWhile (· != '\'') := by
    intro hmem
    simpa using List.mem_takeWhile_imp hmem
  have hsplit : s = s.takeWhile (· != '\'') ++ literal name := by
    rw [← h, List.takeWhile_append_dropWhile]
  have hread := ReadsAs.code_append hquote (.literal name)
  rw [← hsplit] at hread
  rwa [String.toList_ofList]

theorem readsAs_append {a b : String} {ls : List Lexeme} (ha : '\'' ∉ a.toList)
    (hb : ReadsAs b.toList ls) : ReadsAs (a ++ b).toList (code a.toList ++ ls) := by
  rw [String.toList_append]
  exact .code_append ha hb

/-- The query for functions starts with a literal of its own. -/
theorem exists_readsAs_functionStart : ∃ ls, ReadsAs functionStart.toList ls := by
  have hend : ReadsAs "FROM INFORMATION_SCHEMA.ROUTINES WHERE ROUTINE_TYPE = 'FUNCTION'".toList _ :=
    readsAs_ofList (by decide +kernel : _ = literal "FUNCTION".toList)
  exact ⟨_, readsAs_append (quote_not_mem_append (quote_not_mem_append
    (quote_not_mem_ofList (by simp)) (quote_not_mem_ofList (by simp)))
    (quote_not_mem_ofList (by simp))) hend⟩

/-- What stands before the clauses of an enumeration can be read. -/
theorem exists_readsAs_start (e : Enumeration) : ∃ ls, ReadsAs e.query.start.toList ls := by
  have hselect {columns view : String} (hcolumns : '\'' ∉ columns.toList)
      (hview : '\'' ∉ view.toList) (clauses : List Clause) :
      ∃ ls, ReadsAs (CatalogQuery.select columns view clauses).start.toList ls :=
    ⟨_, .code (CatalogQuery.quote_not_mem_start hcolumns hview clauses)⟩
  -- Only the query for functions has a literal in its start, the others are all code.
  cases e with
  | functions => exact exists_readsAs_functionStart
  | superTypes | superTables =>
    exact ⟨_, .code (quote_not_mem_append (quote_not_mem_append (quote_not_mem_ofList (by simp))
      (quote_not_mem_ofList (by simp))) (quote_not_mem_ofList (by simp)))⟩
  | catalogs | tableTypes | clientProperties => exact ⟨_, .code (quote_not_mem_ofList (by simp))⟩
  | columnPrivileges | tablePrivileges | bestRowIdentifiers =>
    exact hselect (quote_not_mem_append (quote_not_mem_ofList (by simp))
      (quote_not_mem_ofList (by simp))) (quote_not_mem_ofList (by simp)) _
  | _ => exact hselect (quote_not_mem_ofList (by simp)) (quote_not_mem_ofList (by simp)) _

/-- The text of an enumeration is read as a start and its clauses. -/
theorem exists_lexemes?_text (e : Enumeration) :
    ∃ start, lexemes? none e.query.text.toList =
      some (start ++ e.query.clauses.flatMap Clause.lexemes) := by
  obtain ⟨start, hstart⟩ := e.exists_readsAs_start
  -- No clause starts with a quote, which could go on with a literal of the start.
  have hclauses := Clause.readsAs_flatMap e.quote_not_mem_columns
  have hread := hstart.append hclauses (Clause.head?_flatMap_chars _) [] nofun
  refine ⟨start, ?_⟩
  rw [List.append_nil, ← CatalogQuery.toList_text] at hread
  rw [hread]
  simp [lexemes?]

end Enumeration

/-! ## Where conditions stand -/

/-- A condition on a column stands in a text, among other clauses of a query. -/
def StandsIn (sql column : String) (P : NameCondition) : Prop :=
  ∃ (start : List Lexeme) (before after : List Clause),
    lexemes? none sql.toList = some (start ++
      (before.flatMap Clause.lexemes ++ P.lexemes column ++ after.flatMap Clause.lexemes))

/-- The condition of an argument stands in the text of its enumeration. -/
theorem standsIn_condition {e : Enumeration} {a : SchemaArgument} (ha : a ∈ e.schemaArguments)
    {name : String} (hname : a.name = some name) :
    StandsIn e.query.text a.column (a.condition name) := by
  obtain ⟨start, htext⟩ := e.exists_lexemes?_text
  obtain ⟨before, after, hclauses⟩ := List.append_of_mem (Enumeration.clause_mem ha)
  refine ⟨start, before, after, ?_⟩
  rw [htext, hclauses, List.flatMap_append, List.flatMap_cons, SchemaArgument.lexemes_clause hname,
    List.append_assoc]

end SqlAccess
