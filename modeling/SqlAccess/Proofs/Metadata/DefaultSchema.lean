import SqlAccess.Metadata.Listing
import SqlAccess.Proofs.Action
import SqlAccess.Proofs.Catalog.SchemaArgument

/-!
# The session's own schema in catalog listings

With the setting for it, an empty schema argument of a listing stands for the session's own schema.
Its name is asked from the engine first (`Metadata.ownSchema_of_usesOwnSchema`), and nothing that is
asked before the listing is sent changes the answer (`KeepsSession`). The name then takes the place
of the argument (`Enumeration.schemaArguments_mapPlaces`), and the condition on it stands in the
text that is sent (`standsIn_condition`). As the name is not escaped on the way, an enumeration that
takes a pattern reads its wildcards as such: the condition is satisfied by the session's own schema
alone if the name holds no wildcard or the enumeration takes a name, and only then
(`Metadata.list_emptySchema`).
-/

namespace SqlAccess

open SqlAccess.Text

/-! ## Asking for the session's own names -/

/-- Rows with a name as their first value. -/
def RowSet.Shows (rows : RowSet) (name : String) : Prop :=
  ∃ v cells more, rows.columns ≠ [] ∧ rows.rows = (v :: cells) :: more ∧ v.isNull = false ∧
    v.text = name

/-- The question for the session's own schema. -/
def defaultSchemaQuery : String :=
  "SELECT SCHEMA_NAME FROM INFORMATION_SCHEMA.SYSTEM_SCHEMAS WHERE IS_DEFAULT=TRUE"

/-- The question for the database's own catalog. -/
def defaultCatalogQuery : String :=
  "SELECT CATALOG_NAME FROM INFORMATION_SCHEMA.INFORMATION_SCHEMA_CATALOG_NAME"

/-- A call that asks for a name and changes none. -/
def Call.AsksOwnName (call : Call) : Prop :=
  ∃ r, call = .execute r ∧ (r.sql = defaultSchemaQuery ∨ r.sql = defaultCatalogQuery)

namespace Connection

/-- The engine answers a text with rows that show a name, also after it was asked for names. -/
def Reports (c : Connection) (sql name : String) : Prop :=
  ∀ asked : List Call, (∀ call ∈ asked, call.AsksOwnName) → ∀ r, r.sql = sql →
    ∃ response rows rest, c.engine.answer (c.calls ++ asked) (.execute r) = .ok response ∧
      response.results = .rows rows :: rest ∧ rows.Shows name

/-- A connection after some time in which it only asked for names. -/
structure SameSession (c c' : Connection) : Prop where
  config : c'.config = c.config
  engine : c'.engine = c.engine
  closed : c'.closed = c.closed
  calls : ∃ asked, c'.calls = c.calls ++ asked ∧ ∀ call ∈ asked, call.AsksOwnName

namespace SameSession

variable {c c' c'' : Connection}

theorem refl (c : Connection) : c.SameSession c where
  config := rfl
  engine := rfl
  closed := rfl
  calls := ⟨[], by simp⟩

/-- A session that was asked for names may be asked for more of them. -/
theorem trans (h : c.SameSession c') (h' : c'.SameSession c'') : c.SameSession c'' where
  config := h'.config.trans h.config
  engine := h'.engine.trans h.engine
  closed := h'.closed.trans h.closed
  calls := by
    obtain ⟨asked, hcalls, hasked⟩ := h.calls
    obtain ⟨asked', hcalls', hasked'⟩ := h'.calls
    refine ⟨asked ++ asked', by rw [hcalls', hcalls, List.append_assoc], fun call hcall => ?_⟩
    rcases List.mem_append.1 hcall with hcall | hcall
    · exact hasked call hcall
    · exact hasked' call hcall

/-- To ask for a name leaves the session as it is. -/
theorem log (c : Connection) {call : Call} (h : call.AsksOwnName) : c.SameSession (c.log call) where
  config := rfl
  engine := rfl
  closed := rfl
  calls := ⟨[call], rfl, by simpa using h⟩

end SameSession

/-- What the engine reports it still reports after it was asked for names. -/
theorem Reports.later {c c' : Connection} {sql name : String} (h : c.Reports sql name)
    (hsame : c.SameSession c') : c'.Reports sql name := by
  obtain ⟨asked, hcalls, hasked⟩ := hsame.calls
  intro more hmore
  have hboth : ∀ call ∈ asked ++ more, call.AsksOwnName := by
    intro call hcall
    rcases List.mem_append.1 hcall with hcall | hcall
    · exact hasked call hcall
    · exact hmore call hcall
  rw [hsame.engine, hcalls, List.append_assoc]
  exact h _ hboth

/-- An open connection that takes empty schemas to the session's own, which has this name. -/
structure UsesOwnSchema (c : Connection) (d : String) : Prop where
  opened : c.closed = false
  config : c.config.defaultSchema = true
  reports : c.Reports defaultSchemaQuery d

/-- The session's own schema is the same after the engine was asked for names. -/
theorem UsesOwnSchema.later {c c' : Connection} {d : String} (h : c.UsesOwnSchema d)
    (hsame : c.SameSession c') : c'.UsesOwnSchema d where
  opened := hsame.closed.trans h.opened
  config := (congrArg Config.defaultSchema hsame.config).trans h.config
  reports := h.reports.later hsame

end Connection

/-- An action that, if it succeeds, only asked for names. -/
def KeepsSession {α : Type} (a : Action α) : Prop :=
  ∀ c v c', a c = .ok v c' → c.SameSession c'

namespace KeepsSession

variable {α β : Type}

theorem pure (v : α) : KeepsSession (Pure.pure v) := by
  intro c _ _ h
  cases h
  exact .refl c

theorem get : KeepsSession get := by
  intro c _ _ h
  cases h
  exact .refl c

theorem throw (e : Error) : KeepsSession (throw e : Action α) := by
  intro c _ _ h
  cases h

theorem ofExcept (x : Except Error α) : KeepsSession (MonadExcept.ofExcept x : Action α) := by
  cases x with
  | error e => exact .throw e
  | ok v => exact .pure v

theorem checkOpen : KeepsSession Connection.checkOpen := by
  intro c v c' h
  unfold Connection.checkOpen at h
  split at h
  · cases h
    exact .refl c
  · cases h

theorem ask {call : Call} (hcall : call.AsksOwnName) : KeepsSession (Connection.ask call) := by
  intro c v c' h
  unfold Connection.ask at h
  split at h
  · cases h
    exact .log c hcall
  · cases h

/-- Two actions keep the session if each of them does. -/
theorem bind {a : Action α} {f : α → Action β} (ha : KeepsSession a)
    (hf : ∀ v, KeepsSession (f v)) : KeepsSession (a >>= f) := by
  intro c v c'' h
  -- The second action starts where the first one, which succeeded, has ended.
  obtain ⟨u, c', hfirst, hnext⟩ := action_bind_eq_ok_iff.1 h
  exact (ha c u c' hfirst).trans (hf u c' v c'' hnext)

end KeepsSession

namespace Metadata

variable {c c' : Connection}

/-- To ask for the database's own catalog is to ask for a name. -/
theorem keepsSession_defaultCatalog : KeepsSession defaultCatalog := by
  have hrows : KeepsSession (rows defaultCatalogQuery) := by
    refine (KeepsSession.checkOpen.bind fun _ => .bind .get fun _ =>
      .bind (.ask ⟨_, rfl, .inr rfl⟩) fun _ => ?_).bind fun _ => .pure _
    split
    · exact .pure _
    · exact .throw _
  exact (hrows.bind fun _ => .ofExcept _).bind fun _ => .pure _

/-- To fill in a catalog asks for a name at most. -/
theorem keepsSession_ownCatalog (name : Option String) : KeepsSession (ownCatalog name) := by
  refine KeepsSession.get.bind fun _ => ?_
  split
  · exact keepsSession_defaultCatalog.bind fun _ => .pure _
  · exact .pure _

/-- The request that a query on the catalog makes. -/
def request (c : Connection) (sql : String) : Request :=
  { Request.direct sql with fetchSize := c.config.fetchSize, scrolling := .insensitive }

/-- On an open connection a query on the catalog asks the engine at once. -/
theorem rows_of_open (hopen : c.closed = false) (sql : String) :
    rows sql c = (do
      let response ← Connection.ask (.execute (request c sql))
      let rs ← (match response.results with
        | .rows r :: _ => return .ofRowSet r c.config.timeZone .insensitive
        | _ => throw Error.noResultSet : Action ResultSet)
      return { rs with closeOnCompletion := true }) c := by
  have hget : (get : Action Connection) c = .ok c c := rfl
  unfold rows Connection.queryNative
  rw [bind_assoc, bind_of_ok (Connection.checkOpen_of_open hopen), bind_assoc, bind_of_ok hget]
  dsimp only
  rw [bind_assoc]
  -- The two agree on what is made of an answer, which the kind of its first result decides.
  refine congrFun (bind_congr fun response => ?_) c
  cases response.results with
  | nil => rfl
  | cons first rest => cases first <;> rfl

/-- A query on the catalog is one call, whatever the engine answers. -/
theorem after_rows (hopen : c.closed = false) (sql : String) :
    Connection.after (rows sql) c = c.log (.execute (request c sql)) := by
  rw [Connection.after, rows_of_open hopen]
  -- The call is in the log before the answer is looked at.
  cases hanswer : c.engine.answer c.calls (.execute (request c sql)) with
  | error e => rw [bind_of_error (Connection.ask_of_error hanswer)]
  | ok response =>
    rw [bind_of_ok (Connection.ask_of_ok hanswer)]
    cases response.results with
    | nil => rfl
    | cons first rest => cases first <;> rfl

/-- The rows of a query on the catalog are the first result of the answer. -/
theorem rows_of_answer (hopen : c.closed = false) {sql : String} {response : Response}
    {r : RowSet} {rest : ResultChain}
    (hanswer : c.engine.answer c.calls (.execute (request c sql)) = .ok response)
    (hrows : response.results = .rows r :: rest) :
    rows sql c = .ok { ResultSet.ofRowSet r c.config.timeZone .insensitive with
      closeOnCompletion := true } (c.log (.execute (request c sql))) := by
  rw [rows_of_open hopen, bind_of_ok (Connection.ask_of_ok hanswer), hrows]
  rfl

/-- Before the first row, the first value is the one that this row starts with. -/
theorem firstValue_of_row {rs : ResultSet} {column : Column} {columns : List Column} {v : Value}
    {cells : Row} {more : List Row} (hopen : rs.closed = false) (hstart : rs.position = 0)
    (hcolumns : rs.columns = column :: columns) (hrows : rs.rows = (v :: cells) :: more) :
    firstValue rs = .ok v := by
  have hmove : rs.move .next = .ok (true, { rs with position := 1 }) := by
    simp [ResultSet.move, ResultSet.requireOpen, ResultSet.onRow, Move.needsScrolling,
      Move.destination, hopen, hstart, hrows]
  have hget : (ResultSet.get { rs with position := 1 } (.ordinal 1) .object).1 = .ok v := by
    simp [ResultSet.get, ResultSet.fetch, ResultSet.requireOpen, ResultSet.resolve,
      ResultSet.columnAt, ResultSet.currentRow, hopen, hcolumns, hrows]
    rfl
  rw [firstValue, hmove]
  exact hget

/-- A query whose answer shows a name gives this name. -/
theorem scalarText_of_reports (hopen : c.closed = false) {sql name : String}
    (h : c.Reports sql name) :
    scalarText sql c = .ok (some name) (c.log (.execute (request c sql))) := by
  obtain ⟨response, r, rest, hanswer, hresults, v, cells, more, hcolumns, hrow, hnull, htext⟩ :=
    h [] nofun (request c sql) rfl
  rw [List.append_nil] at hanswer
  -- The rows have a column, and their first one a first value.
  obtain ⟨column, columns, hcons⟩ := List.exists_cons_of_ne_nil hcolumns
  have hvalue : scalar sql c = .ok v (c.log (.execute (request c sql))) := by
    unfold scalar
    rw [bind_of_ok (rows_of_answer hopen hanswer hresults)]
    rw [firstValue_of_row rfl rfl hcons hrow]
    rfl
  unfold scalarText
  rw [bind_of_ok hvalue, hnull, htext]
  rfl

/-- A schema argument is taken to the session's own schema if it is empty. -/
theorem ownSchema_of_usesOwnSchema {d : String} (h : c.UsesOwnSchema d) (name : Option String) :
    ∃ c', ownSchema name c = .ok (if name = some "" then some d else name) c' ∧
      c.SameSession c' := by
  have hget : (get : Action Connection) c = .ok c c := rfl
  unfold ownSchema
  rw [bind_of_ok hget]
  -- The engine is asked only for an empty name.
  by_cases hempty : name = some ""
  · rw [if_pos ⟨hempty, h.config⟩, if_pos hempty]
    refine ⟨_, ?_, .log c ⟨request c defaultSchemaQuery, rfl, .inl rfl⟩⟩
    have hname : defaultSchema c = .ok (some d) _ := scalarText_of_reports h.opened h.reports
    rw [bind_of_ok hname]
    rfl
  · rw [if_neg fun h => hempty h.1, if_neg hempty]
    exact ⟨c, rfl, .refl c⟩

/-- A catalog argument does not fail if the database tells its own name. -/
theorem exists_ownCatalog {d : String} (h : c.UsesOwnSchema d) {own : String}
    (hcatalog : c.Reports defaultCatalogQuery own) (name : Option String) :
    ∃ name' c', ownCatalog name c = .ok name' c' := by
  have hget : (get : Action Connection) c = .ok c c := rfl
  unfold ownCatalog
  rw [bind_of_ok hget]
  split
  · have hname : defaultCatalog c = .ok (some own) _ := scalarText_of_reports h.opened hcatalog
    rw [bind_of_ok hname]
    exact ⟨_, _, rfl⟩
  · exact ⟨_, _, rfl⟩

/-- The schema of a place is taken to the session's own schema if it is empty. -/
theorem schema_of_ownPlace {d : String} (h : c.UsesOwnSchema d) {p p' : Place}
    (hplace : ownPlace p c = .ok p' c') :
    p'.schema = (if p.schema = some "" then some d else p.schema) ∧ c'.UsesOwnSchema d := by
  -- The catalog may be asked for first, which leaves the answer for the schema as it is.
  obtain ⟨catalog, c₁, hcatalog, hplace⟩ := action_bind_eq_ok_iff.1 hplace
  have h₁ := h.later (keepsSession_ownCatalog _ _ _ _ hcatalog)
  obtain ⟨schema, c₂, hschema, hplace⟩ := action_bind_eq_ok_iff.1 hplace
  obtain ⟨c₃, hown, hsame⟩ := ownSchema_of_usesOwnSchema h₁ p.schema
  rw [hown] at hschema
  cases hschema
  cases hplace
  exact ⟨rfl, h₁.later hsame⟩

/-- No place fails if the database tells its own name. -/
theorem exists_ownPlace {d : String} (h : c.UsesOwnSchema d) {own : String}
    (hcatalog : c.Reports defaultCatalogQuery own) (p : Place) :
    ∃ p' c', ownPlace p c = .ok p' c' ∧ c.SameSession c' := by
  obtain ⟨catalog, c₁, hfirst⟩ := exists_ownCatalog h hcatalog p.catalog
  -- The catalog is filled in first, and the schema is asked for in the same session.
  have hsame := keepsSession_ownCatalog _ _ _ _ hfirst
  obtain ⟨c₂, hschema, hsame'⟩ := ownSchema_of_usesOwnSchema (h.later hsame) p.schema
  unfold ownPlace
  rw [bind_of_ok hfirst, bind_of_ok hschema]
  exact ⟨_, _, rfl, hsame.trans hsame'⟩

end Metadata

/-! ## Filling in places -/

namespace Enumeration

variable {c c' : Connection} {f : Place → Action Place} {I : Connection → Prop}

/-- Where a step takes each schema to another name, an enumeration asks for these schemas. -/
theorem schemaArguments_mapPlaces {g : Option String → Option String}
    (hf : ∀ p c p' c', I c → f p c = .ok p' c' → p'.schema = g p.schema ∧ I c')
    {e e' : Enumeration} (hI : I c) (h : e.mapPlaces f c = .ok e' c') :
    e'.schemaArguments = e.schemaArguments.map (fun a => { a with name := g a.name }) ∧ I c' := by
  cases e with
  | catalogs | tableTypes | typeInfo | clientProperties =>
    cases h
    exact ⟨rfl, hI⟩
  | crossReferences parent parentTable foreign foreignTable =>
    -- The second place is filled in after the first one, on another connection.
    obtain ⟨parent', c₁, hparent, h⟩ := action_bind_eq_ok_iff.1 h
    obtain ⟨foreign', c₂, hforeign, h⟩ := action_bind_eq_ok_iff.1 h
    obtain ⟨hp, hI₁⟩ := hf _ _ _ _ hI hparent
    obtain ⟨hq, hI₂⟩ := hf _ _ _ _ hI₁ hforeign
    cases h
    exact ⟨by simp [schemaArguments, hp, hq], hI₂⟩
  | _ =>
    obtain ⟨place, c₁, hplace, h⟩ := action_bind_eq_ok_iff.1 h
    obtain ⟨hp, hI₁⟩ := hf _ _ _ _ hI hplace
    cases h
    exact ⟨by simp [schemaArguments, hp], hI₁⟩

/-- A step that never fails takes all places of an enumeration. -/
theorem exists_mapPlaces (hf : ∀ p c, I c → ∃ p' c', f p c = .ok p' c' ∧ I c') (e : Enumeration)
    (hI : I c) : ∃ e' c', e.mapPlaces f c = .ok e' c' := by
  cases e with
  | catalogs | tableTypes | typeInfo | clientProperties => exact ⟨_, _, rfl⟩
  | crossReferences parent parentTable foreign foreignTable =>
    obtain ⟨parent', c₁, hparent, hI₁⟩ := hf parent c hI
    obtain ⟨foreign', c₂, hforeign, -⟩ := hf foreign c₁ hI₁
    refine ⟨crossReferences parent' parentTable foreign' foreignTable, c₂, ?_⟩
    rw [mapPlaces, bind_of_ok hparent, bind_of_ok hforeign]
    rfl
  | _ =>
    obtain ⟨place, c₁, hplace, -⟩ := hf _ c hI
    exact ⟨_, _, action_bind_eq_ok_iff.2 ⟨_, _, hplace, rfl⟩⟩

end Enumeration

/-! ## Listings -/

namespace Metadata

variable {c c' : Connection}

/-- No listing fails on its places if the database tells its own name. -/
theorem exists_places {d : String} (h : c.UsesOwnSchema d) {own : String}
    (hcatalog : c.Reports defaultCatalogQuery own) (e : Enumeration) :
    ∃ e' c', e.mapPlaces ownPlace c = .ok e' c' := by
  refine Enumeration.exists_mapPlaces
    (I := fun c => c.UsesOwnSchema d ∧ c.Reports defaultCatalogQuery own) ?_ e ⟨h, hcatalog⟩
  intro p c hc
  obtain ⟨p', c', hplace, hsame⟩ := exists_ownPlace hc.1 hc.2 p
  exact ⟨p', c', hplace, hc.1.later hsame, hc.2.later hsame⟩

/-- For an empty schema argument, a listing sends the condition of the session's own schema. -/
theorem list_sends {d : String} (h : c.UsesOwnSchema d) {e e' : Enumeration}
    (hplaces : e.mapPlaces ownPlace c = .ok e' c') : ∃ r,
      (Connection.after (list e) c).calls = c'.calls ++ [.execute r] ∧
      ∀ a ∈ e.schemaArguments, a.name = some "" → StandsIn r.sql a.column (a.condition d) := by
  obtain ⟨harguments, hc'⟩ := Enumeration.schemaArguments_mapPlaces (f := ownPlace)
    (g := fun name => if name = some "" then some d else name)
    (fun _ _ _ _ hc hplace => schema_of_ownPlace hc hplace) h hplaces
  refine ⟨request c' e'.query.text, ?_, fun a ha hempty => ?_⟩
  · -- Once the places are filled in, the listing is one query.
    have hlist : Connection.after (list e) c = Connection.after (rows e'.query.text) c' := by
      unfold Connection.after list
      rw [bind_of_ok hplaces]
    rw [hlist, after_rows hc'.opened]
    rfl
  · -- The argument stands in the enumeration that is sent, with the name filled in.
    have ha' : { a with name := some d } ∈ e'.schemaArguments := by
      rw [harguments]
      refine List.mem_map.2 ⟨a, ha, ?_⟩
      rw [hempty, if_pos rfl]
    exact standsIn_condition ha' rfl

/-- The engine that answers each text with one row, which holds a name. -/
def showing (name : String) : Engine where
  answer
    | _, .execute _ => .ok ⟨[.rows ⟨[.described "NAME" .varChar], [[.string name]]⟩], []⟩
    | _, _ => .error .connectionClosed

/-- A connection whose catalog and schema have this name. -/
def inSchema (name : String) : Connection :=
  .ofConfig { (default : Config) with defaultSchema := true } (showing name)

/-- Whatever is asked there, the answer is the name. -/
theorem reports_inSchema (sql name : String) : (inSchema name).Reports sql name := by
  intro asked _ r _
  refine ⟨_, _, [], rfl, rfl, .string name, [], [], ?_, rfl, rfl, ?_⟩
  · exact List.cons_ne_nil _ _
  · rw [← String.toList_inj, Value.toList_text]
    rfl

theorem usesOwnSchema_inSchema (name : String) : (inSchema name).UsesOwnSchema name where
  opened := rfl
  config := rfl
  reports := reports_inSchema _ name

/-- In a listing, an empty schema argument means the session's own schema, and no other schema,
exactly if this name holds no wildcard or the enumeration takes names. -/
theorem list_emptySchema {d : String} (h : c.UsesOwnSchema d) (hd : d ≠ "") (e : Enumeration) :
    (∀ own, c.Reports defaultCatalogQuery own → ∃ e' c', e.mapPlaces ownPlace c = .ok e' c') ∧
    ∀ e' c', e.mapPlaces ownPlace c = .ok e' c' → ∃ r,
      (Connection.after (list e) c).calls = c'.calls ++ [.execute r] ∧
      ∀ a ∈ e.schemaArguments, a.name = some "" → ∃ P, StandsIn r.sql a.column P ∧
        ((∀ m : String, P.Satisfied m.toList ↔ m = d) ↔
          (a.isPattern = true → ¬HasWildcard d.toList)) := by
  constructor
  · intro own hcatalog
    exact exists_places h hcatalog e
  · intro e' c' hplaces
    -- What is sent has the condition for the name, and that tells who satisfies it.
    obtain ⟨r, hcalls, hsent⟩ := list_sends h hplaces
    refine ⟨r, hcalls, fun a ha hempty => ⟨a.condition d, hsent a ha hempty, ?_⟩⟩
    exact a.satisfied_condition_iff hd

/-- A quote in the name of the schema does not matter. -/
theorem list_emptySchema_quote : ∃ r,
    .execute r ∈ (Connection.after (list (.tables ⟨none, some ""⟩ (some "ORDERS") none))
      (inSchema "O'BRIEN")).calls ∧
    ∃ P, StandsIn r.sql "TABLE_SCHEM" P ∧ ∀ m : String, P.Satisfied m.toList ↔ m = "O'BRIEN" := by
  obtain ⟨hplaces, hlist⟩ := list_emptySchema (usesOwnSchema_inSchema "O'BRIEN") (by decide)
    (.tables ⟨none, some ""⟩ (some "ORDERS") none)
  obtain ⟨e', c', hplaces⟩ := hplaces "O'BRIEN" (reports_inSchema _ _)
  obtain ⟨r, hcalls, hsent⟩ := hlist e' c' hplaces
  obtain ⟨P, hstands, hexact⟩ := hsent ⟨"TABLE_SCHEM", true, some ""⟩ (.head _) rfl
  refine ⟨r, ?_, P, hstands, hexact.2 fun _ => ?_⟩
  · rw [hcalls]
    simp
  · simp [HasWildcard]

/-- An underscore in the name of the schema lets other schemas in. -/
theorem list_emptySchema_underscore : ∃ r,
    .execute r ∈ (Connection.after (list (.tables ⟨none, some ""⟩ (some "ORDERS") none))
      (inSchema "MY_APP")).calls ∧
    StandsIn r.sql "TABLE_SCHEM" (.like "MY_APP".toList none) ∧
    (NameCondition.like "MY_APP".toList none).Satisfied "MYxAPP".toList := by
  have hown := usesOwnSchema_inSchema "MY_APP"
  obtain ⟨e', c', hplaces⟩ := exists_places hown (reports_inSchema _ _)
    (.tables ⟨none, some ""⟩ (some "ORDERS") none)
  obtain ⟨r, hcalls, hsent⟩ := list_sends hown hplaces
  refine ⟨r, ?_, hsent ⟨"TABLE_SCHEM", true, some ""⟩ (.head _) rfl, ?_⟩
  · rw [hcalls]
    simp
  · exact Like.like_filled "MY_APP".toList

end Metadata

end SqlAccess
