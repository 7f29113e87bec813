import SqlAccess.Client.Command
import SqlAccess.Proofs.Action

/-!
# What actions do to a connection

Closing is special: every other action leaves a connection open or closed as it was, and adds calls
to its log that do not end the session, or no call at all if the connection is closed. A connection
that came about in this way continues the one before (`Continues`), and actions that only ever lead
to such connections are orderly (`Orderly`). An action is orderly if its parts are, where a part
that comes after a check only has to be orderly on open connections.
-/

namespace SqlAccess

/-- The call that ends the session. -/
def Call.isClose : Call → Bool
  | .close => true
  | _ => false

namespace Connection

/-- What an action leaves is the state that it ends in, whether it fails or not. -/
theorem after_eq {α : Type} (a : Action α) (c : Connection) : after a c = finalState (a c) := by
  unfold after
  cases a c <;> rfl

/-- A connection after some time in which nobody closed it. -/
structure Continues (c c' : Connection) : Prop where
  closed : c'.closed = c.closed
  calls : ∃ made : List Call, c'.calls = c.calls ++ made ∧ (∀ call ∈ made, call.isClose = false) ∧
    (c.closed = true → made = [])

namespace Continues

theorem refl (c : Connection) : c.Continues c where
  closed := rfl
  calls := ⟨[], by simp⟩

/-- A connection that continues another goes on with all that the other continues. -/
theorem trans {a b c : Connection} (hab : a.Continues b) (hbc : b.Continues c) : a.Continues c where
  closed := hbc.closed.trans hab.closed
  calls := by
    obtain ⟨made, hmade, hkind, hnone⟩ := hab.calls
    obtain ⟨more, hmore, hkind', hnone'⟩ := hbc.calls
    refine ⟨made ++ more, by rw [hmore, hmade, List.append_assoc], ?_, ?_⟩
    · intro call hcall
      rcases List.mem_append.1 hcall with h | h
      · exact hkind call h
      · exact hkind' call h
    · -- On a closed connection, neither part made a call.
      intro hclosed
      rw [hnone hclosed, hnone' (hab.closed.trans hclosed), List.append_nil]

/-- An open connection may make any call but the one that ends the session. -/
theorem log {c : Connection} (hopen : c.closed = false) {call : Call}
    (hcall : call.isClose = false) : c.Continues (c.log call) where
  closed := rfl
  calls := by
    refine ⟨[call], rfl, ?_, ?_⟩
    · intro other hother
      rw [List.mem_singleton.1 hother, hcall]
    · intro hclosed
      rw [hopen] at hclosed
      cases hclosed

end Continues

end Connection

/-! ## Orderly actions -/

/-- An action that leads to a connection that continues the one before. If it comes after a check,
this is said of open connections only. -/
def Orderly {α : Type} (checked : Bool) (a : Action α) : Prop :=
  ∀ c : Connection, (checked = true → c.closed = false) → c.Continues (Connection.after a c)

namespace Orderly

variable {α β : Type} {checked : Bool}

theorem pure (a : α) : Orderly checked (Pure.pure a) := fun c _ => .refl c

theorem throw (e : Error) : Orderly checked (throw e : Action α) := fun c _ => .refl c

theorem get : Orderly checked get := fun c _ => .refl c

theorem ofExcept (x : Except Error α) : Orderly checked (MonadExcept.ofExcept x : Action α) := by
  cases x with
  | error e => exact .throw e
  | ok a => exact .pure a

/-- An action is orderly if its first part is and the second one is for every value. -/
theorem bind {a : Action α} {f : α → Action β} (ha : Orderly checked a)
    (hf : ∀ v, Orderly checked (f v)) : Orderly checked (a >>= f) := by
  intro c hopen
  have hfirst := ha c hopen
  unfold Connection.after at hfirst ⊢
  cases h : a c with
  | error e c' =>
    rw [bind_of_error h]
    rw [h] at hfirst
    exact hfirst
  | ok v c' =>
    rw [bind_of_ok h]
    rw [h] at hfirst
    -- The first action did not close the connection, so that it is still open for the second one.
    exact hfirst.trans (hf v c' fun hchecked => hfirst.closed.trans (hopen hchecked))

/-- What is made of the value of an orderly action makes no difference. -/
theorem returning {a : Action α} (ha : Orderly checked a) (f : α → β) :
    Orderly checked (do return f (← a)) :=
  ha.bind fun v => .pure (f v)

/-- What comes after a check is only done on an open connection. -/
theorem afterCheck {f : Unit → Action α} (hf : Orderly true (f ())) :
    Orderly checked (Connection.checkOpen >>= f) := by
  intro c _
  unfold Connection.after
  cases hc : c.closed with
  | true =>
    rw [bind_of_error (Connection.checkOpen_of_closed hc)]
    exact .refl c
  | false =>
    rw [bind_of_ok (Connection.checkOpen_of_open hc)]
    exact hf c fun _ => hc

/-- To ask the engine for anything but the end of the session is orderly on open connections. -/
theorem ask {call : Call} (hcall : call.isClose = false) : Orderly true (Connection.ask call) := by
  intro c hopen
  rw [Connection.after_ask]
  exact .log (hopen rfl) hcall

/-! ## Connections -/

/-- A query asks the engine once. -/
theorem queryNative (sql : String) (scrolling : Scrolling) :
    Orderly false (Connection.queryNative sql scrolling) := by
  refine afterCheck (get.bind fun c => (ask rfl).bind fun response => ?_)
  split
  · exact .pure _
  · exact .throw _

/-- An update asks the engine once. -/
theorem execute (sql : String) : Orderly false (Connection.execute sql) := by
  refine afterCheck ((ask rfl).bind fun response => ?_)
  split
  · exact .throw _
  · exact .pure _
  · exact .pure _

theorem nativeSql (sql : String) : Orderly false (Connection.nativeSql sql) :=
  afterCheck (.pure _)

/-- The mode of commits is set behind the answer of the engine. -/
theorem setAutoCommit (on : Bool) : Orderly false (Connection.setAutoCommit on) := by
  refine afterCheck ((ask rfl).bind fun _ => ?_)
  -- Only the flag is set, which is no call.
  intro c _
  exact ⟨rfl, [], (List.append_nil c.calls).symm, nofun, fun _ => rfl⟩

theorem prepare (sql : String) : Orderly false (PreparedStatement.prepare sql) :=
  afterCheck ((ask rfl).bind fun _ => get.bind fun _ => .pure _)

/-- All commands on a connection but the one that closes it are orderly. -/
theorem connectionCommand {cmd : ConnectionCommand} (h : cmd ≠ .close) :
    Orderly false cmd.perform := by
  -- Each command checks first, or only looks at the connection.
  cases cmd with
  | prepareStatement sql => exact (prepare sql).returning _
  | prepareCall sql => exact (prepare sql).returning _
  | query sql => exact (queryNative _ _).returning _
  | openMetadata => exact afterCheck (.pure _)
  | execute sql => exact (execute sql).returning _
  | nativeSql sql => exact (nativeSql sql).returning _
  | commit => exact (afterCheck (ask rfl)).bind fun _ => .pure _
  | rollback => exact (afterCheck (ask rfl)).bind fun _ => .pure _
  | setAutoCommit on => exact (setAutoCommit on).bind fun _ => .pure _
  | autoCommit => exact get.returning _
  | close => exact absurd rfl h
  | isClosed => exact get.returning _

/-! ## Metadata -/

theorem rows (sql : String) : Orderly false (Metadata.rows sql) :=
  (queryNative sql .insensitive).returning _

theorem scalar (sql : String) : Orderly false (Metadata.scalar sql) :=
  (rows sql).bind fun _ => .ofExcept _

theorem scalarText (sql : String) : Orderly false (Metadata.scalarText sql) :=
  (scalar sql).returning _

theorem ownCatalog (name : Option String) : Orderly false (Metadata.ownCatalog name) := by
  refine get.bind fun c => ?_
  split
  · exact (scalarText _).returning _
  · exact .pure _

theorem ownSchema (name : Option String) : Orderly false (Metadata.ownSchema name) := by
  refine get.bind fun c => ?_
  split
  · exact (scalarText _).returning _
  · exact .pure _

theorem ownPlace (p : Place) : Orderly false (Metadata.ownPlace p) :=
  (ownCatalog p.catalog).bind fun _ => (ownSchema p.schema).bind fun _ => .pure _

theorem mapPlaces {f : Place → Action Place} (hf : ∀ p, Orderly false (f p)) (e : Enumeration) :
    Orderly false (e.mapPlaces f) := by
  -- Cross references have two places, some enumerations none, and the others one.
  cases e with
  | crossReferences parent _ foreign _ =>
    exact (hf parent).bind fun _ => (hf foreign).bind fun _ => .pure _
  | catalogs => exact .pure _
  | tableTypes => exact .pure _
  | typeInfo => exact .pure _
  | clientProperties => exact .pure _
  | _ => exact (hf _).returning _

/-- An enumeration asks for the names that are missing, and then for its rows. -/
theorem list (e : Enumeration) : Orderly false (Metadata.list e) :=
  (mapPlaces ownPlace e).bind fun _ => rows _

theorem bestRowIdentifiers (place : Place) (table : String) (scope : Int) (nullable : Bool) :
    Orderly false (Metadata.bestRowIdentifiers place table scope nullable) := by
  unfold Metadata.bestRowIdentifiers
  split
  · exact list _
  · exact .throw _

theorem isReadOnly : Orderly false Metadata.isReadOnly := by
  refine (scalar _).bind fun v => ?_
  split
  · exact .pure _
  · exact .pure _
  · exact .throw _

theorem productVersion : Orderly false Metadata.productVersion :=
  (scalarText _).returning _

theorem nullOrdering : Orderly false Metadata.nullOrdering :=
  (rows _).bind fun _ => (ofExcept _).returning _

/-- All commands on metadata are orderly. -/
theorem metadataCommand (cmd : MetadataCommand) : Orderly false cmd.perform := by
  cases cmd with
  | list e => exact (list e).returning _
  | bestRowIdentifiers place table scope nullable =>
    exact (bestRowIdentifiers place table scope nullable).returning _
  | pseudoColumns => exact (Orderly.throw _).returning _
  | productVersion => exact productVersion.returning _
  | majorVersion => exact (productVersion.returning _).returning _
  | minorVersion => exact (productVersion.returning _).returning _
  | userName => exact ((scalarText _).returning _).returning _
  | isReadOnly => exact isReadOnly.returning _
  | defaultSchema => exact (scalarText _).returning _
  | defaultCatalog => exact (scalarText _).returning _
  | isConnectionClosed => exact get.returning _
  -- The four questions about the order of NULL.
  | _ => exact nullOrdering.returning _

end Orderly

end SqlAccess
