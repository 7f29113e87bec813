import SqlAccess.Proofs.Result.Cursor
import SqlAccess.Proofs.Statement.Output

/-!
# Whether the value read last was NULL

Result sets and callable statements keep a mark for this question. What a getter fetches is said
here by the place of the cursor and by the slots alone (`ResultSet.found?`,
`ParameterBuffer.output?`), and the mark is that of the last value that the getters of a run
fetched; it is not set if there is none (`lastWasNull_run`).

What a single getter does is the same for both (`Getter.NotesNull`). If it fetches nothing, it fails
and changes nothing. If it fetches NULL, it succeeds and answers what its NULL looks like
(`Getter.ofNull`). So a getter that fails on a value has noted that there was one.
-/

namespace SqlAccess

open SqlAccess.Number SqlAccess.Calendar

/-! ## Getters -/

namespace Getter

/-- The value that a getter fetches out of one that it finds; a getter that is not supported does
not look at it. -/
def fetched? (found : Option Value) : Getter → Option Value
  | unsupported _ => none
  | _ => found

/-- What a getter answers for NULL: false or zero where it has no other way to say it, else NULL,
which also stands for the absence of a value. -/
def ofNull : Getter → Value
  | zeroIfNull .boolean => .boolean false
  | zeroIfNull .tinyInt => .integer 0
  | zeroIfNull .smallInt => .integer 0
  | zeroIfNull .integer => .integer 0
  | zeroIfNull .bigInt => .integer 0
  | zeroIfNull .real => .double ⟨0⟩
  | zeroIfNull .double => .double ⟨0⟩
  | _ => .null

/-- What a getter does with the value that it fetches, if any: what it gives, and what it leaves of
the thing that is read, which is `note b` once it noted whether a value is NULL. -/
structure NotesNull {σ : Type} (g : Getter) (fetched : Option Value) (before : σ) (note : Bool → σ)
    (result : Except Error Value × σ) : Prop where
  nothing : fetched = none → ∃ e, result = (.error e, before)
  noted : ∀ v, fetched = some v → result.2 = note v.isNull
  null : ∀ v, fetched = some v → v.isNull = true → result.1 = .ok g.ofNull
  failed : ∀ v e, fetched = some v → result.1 = .error e → v.isNull = false

variable {g : Getter} {v : Value} {found : Option Value}

theorem fetched?_of_supported (hg : ∀ feature, g ≠ unsupported feature) :
    g.fetched? found = found := by
  cases g with
  | unsupported feature => exact absurd rfl (hg feature)
  | _ => rfl

/-- What a supported getter answers for NULL does not depend on the type or the zone. -/
theorem answer_of_isNull (hg : ∀ feature, g ≠ unsupported feature) (hv : v.isNull = true)
    (source : SqlType) (zone : Offset) : g.answer v source zone = .ok g.ofNull := by
  obtain rfl : v = .null := by
    cases v with
    | null => rfl
    | _ => cases hv
  cases g with
  | unsupported feature => exact absurd rfl (hg feature)
  | zeroIfNull target => cases target <;> rfl
  | _ => rfl

section NotesNull

variable {σ : Type} {before : σ} {note : Bool → σ}

/-- A getter that fails before it fetched anything notes nothing. -/
theorem NotesNull.of_error (e : Error) : g.NotesNull none before note (.error e, before) where
  nothing _ := ⟨e, rfl⟩
  noted := nofun
  null := nofun
  failed := nofun

/-- A supported getter that notes what it fetched and answers it keeps to what is asked of it. -/
theorem NotesNull.of_answer (hg : ∀ feature, g ≠ unsupported feature) (v : Value) (source : SqlType)
    (zone : Offset) :
    g.NotesNull (some v) before note (g.answer v source zone, note v.isNull) where
  nothing := nofun
  noted := by rintro _ ⟨⟩; rfl
  null := by
    rintro _ ⟨⟩ hv
    exact answer_of_isNull hg hv source zone
  failed := by
    rintro _ e ⟨⟩ he
    -- Whatever a getter answers for NULL, it is no error.
    refine Bool.eq_false_iff.2 fun hv => ?_
    rw [answer_of_isNull hg hv] at he
    cases he

/-- What is left is the same for all getters: the note of what was fetched, if anything. -/
theorem NotesNull.state_eq {fetched : Option Value} {result : Except Error Value × σ}
    (h : g.NotesNull fetched before note result) :
    result.2 = fetched.elim before fun v => note v.isNull := by
  cases fetched with
  | none =>
    obtain ⟨e, rfl⟩ := h.nothing rfl
    rfl
  | some v => exact h.noted v rfl

end NotesNull

end Getter

/-- A value that was just fetched is the last one, else the last one is what it was. -/
theorem isNull_lastFetched (fetched last : Option Value) :
    (fetched.or last).any Value.isNull =
      (fetched.map Value.isNull).getD (last.any Value.isNull) := by
  cases fetched <;> rfl

/-! ## Result sets -/

namespace ResultSet

/-- The row that the cursor is on, if it is on one. -/
def row? (rs : ResultSet) : Option Row :=
  match rs.position with
  | 0 => none
  | p + 1 => rs.rows[p]?

/-- The value of a column on the row that the cursor is on, if there are such a column and such a
row and the row has a value for the column. -/
def found? (rs : ResultSet) (ref : ColumnRef) : Option Value :=
  match ref.index? rs.columns with
  | some i => if i < rs.columns.length then rs.row?.bind (·[i]?) else none
  | none => none

variable {rs : ResultSet} {ref : ColumnRef}

/-- The column at an ordinal, if there is one. -/
theorem toOption_columnAt (n : Nat) :
    (rs.columnAt n).toOption =
      (ColumnRef.index? rs.columns (.ordinal n)).bind fun i => rs.columns[i]?.map (i, ·) := by
  rw [columnAt, ColumnRef.index?]
  split
  · rfl
  · rw [Option.bind_some]
    cases rs.columns[n - 1]? <;> rfl

/-- The column that is meant, if there is one. A label goes through the ordinal of its column. -/
theorem toOption_resolve (h : rs.closed = false) :
    (rs.resolve ref).toOption =
      (ref.index? rs.columns).bind fun i => rs.columns[i]?.map (i, ·) := by
  cases ref with
  | ordinal n => exact toOption_columnAt n
  | label s =>
    have hfind : (rs.findColumn s).toOption =
        (rs.columns.findIdx? (Column.hasLabel s)).map (· + 1) := by
      unfold findColumn
      rw [requireOpen_of_open h]
      cases rs.columns.findIdx? (Column.hasLabel s) <;> rfl
    rw [resolve, toOption_bind, hfind, Option.bind_map]
    exact Option.bind_congr fun i _ => toOption_columnAt (i + 1)

theorem toOption_currentRow (rs : ResultSet) : rs.currentRow.toOption = rs.row? := by
  unfold currentRow row?
  cases rs.position with
  | zero => rfl
  | succ p =>
    dsimp only
    cases rs.rows[p]? <;> rfl

/-- What a getter finds is what it fetches. -/
theorem toOption_fetch (h : rs.closed = false) (ref : ColumnRef) :
    (rs.fetch ref).toOption.map Prod.fst = rs.found? ref := by
  rw [fetch, toOption_bind_of_ok (requireOpen_of_open h), found?]
  simp only [toOption_bind, toOption_resolve h, toOption_currentRow]
  cases ref.index? rs.columns with
  | none => rfl
  | some i =>
    rw [Option.bind_some]
    dsimp only
    split
    · -- The index is that of a column, and the row may still be too short for it.
      next hi =>
      rw [List.getElem?_eq_getElem hi, Option.map_some, Option.bind_some]
      cases rs.row? with
      | none => rfl
      | some row =>
        rw [Option.bind_some, Option.bind_some]
        dsimp only
        cases row[i]? <;> rfl
    · next hi =>
      rw [List.getElem?_eq_none (by omega)]
      rfl

/-- What reading a column does to an open result set. -/
theorem notesNull_get (h : rs.closed = false) (ref : ColumnRef) (g : Getter) :
    g.NotesNull (g.fetched? (rs.found? ref)) rs (fun b => { rs with wasNull := b })
      (rs.get ref g) := by
  -- A getter that is not supported fails before it looks for the column.
  rcases g.supported_or_eq with hg | ⟨feature, rfl⟩
  · rw [Getter.fetched?_of_supported hg, get_of_supported hg, ← toOption_fetch h]
    cases rs.fetch ref with
    | error e => exact .of_error e
    | ok found => exact .of_answer hg found.1 found.2 rs.zone
  · rw [get, requireOpen_of_open h]
    exact .of_error _

end ResultSet

/-- What a call fetches, if anything. -/
def ResultCall.fetched? (rs : ResultSet) : ResultCall → Option Value
  | get ref g => g.fetched? (rs.found? ref)
  | _ => none

namespace ResultSet

variable {rs : ResultSet} {last : Option Value}

/-- The value that a run of calls fetches last; `last` is what was fetched before. -/
def lastFetched? (rs : ResultSet) (last : Option Value) : List ResultCall → Option Value
  | [] => last
  | call :: calls => lastFetched? (call.perform rs).2 ((call.fetched? rs).or last) calls

/-- A move that is taken puts the cursor somewhere and does nothing else. -/
theorem exists_move {m : Move} {onRow : Bool} {moved : ResultSet}
    (hm : rs.move m = .ok (onRow, moved)) : ∃ p, moved = { rs with position := p } := by
  obtain ⟨⟨⟩, -, hm⟩ := bind_eq_ok_iff.1 hm
  split at hm
  · cases hm
  · cases hm
    exact ⟨_, rfl⟩

/-- A call notes what it fetches, and leaves the result set open. -/
theorem wasNull_perform (h : rs.closed = false) {call : ResultCall} (hclose : call ≠ .close) :
    (call.perform rs).2.closed = false ∧
      (call.perform rs).2.wasNull = ((call.fetched? rs).map Value.isNull).getD rs.wasNull := by
  -- Only a getter fetches, and a move that is refused does nothing.
  cases call with
  | move m =>
    cases hm : rs.move m with
    | error e =>
      simp only [ResultCall.perform, hm]
      exact ⟨h, rfl⟩
    | ok taken =>
      obtain ⟨p, hp⟩ := exists_move hm
      simp only [ResultCall.perform, hm, hp]
      exact ⟨h, rfl⟩
  | get ref g =>
    dsimp only [ResultCall.perform, ResultCall.fetched?]
    rw [(notesNull_get h ref g).state_eq]
    cases g.fetched? (rs.found? ref) <;> exact ⟨h, rfl⟩
  | close => exact absurd rfl hclose
  | _ => exact ⟨h, rfl⟩

/-- Over a run of calls the mark stays that of the value fetched last. -/
theorem wasNull_run (h : rs.closed = false) (hlast : rs.wasNull = last.any Value.isNull)
    {calls : List ResultCall} (hclose : .close ∉ calls) :
    (rs.run calls).closed = false ∧
      (rs.run calls).wasNull = (rs.lastFetched? last calls).any Value.isNull := by
  induction calls generalizing rs last with
  | nil => exact ⟨h, hlast⟩
  | cons call calls ih =>
    obtain ⟨hne, hclose⟩ : call ≠ .close ∧ .close ∉ calls := by simpa [eq_comm] using hclose
    obtain ⟨hopen, hmark⟩ := wasNull_perform h hne
    -- What the call fetched is now what was fetched last.
    refine ih hopen ?_ hclose
    rw [isNull_lastFetched, hmark, hlast]

end ResultSet

/-! ## Callable statements -/

namespace ParameterBuffer

variable {b b' : ParameterBuffer}

/-- The slot of the parameter that is meant, if there is one and it can carry output. -/
def output? (b : ParameterBuffer) (ref : ParameterRef) : Option Slot :=
  match ref.index? b.parameters with
  | some i => b.slots[i]?.filter fun slot => slot.parameter.mode ≠ .input
  | none => none

/-- The slot of the parameter that is meant, if there is one. -/
theorem toOption_resolve (b : ParameterBuffer) (ref : ParameterRef) :
    (b.resolve ref).toOption =
      (ref.index? b.parameters).bind fun i => b.slots[i]?.map (i, ·) := by
  cases hresolve : b.resolve ref with
  | ok found =>
    rw [index?_of_resolve hresolve, Option.bind_some, getElem?_of_resolve hresolve]
    rfl
  | error e =>
    -- Whatever has an index and a slot there would have been found.
    symm
    rw [Except.toOption, Option.bind_eq_none_iff]
    intro i hindex
    rw [Option.map_eq_none_iff, Option.eq_none_iff_forall_ne_some]
    intro slot hslot
    rw [resolve_of_index? hindex hslot] at hresolve
    cases hresolve

/-- Output values that come in are not noted; only getters note. -/
theorem wasNull_of_receive {out : List Value} (h : b.receive out = .ok b') :
    b'.wasNull = b.wasNull := by
  rcases receive_eq_ok_iff.1 h with ⟨-, rfl⟩ | ⟨-, -, rfl⟩ <;> rfl

end ParameterBuffer

namespace CallableStatement

variable {s : CallableStatement}

/-- The slot that a getter reads is that of an output parameter. -/
theorem toOption_outputSlot (h : s.parameters.closed = false) (ref : ParameterRef) :
    (outputSlot s ref).toOption = s.parameters.output? ref := by
  have hopen : s.requireOpen = .ok () := ParameterBuffer.requireOpen_eq_ok_iff.2 h
  rw [outputSlot, toOption_bind_of_ok hopen, ParameterBuffer.output?]
  simp only [toOption_bind, ParameterBuffer.toOption_resolve]
  cases ref.index? s.parameters.parameters with
  | none => rfl
  | some i =>
    rw [Option.bind_some]
    dsimp only
    cases s.parameters.slots[i]? with
    | none => rfl
    | some slot =>
      rw [Option.map_some, Option.bind_some, Option.filter_some]
      cases slot.parameter.mode <;> rfl

/-- A supported getter notes the value of its slot before it converts it. -/
theorem get_of_supported {g : Getter} (hg : ∀ feature, g ≠ .unsupported feature)
    (ref : ParameterRef) :
    get s ref g =
      match outputSlot s ref with
      | .ok slot =>
        (g.answer slot.value slot.parameter.type s.zone,
          { s with parameters := s.parameters.noteRead slot.value })
      | .error e => (.error e, s) := by
  cases g with
  | unsupported feature => exact absurd rfl (hg feature)
  | _ => rfl

/-- What reading a parameter does to an open statement. -/
theorem notesNull_get (h : s.parameters.closed = false) (ref : ParameterRef) (g : Getter) :
    g.NotesNull (g.fetched? ((s.parameters.output? ref).map Slot.value)) s
      (fun b => { s with parameters := { s.parameters with wasNull := b } }) (get s ref g) := by
  rw [← toOption_outputSlot h]
  -- Here a getter that is not supported may also fail because there is no such parameter.
  rcases g.supported_or_eq with hg | ⟨feature, rfl⟩
  · rw [Getter.fetched?_of_supported hg, get_of_supported hg]
    cases outputSlot s ref with
    | error e => exact .of_error e
    | ok slot => exact .of_answer hg slot.value slot.parameter.type s.zone
  · rw [get]
    cases outputSlot s ref <;> exact .of_error _

end CallableStatement

/-- What a turn fetches, if anything. -/
def Turn.fetched? (t : Turn) (s : PreparedStatement) : Option Value :=
  match t.command with
  | .get ref g => g.fetched? ((s.parameters.output? ref).map Slot.value)
  | _ => none

/-- The value that some turns fetch last; `last` is what was fetched before. -/
def PreparedStatement.lastFetched? (s : PreparedStatement) (last : Option Value) :
    List Turn → Option Value
  | [] => last
  | t :: turns => (t.statement s).lastFetched? ((t.fetched? s).or last) turns

/-- A command that only tells something about a statement leaves the parameters, if what it hands on
does. -/
theorem parameters_tell {f : PreparedStatement → Except Error (Outcome × PreparedStatement)}
    {s : PreparedStatement}
    (h : ∀ outcome s', f s = .ok (outcome, s') → s'.parameters = s.parameters) (c : Connection) :
    (finalState (StatementAction.tell f (s, c))).1.parameters = s.parameters := by
  dsimp only [StatementAction.tell]
  cases hf : f s with
  | error e => rfl
  | ok told => exact h told.1 told.2 hf

/-- Settings of a statement are kept apart from its parameters. -/
theorem parameters_configure (change : ExecutionOptions → ExecutionOptions) (s : PreparedStatement)
    (c : Connection) :
    (finalState (StatementAction.change (fun s => s.configure change) (s, c))).1.parameters =
      s.parameters := by
  dsimp only [StatementAction.change, PreparedStatement.configure]
  cases s.requireOpen <;> rfl

/-- Whatever looks at a statement and is no getter leaves the parameters as they are. -/
theorem parameters_of_observe {cmd : CallableCommand} (hrole : cmd.role = .observe)
    (hget : ∀ ref g, cmd ≠ .get ref g) (s : PreparedStatement) (c : Connection) :
    (finalState (cmd.perform (s, c))).1.parameters = s.parameters := by
  -- The remaining commands differ in what they tell. Those of another role drop out.
  cases cmd with
  | get ref g => exact absurd rfl (hget ref g)
  | wasNull =>
    dsimp only [CallableCommand.perform]
    refine parameters_tell (fun outcome s' h => ?_) c
    obtain ⟨b, -, h⟩ := bind_eq_ok_iff.1 h
    cases h
    rfl
  | registerOutput ref =>
    dsimp only [CallableCommand.perform]
    refine parameters_tell (fun outcome s' h => ?_) c
    obtain ⟨⟨⟩, -, h⟩ := bind_eq_ok_iff.1 h
    cases h
    rfl
  | plain cmd =>
    cases cmd with
    | setMaxRows n => exact parameters_configure _ s c
    | setFetchSize n => exact parameters_configure _ s c
    | setTimeout timeout => exact parameters_configure _ s c
    | setResultSetKind scrolling concurrency => exact parameters_configure _ s c
    | takeResultSet =>
      dsimp only [CallableCommand.perform, StatementCommand.perform]
      refine parameters_tell (fun outcome s' h => ?_) c
      obtain ⟨taken, htaken, h⟩ := bind_eq_ok_iff.1 h
      obtain ⟨⟨⟩, -, htaken⟩ := bind_eq_ok_iff.1 htaken
      cases htaken
      cases h
      obtain ⟨current, hrest⟩ := s.exists_takeRows
      exact congrArg (·.parameters) hrest
    | updateCount =>
      dsimp only [CallableCommand.perform, StatementCommand.perform]
      refine parameters_tell (fun outcome s' h => ?_) c
      obtain ⟨b, -, h⟩ := bind_eq_ok_iff.1 h
      cases h
      rfl
    | moreResults =>
      dsimp only [CallableCommand.perform, StatementCommand.perform]
      refine parameters_tell (fun outcome s' h => ?_) c
      obtain ⟨moved, hmoved, h⟩ := bind_eq_ok_iff.1 h
      obtain ⟨⟨⟩, -, hmoved⟩ := bind_eq_ok_iff.1 hmoved
      cases hmoved
      cases h
      rfl
    | _ => cases hrole
  | _ => cases hrole

namespace Turn

variable {t : Turn} {s : PreparedStatement}

/-- Only a getter changes the mark. -/
theorem wasNull_of_not_get (hget : ∀ ref g, t.command ≠ .get ref g)
    (h : (t.statement s).parameters.closed = false) :
    s.parameters.closed = false ∧
      (t.statement s).parameters.wasNull = s.parameters.wasNull := by
  have heffect : Effect s t.connection t.command.role (t.result s) := perform_effect ..
  generalize hrole : t.command.role = role at heffect
  -- The effect of looking leaves the mark open, so that the commands themselves have to tell.
  have hobserved (hobserve : role = .observe) :
      (t.statement s).parameters = s.parameters :=
    parameters_of_observe (hrole.trans hobserve) hget s t.connection
  unfold statement at h hobserved ⊢
  generalize t.result s = result at *
  -- An effect that leaves the statement open found it open, and no effect on the slots touches the
  -- mark.
  cases heffect with
  | refused => exact ⟨h, rfl⟩
  | set hs => exact ⟨hs, rfl⟩
  | cleared hs => exact ⟨hs, rfl⟩
  | failed => exact ⟨h, rfl⟩
  | rejected => exact ⟨h, rfl⟩
  | accepted hrequest _ hreceive hfinal =>
    have hs := (PreparedStatement.request_eq_ok_iff.1 hrequest).1
    rw [hfinal]
    exact ⟨hs, ParameterBuffer.wasNull_of_receive hreceive⟩
  | cancelled hs =>
    rw [finalState_reported]
    exact ⟨hs, rfl⟩
  | closedAgain => exact ⟨h, rfl⟩
  | closedLate => cases h
  | closed =>
    rw [finalState_reported] at h
    cases h
  | asked => exact ⟨h, rfl⟩
  | observed hs =>
    rw [hobserved rfl]
    exact ⟨hs, rfl⟩

theorem statement_of_get {ref : ParameterRef} {g : Getter} (hget : t.command = .get ref g) :
    t.statement s = (CallableStatement.get s ref g).2 := by
  rw [statement, result, hget]
  dsimp only [CallableCommand.perform]
  split
  · next hread => rw [hread, finalState_ok]
  · next hread => rw [hread, finalState_error]

/-- A turn that leaves the statement open notes what it fetches. -/
theorem wasNull_statement (h : (t.statement s).parameters.closed = false) :
    s.parameters.closed = false ∧ (t.statement s).parameters.wasNull =
      ((t.fetched? s).map Value.isNull).getD s.parameters.wasNull := by
  by_cases hget : ∃ ref g, t.command = .get ref g
  · obtain ⟨ref, g, hget⟩ := hget
    have hfetched : t.fetched? s = g.fetched? ((s.parameters.output? ref).map Slot.value) := by
      rw [fetched?, hget]
    rw [statement_of_get hget] at h ⊢
    rw [hfetched]
    -- Getters close nothing.
    have hs : s.parameters.closed = false := by
      rcases CallableStatement.get_cases s ref g with ⟨e, he⟩ | ⟨hs, -⟩
      · rwa [he] at h
      · exact hs
    rw [(CallableStatement.notesNull_get hs ref g).state_eq]
    cases g.fetched? ((s.parameters.output? ref).map Slot.value) <;> exact ⟨hs, rfl⟩
  · -- A turn that is not a getter's fetches nothing, and so must leave the mark.
    have hnot : ∀ ref g, t.command ≠ .get ref g := by simpa using hget
    have hfetched : t.fetched? s = none := by
      unfold fetched?
      split
      · next ref g hcommand => exact absurd hcommand (hnot ref g)
      · rfl
    rw [hfetched]
    exact wasNull_of_not_get hnot h

end Turn

namespace PreparedStatement

variable {s : PreparedStatement} {past : List Event} {turns : List Turn}

/-- What is open after some turns was open before them. -/
theorem open_of_follow (h : (s.follow past turns).1.parameters.closed = false) :
    s.parameters.closed = false := by
  induction turns generalizing s past with
  | nil => exact h
  | cons t turns ih => exact (t.wasNull_statement (ih h)).1

/-- Over some turns that leave the statement open, the mark stays that of the value fetched last. -/
theorem wasNull_follow {last : Option Value}
    (hlast : s.parameters.wasNull = last.any Value.isNull)
    (h : (s.follow past turns).1.parameters.closed = false) :
    (s.follow past turns).1.parameters.wasNull =
      (s.lastFetched? last turns).any Value.isNull := by
  induction turns generalizing s past last with
  | nil => exact hlast
  | cons t turns ih =>
    -- The turn leaves the statement open, since it is open at the end.
    obtain ⟨-, hmark⟩ := t.wasNull_statement (open_of_follow h)
    refine ih ?_ h
    rw [isNull_lastFetched, hmark, hlast]

end PreparedStatement

/-! ## Runs -/

/-- After any calls on a result set, or commands on a callable statement, and for as long as it is
open, the mark tells whether the value that a getter fetched last is NULL; there is none if none was
fetched. A getter fetches what it finds at the place of the cursor or in the slot of an output
parameter. If that is nothing, it fails and changes nothing; if it is NULL, it succeeds. -/
theorem lastWasNull_run :
    (∀ (r : RowSet) (zone : Offset) (scrolling : Scrolling) (calls : List ResultCall),
      .close ∉ calls →
      let rs := ResultSet.ofRowSet r zone scrolling
      let now := rs.run calls
      now.lastWasNull = .ok ((rs.lastFetched? none calls).any Value.isNull) ∧
      ∀ ref g, Getter.NotesNull g (g.fetched? (now.found? ref)) now
        (fun b => { now with wasNull := b }) (now.get ref g)) ∧
    ∀ (sql : String) (d : Description) (config : Config) (turns : List Turn),
      let start := PreparedStatement.ofDescription (.ofSql sql) d config
      let now : CallableStatement := (start.follow [] turns).1
      now.parameters.closed = false →
      CallableStatement.lastWasNull now =
        .ok ((start.lastFetched? none turns).any Value.isNull) ∧
      ∀ ref g, Getter.NotesNull g (g.fetched? ((now.parameters.output? ref).map Slot.value)) now
        (fun b => { now with parameters := { now.parameters with wasNull := b } })
        (CallableStatement.get now ref g) := by
  constructor
  · -- Nothing was fetched from a new result set, and its mark is not set.
    intro r zone scrolling calls hclose rs now
    have hstart : rs.wasNull = (none : Option Value).any Value.isNull := rfl
    obtain ⟨hopen, hmark⟩ := ResultSet.wasNull_run rfl hstart hclose
    refine ⟨?_, fun ref g => ResultSet.notesNull_get hopen ref g⟩
    rw [ResultSet.lastWasNull, ResultSet.requireOpen_of_open hopen, hmark]
    rfl
  · intro sql d config turns start now hopen
    have hstart : start.parameters.wasNull = (none : Option Value).any Value.isNull := rfl
    have hmark := PreparedStatement.wasNull_follow hstart hopen
    refine ⟨?_, fun ref g => CallableStatement.notesNull_get hopen ref g⟩
    rw [CallableStatement.lastWasNull, show PreparedStatement.requireOpen now = .ok () from
      ParameterBuffer.requireOpen_eq_ok_iff.2 hopen]
    exact congrArg Except.ok hmark

/-- NULL is read, and then a truth value as a date, which fails. -/
theorem lastWasNull_run_no_date :
    let r : RowSet :=
      ⟨[.described "A" .integer, .described "B" .boolean], [[.null, .boolean true]]⟩
    let rs := ResultSet.ofRowSet r default .forwardOnly
    let calls : List ResultCall :=
      [.move .next, .get (.ordinal 1) (.zeroIfNull .integer), .get (.ordinal 3) .object]
    let failing : ResultCall := .get (.ordinal 2) (.optional .date)
    let d : Description :=
      ⟨7, .call, [.described "R" .integer .output, .described "S" .boolean .inOut], []⟩
    let start := PreparedStatement.ofDescription (.ofSql "CALL P(?, ?)") d default
    let c := Connection.ofConfig default ⟨fun _ _ => .error (.protocol "not expected")⟩
    let turns : List Turn :=
      [⟨.setParameter (.ordinal 2) (.value (.boolean true)), c⟩, ⟨.get (.ordinal 1) .object, c⟩,
        ⟨.get (.ordinal 2) (.unsupported "REF"), c⟩]
    let failing' : Turn := ⟨.get (.ordinal 2) (.optional .date), c⟩
    ((rs.run calls).lastWasNull = .ok true ∧
      (∃ e, (failing.perform (rs.run calls)).1 = .error e) ∧
      (rs.run (calls ++ [failing])).lastWasNull = .ok false) ∧
    CallableStatement.lastWasNull (start.follow [] turns).1 = .ok true ∧
      (∃ e x, failing'.result (start.follow [] turns).1 = .error e x) ∧
      CallableStatement.lastWasNull (start.follow [] (turns ++ [failing'])).1 = .ok false := by
  intro r rs calls failing d start c turns failing'
  obtain ⟨hresult, hcall⟩ := lastWasNull_run
  refine ⟨⟨?_, ⟨_, rfl⟩, ?_⟩, ?_, ⟨_, _, rfl⟩, ?_⟩
  · exact (hresult r default .forwardOnly calls (by decide)).1
  · exact (hresult r default .forwardOnly (calls ++ [failing]) (by decide)).1
  · exact (hcall _ d default turns rfl).1
  · exact (hcall _ d default (turns ++ [failing']) rfl).1

end SqlAccess
