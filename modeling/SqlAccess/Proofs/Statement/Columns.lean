import SqlAccess.Proofs.Statement.Binding

/-!
# Parameters in columns

A parameter buffer has one record for each parameter. The same state can be kept in columns: the
parameters, the values and the marks are three lists, and an index of the names is built once from
the parameters (`ParameterColumns`). An operation writes to each column apart and relies on all of
them being equally long: where it indexes, it does not ask whether there is such a place. Here an
operation that indexes outside of a column has no result.

Every call on the columns of a buffer does to them what it does to the buffer, with the same answer
(`perform?_columns`), and so does a run of calls (`run?_columns`). The main result is what follows
for the columns after any run (`run_in_bounds`): no call indexes out of bounds, engine values that
are refused change nothing and others the output parameters only, and a closed state stays empty.
-/

namespace SqlAccess

/-! ## An index of names -/

/-- One more parameter is found by its name if there is none before it. -/
theorem Parameter.named?_concat (ps : List Parameter) (p : Parameter) (label : String) :
    named? (ps ++ [p]) label =
      (named? ps label).or
        (if label ≠ "" ∧ p.name = label then some ps.length else none) := by
  unfold named?
  by_cases hempty : label = ""
  · simp [hempty]
  · by_cases hname : p.name = label <;> simp [hempty, hname]

/-- Names, each with the index of its first parameter, in the order of these. -/
abbrev NameIndex := List (String × Nat)

namespace NameIndex

/-- Enters the name of one more parameter, unless it has none or the name is there already. -/
def enter (names : NameIndex) (p : Parameter) (i : Nat) : NameIndex :=
  if p.name = "" ∨ (names.lookup p.name).isSome then names else names ++ [(p.name, i)]

/-- The names of some parameters, entered one after the other. -/
def ofParameters (ps : List Parameter) : NameIndex :=
  ps.zipIdx.foldl (fun names (p, i) => names.enter p i) []

/-- The index that a name has exactly as written, or else in upper case. -/
def find? (names : NameIndex) (name : String) : Option Nat :=
  (names.lookup name).or (names.lookup (Parameter.upperName name))

/-- The name of the last parameter is entered last. -/
theorem ofParameters_concat (ps : List Parameter) (p : Parameter) :
    ofParameters (ps ++ [p]) = (ofParameters ps).enter p ps.length := by
  simp only [ofParameters, List.zipIdx_append, List.foldl_append, List.zipIdx_cons,
    List.zipIdx_nil, List.foldl_cons, List.foldl_nil, Nat.zero_add]

/-- The index finds what a search through the parameters finds. -/
theorem lookup_ofParameters (ps : List Parameter) (label : String) :
    (ofParameters ps).lookup label = Parameter.named? ps label := by
  induction ps using List.reverseRecOn with
  | nil => simp [ofParameters, Parameter.named?]
  | append_singleton ps p ih =>
    rw [ofParameters_concat, Parameter.named?_concat, ← ih, enter]
    split
    · next hskip =>
      -- The name is not entered: it is empty, or the search stops before the new parameter.
      by_cases hnew : label ≠ "" ∧ p.name = label
      · obtain ⟨hne, rfl⟩ := hnew
        obtain ⟨i, hi⟩ := Option.isSome_iff_exists.1 (hskip.resolve_left hne)
        rw [hi, Option.some_or]
      · rw [if_neg hnew, Option.or_none]
    · next henter =>
      obtain ⟨hne, -⟩ := not_or.1 henter
      rw [List.lookup_append, List.lookup_cons, List.lookup_nil]
      by_cases hname : p.name = label
      · subst hname
        simp [hne]
      · have hbeq : (label == p.name) = false := by
          simpa using Ne.symm hname
        simp [hbeq, hname]

/-- A name is found in the index as it is found among the parameters. -/
theorem find?_ofParameters (ps : List Parameter) (name : String) :
    (ofParameters ps).find? name = Parameter.find? ps name := by
  rw [find?, lookup_ofParameters, lookup_ofParameters, Parameter.find?]

/-- The index has each name once, in the order of the first parameters. -/
theorem keys_ofParameters (ps : List Parameter) :
    (ofParameters ps).map Prod.fst = Parameter.names ps := by
  induction ps using List.reverseRecOn with
  | nil => rfl
  | append_singleton ps p ih =>
    -- A name has been entered exactly if it is one of the names so far.
    have hentered : ((ofParameters ps).lookup p.name).isSome ↔ p.name ∈ Parameter.names ps := by
      rw [← ih, List.lookup_isSome_iff]
      simp
    simp only [ofParameters_concat, Parameter.names_concat, enter, hentered]
    split
    · rw [ih, List.append_nil]
    · rw [List.map_append, ih]
      rfl

end NameIndex

/-! ## The columns -/

/-- The parameters of a statement with their values, column by column. -/
structure ParameterColumns where
  parameters : List Parameter
  names : NameIndex
  values : List Value
  /-- Where the client set a value since the last clear. -/
  bound : List Bool
  /-- The value read last was NULL. -/
  wasNull : Bool
  closed : Bool

/-- Everything about some parameters that is read without going to one of them. -/
structure ParameterOverview where
  parameters : List Parameter
  names : List String
  /-- The ordinal of the first parameter that the client has yet to set. -/
  firstUnset : Option Nat
  /-- The values to be sent with an execution. -/
  sent : List Value
  wasNull : Bool
  closed : Bool

/-- Puts a value in a place of a list, which has to be there. -/
def setAt? {α : Type} (xs : List α) (i : Nat) (a : α) : Option (List α) :=
  if i < xs.length then some (xs.set i a) else none

namespace ParameterColumns

/-- The columns of a new statement. -/
def ofParameters (ps : List Parameter) : ParameterColumns :=
  { parameters := ps
    names := .ofParameters ps
    values := List.replicate ps.length .null
    bound := List.replicate ps.length false
    wasNull := false
    closed := false }

/-- The index with this ordinal. -/
def indexAt (c : ParameterColumns) (n : Nat) : Except Error Nat :=
  if n = 0 ∨ c.parameters.length < n then
    .error (.invalidParameterIndex n c.parameters.length)
  else .ok (n - 1)

/-- The index that is meant. A name is taken to its ordinal first. -/
def resolve (c : ParameterColumns) : ParameterRef → Except Error Nat
  | .ordinal n => c.indexAt n
  | .name s =>
    if s = "" then .error (.nullArgument "parameter name")
    else
      match c.names.find? s with
      | some i => c.indexAt (i + 1)
      | none => .error (.parameterNotFound s)

/-- Reads the three columns at an index. -/
def slot? (c : ParameterColumns) (i : Nat) : Option Slot := do
  return ⟨← c.parameters[i]?, ← c.values[i]?, ← c.bound[i]?⟩

/-- Writes the client's value at an index. -/
def bind? (c : ParameterColumns) (i : Nat) (v : Value) : Option ParameterColumns := do
  return { c with values := ← setAt? c.values i v, bound := ← setAt? c.bound i true }

/-- Forgets all values. -/
def clear (c : ParameterColumns) : ParameterColumns :=
  { c with values := c.values.map fun _ => .null, bound := c.bound.map fun _ => false }

/-- Goes through values with their indices and writes those of output parameters. -/
def overwrite? (c : ParameterColumns) : List (Value × Nat) → Option ParameterColumns
  | [] => some c
  | (v, i) :: rest => do
    let p ← c.parameters[i]?
    if p.mode.isOutput then
      let values ← setAt? c.values i v
      overwrite? { c with values := values } rest
    else overwrite? c rest

/-- Takes the engine's values after an execution, and tells whether they were taken. -/
def receive? (c : ParameterColumns) (out : List Value) :
    Option (Except Error Unit × ParameterColumns) :=
  if out.isEmpty then some (.ok (), c)
  else if out.length = c.parameters.length then (c.overwrite? out.zipIdx).map (.ok (), ·)
  else
    some (.error (.protocol
      s!"engine returned {out.length} parameter values for {c.parameters.length} parameters"), c)

/-- Notes whether a value that was read is NULL. -/
def noteRead (c : ParameterColumns) (v : Value) : ParameterColumns :=
  { c with wasNull := v.isNull }

/-- Gives up every column for good. -/
def close (_ : ParameterColumns) : ParameterColumns :=
  { parameters := []
    names := []
    values := []
    bound := []
    wasNull := false
    closed := true }

/-- What is read without going to one parameter. -/
def overview (c : ParameterColumns) : ParameterOverview :=
  { parameters := c.parameters
    names := c.names.map Prod.fst
    firstUnset :=
      ((c.parameters.zip c.bound).findIdx? fun (p, bound) => p.mode.isInput && !bound).map (· + 1)
    sent :=
      (c.parameters.zip c.values).map fun (p, v) => if p.mode = .output then .null else v
    wasNull := c.wasNull
    closed := c.closed }

end ParameterColumns

/-! ## Calls -/

/-- A call on the parameters of a statement. A call on one of them addresses it in the state that
the call finds. -/
inductive ParameterCall
  | set (ref : ParameterRef) (v : Value)
  | clear
  /-- Takes the engine's values. -/
  | receive (out : List Value)
  | noteRead (v : Value)
  | close
  /-- Reads one parameter with its value and mark. -/
  | slot (ref : ParameterRef)
  | overview

/-- The answer to a call that succeeds. -/
inductive ParameterAnswer
  | done
  | slot (s : Slot)
  | overview (o : ParameterOverview)

namespace ParameterBuffer

/-- What is read without going to one parameter. -/
def overview (b : ParameterBuffer) : ParameterOverview :=
  { parameters := b.parameters
    names := Parameter.names b.parameters
    firstUnset := b.firstUnsetInput?
    sent := b.sent
    wasNull := b.wasNull
    closed := b.closed }

/-- Answers a call. -/
def perform (b : ParameterBuffer) :
    ParameterCall → Except Error ParameterAnswer × ParameterBuffer
  | .set ref v =>
    match b.resolve ref with
    | .ok (i, _) => (.ok .done, b.bind i v)
    | .error e => (.error e, b)
  | .clear => (.ok .done, b.clear)
  | .receive out =>
    match b.receive out with
    | .ok b' => (.ok .done, b')
    | .error e => (.error e, b)
  | .noteRead v => (.ok .done, b.noteRead v)
  | .close => (.ok .done, b.close)
  | .slot ref =>
    match b.resolve ref with
    | .ok (_, s) => (.ok (.slot s), b)
    | .error e => (.error e, b)
  | .overview => (.ok (.overview b.overview), b)

/-- Answers some calls in their order. -/
def run (b : ParameterBuffer) :
    List ParameterCall → List (Except Error ParameterAnswer) × ParameterBuffer
  | [] => ([], b)
  | call :: calls =>
    let (answer, b) := b.perform call
    let (answers, b) := b.run calls
    (answer :: answers, b)

end ParameterBuffer

namespace ParameterColumns

/-- Answers a call, unless it indexes out of bounds. -/
def perform? (c : ParameterColumns) :
    ParameterCall → Option (Except Error ParameterAnswer × ParameterColumns)
  | .set ref v =>
    match c.resolve ref with
    | .ok i => (c.bind? i v).map (.ok .done, ·)
    | .error e => some (.error e, c)
  | .clear => some (.ok .done, c.clear)
  | .receive out => (c.receive? out).map fun (outcome, c) => (outcome.map fun _ => .done, c)
  | .noteRead v => some (.ok .done, c.noteRead v)
  | .close => some (.ok .done, c.close)
  | .slot ref =>
    match c.resolve ref with
    | .ok i => (c.slot? i).map fun s => (.ok (.slot s), c)
    | .error e => some (.error e, c)
  | .overview => some (.ok (.overview c.overview), c)

/-- Answers some calls in their order, unless one of them indexes out of bounds. -/
def run? (c : ParameterColumns) :
    List ParameterCall → Option (List (Except Error ParameterAnswer) × ParameterColumns)
  | [] => some ([], c)
  | call :: calls => do
    let (answer, c) ← c.perform? call
    let (answers, c) ← c.run? calls
    return (answer :: answers, c)

end ParameterColumns

/-! ## The columns of a buffer -/

namespace ParameterBuffer

variable {b : ParameterBuffer} {ref : ParameterRef} {i : Nat} {slot : Slot}

/-- The columns of the records of a buffer. -/
def columns (b : ParameterBuffer) : ParameterColumns :=
  { parameters := b.parameters
    names := .ofParameters b.parameters
    values := b.values
    bound := b.slots.map (·.bound)
    wasNull := b.wasNull
    closed := b.closed }

theorem length_parameters (b : ParameterBuffer) : b.parameters.length = b.count := by
  rw [parameters, List.length_map, count]

/-- A new buffer has the columns of a new statement. -/
theorem columns_ofParameters (ps : List Parameter) :
    (ofParameters ps).columns = .ofParameters ps := by
  -- At first every record is blank, and so is every entry of a column.
  have hvalues : (ofParameters ps).values = List.replicate ps.length .null := by
    simp [values, ofParameters, Slot.blank, Function.comp_def, List.map_const']
  have hbound : (ofParameters ps).slots.map (·.bound) = List.replicate ps.length false := by
    simp [ofParameters, Slot.blank, Function.comp_def, List.map_const']
  rw [columns, parameters_ofParameters, hvalues, hbound]
  rfl

/-- An ordinal has the same index in the columns and in the records. -/
theorem indexAt_columns (b : ParameterBuffer) (n : Nat) :
    b.columns.indexAt n = (b.slotAt n).map Prod.fst := by
  have hcount : b.columns.parameters.length = b.count := b.length_parameters
  unfold ParameterColumns.indexAt slotAt
  rw [hcount]
  by_cases hzero : n = 0
  · simp [hzero, Except.map]
  · by_cases hlt : b.count < n
    · -- Beyond the last record there is no slot either.
      have hnone : b.slots[n - 1]? = none := by
        rw [List.getElem?_eq_none_iff]
        rw [count] at hlt
        omega
      simp [hzero, hlt, hnone, Except.map]
    · have hin : n - 1 < b.slots.length := by
        rw [count] at hlt
        omega
      simp [hzero, hlt, List.getElem?_eq_getElem hin, Except.map]

/-- What is meant is the same in the columns and in the records. -/
theorem resolve_columns (b : ParameterBuffer) (ref : ParameterRef) :
    b.columns.resolve ref = (b.resolve ref).map Prod.fst := by
  cases ref with
  | ordinal n => exact b.indexAt_columns n
  | name s =>
    -- The index of the names was made of the same parameters.
    have hfind : b.columns.names.find? s = Parameter.find? b.parameters s :=
      NameIndex.find?_ofParameters b.parameters s
    simp only [ParameterColumns.resolve, resolve, hfind, Parameter.ordinal]
    by_cases hempty : s = ""
    · simp only [if_pos hempty]
      rfl
    · simp only [if_neg hempty]
      cases Parameter.find? b.parameters s with
      | none => rfl
      | some k => exact b.indexAt_columns (k + 1)

/-- Whatever is resolved lies in all columns. -/
theorem lt_of_resolve_columns (h : b.columns.resolve ref = .ok i) : i < b.count := by
  rw [resolve_columns] at h
  cases hresolve : b.resolve ref with
  | error e =>
    rw [hresolve] at h
    cases h
  | ok found =>
    rw [hresolve] at h
    cases h
    exact (List.getElem?_eq_some_iff.1 (getElem?_of_resolve hresolve)).1

/-- Read at one index, the columns give the record there. -/
theorem slot?_columns (h : b.slots[i]? = some slot) : b.columns.slot? i = some slot := by
  simp [ParameterColumns.slot?, columns, parameters, values, h]

/-- To write a value to two columns is to write it to the record. -/
theorem bind?_columns (h : b.slots[i]? = some slot) (v : Value) :
    b.columns.bind? i v = some (b.bind i v).columns := by
  have hi : i < b.slots.length := (List.getElem?_eq_some_iff.1 h).1
  -- The record is replaced in the list of records, and so are its parts in the columns.
  have hvalues : (b.bind i v).values = b.values.set i v := by
    rw [values, slots_bind h, List.map_set]
    rfl
  have hbound : (b.bind i v).slots.map (·.bound) = (b.slots.map (·.bound)).set i true := by
    rw [slots_bind h, List.map_set]
  have hcolumns : (b.bind i v).columns =
      { b.columns with
        values := b.values.set i v
        bound := (b.slots.map (·.bound)).set i true } := by
    rw [columns, parameters_bind, hvalues, hbound]
    rfl
  rw [hcolumns]
  simp [ParameterColumns.bind?, setAt?, columns, values, hi]

theorem clear_columns (b : ParameterBuffer) : b.columns.clear = b.clear.columns := by
  rw [columns, columns, parameters_clear]
  simp [ParameterColumns.clear, values, clear, Slot.clear, Slot.blank, Function.comp_def]

/-! ### The engine's values -/

/-- Going through the engine's values is to write each of them to the slot that comes next. -/
theorem overwrite?_columns (b : ParameterBuffer) (out : List Value) :
    ∀ done slots : List Slot, out.length = slots.length →
      { b with slots := done ++ slots }.columns.overwrite? (out.zipIdx done.length) =
        some { b with slots := done ++ List.zipWith Slot.receive slots out }.columns := by
  -- The slots that are done stay in front, so that their number is the index of the next value.
  induction out with
  | nil =>
    intro done slots hlength
    obtain rfl : slots = [] := List.length_eq_zero_iff.1 hlength.symm
    rfl
  | cons v out ih =>
    intro done slots hlength
    obtain ⟨slot, rest, rfl⟩ : ∃ slot rest, slots = slot :: rest :=
      List.exists_cons_of_length_eq_add_one hlength.symm
    have hrest := ih (done ++ [slot.receive v]) rest (by simpa using hlength)
    rw [List.append_assoc, List.append_assoc, List.length_append, List.length_singleton,
      List.singleton_append, List.singleton_append] at hrest
    -- The parameter with this index is that of the first slot that is left.
    have hparameter : { b with slots := done ++ slot :: rest }.columns.parameters[done.length]? =
        some slot.parameter := by
      simp [columns, parameters]
    rw [List.zipIdx_cons, ParameterColumns.overwrite?, hparameter, Option.bind_eq_bind,
      Option.bind_some, List.zipWith_cons_cons, ← hrest]
    by_cases hmode : slot.parameter.mode.isOutput = true
    · have hreceive : slot.receive v = { slot with value := v } := if_pos hmode
      have hset : setAt? { b with slots := done ++ slot :: rest }.columns.values done.length v =
          some { b with slots := done ++ slot.receive v :: rest }.values := by
        simp [setAt?, columns, values, hreceive]
      -- Of the columns, only the one of the values has changed.
      have hcolumns : { b with slots := done ++ slot.receive v :: rest }.columns =
          { { b with slots := done ++ slot :: rest }.columns with
            values := { b with slots := done ++ slot.receive v :: rest }.values } := by
        simp [columns, parameters, hreceive]
      rw [if_pos hmode, hset, hcolumns]
      rfl
    · have hreceive : slot.receive v = slot := if_neg hmode
      rw [if_neg hmode, hreceive]

/-- The engine's values are taken into the columns as they are into the records. -/
theorem receive?_columns (b : ParameterBuffer) (out : List Value) :
    b.columns.receive? out =
      some (match b.receive out with
        | .ok b' => (.ok (), b'.columns)
        | .error e => (.error e, b.columns)) := by
  have hcount : b.columns.parameters.length = b.count := b.length_parameters
  unfold ParameterColumns.receive? receive
  rw [hcount]
  split
  · rfl
  · split
    · next hlength =>
      have hwritten := overwrite?_columns b out [] b.slots hlength
      rw [List.nil_append, List.nil_append, List.length_nil] at hwritten
      rw [hwritten]
      rfl
    · rfl

/-- Engine values that are taken, if there are any, are the values of the parameters that can carry
output. -/
theorem written_of_receive?_columns {out : List Value} {c : ParameterColumns} {p : Parameter}
    (h : b.columns.receive? out = some (.ok (), c)) (hne : out ≠ [])
    (hp : b.columns.parameters[i]? = some p) (hmode : p.mode.isOutput = true) :
    c.values[i]? = out[i]? := by
  rw [receive?_columns] at h
  cases hreceive : b.receive out with
  | error e =>
    rw [hreceive] at h
    cases h
  | ok b' =>
    rw [hreceive] at h
    cases h
    rcases receive_eq_ok_iff.1 hreceive with ⟨hnone, -⟩ | ⟨-, hlength, rfl⟩
    · exact absurd hnone hne
    · -- The parameter is that of a slot, into which the value with its index went.
      obtain ⟨slot, hslot, rfl⟩ : ∃ slot, b.slots[i]? = some slot ∧ slot.parameter = p := by
        rwa [columns, parameters, List.getElem?_map, Option.map_eq_some_iff] at hp
      have hi : i < out.length := by
        rw [hlength]
        exact (List.getElem?_eq_some_iff.1 hslot).1
      have hout : out[i]? = some out[i] := List.getElem?_eq_getElem hi
      have hvalue : (slot.receive out[i]).value = out[i] := by
        rw [Slot.receive, if_pos hmode]
      rw [columns, values, List.getElem?_map, List.getElem?_zipWith, hslot, hout]
      exact congrArg some hvalue

/-! ### Calls on both -/

/-- The columns give the same overview as the records. -/
theorem overview_columns (b : ParameterBuffer) : b.columns.overview = b.overview := by
  have hnames : b.columns.names.map Prod.fst = Parameter.names b.parameters :=
    NameIndex.keys_ofParameters b.parameters
  -- Columns that are read side by side are the records again.
  have hunset : (b.columns.parameters.zip b.columns.bound).findIdx?
      (fun (p, bound) => p.mode.isInput && !bound) = b.slots.findIdx? Slot.awaitsInput := by
    rw [columns, parameters, List.zip_map', List.findIdx?_map]
    rfl
  have hsent : (b.columns.parameters.zip b.columns.values).map
      (fun (p, v) => if p.mode = .output then .null else v) = b.sent := by
    rw [columns, parameters, values, List.zip_map', List.map_map]
    rfl
  rw [ParameterColumns.overview, hnames, hunset, hsent]
  rfl

/-- A call does to the columns what it does to the buffer. -/
theorem perform?_columns (b : ParameterBuffer) (call : ParameterCall) :
    b.columns.perform? call = some ((b.perform call).1, (b.perform call).2.columns) := by
  cases call with
  | set ref v =>
    rw [ParameterColumns.perform?, resolve_columns, perform]
    cases hresolve : b.resolve ref with
    | error e => rfl
    | ok found =>
      -- What is resolved is the index of a slot, and so each column has the place.
      have hslot := getElem?_of_resolve hresolve
      simp only [Except.map, bind?_columns hslot, Option.map_some]
  | clear =>
    rw [ParameterColumns.perform?, clear_columns]
    rfl
  | receive out =>
    rw [ParameterColumns.perform?, receive?_columns, perform]
    cases b.receive out <;> rfl
  | noteRead v => rfl
  | close => rfl
  | slot ref =>
    rw [ParameterColumns.perform?, resolve_columns, perform]
    cases hresolve : b.resolve ref with
    | error e => rfl
    | ok found =>
      have hslot := getElem?_of_resolve hresolve
      simp only [Except.map, slot?_columns hslot, Option.map_some]
  | overview =>
    rw [ParameterColumns.perform?, overview_columns]
    rfl

/-- A run of calls never indexes out of bounds, and ends in the columns of the buffer. -/
theorem run?_columns (b : ParameterBuffer) (calls : List ParameterCall) :
    b.columns.run? calls = some ((b.run calls).1, (b.run calls).2.columns) := by
  induction calls generalizing b with
  | nil => rfl
  | cons call calls ih =>
    simp only [ParameterColumns.run?, perform?_columns, ih, run, Option.bind_eq_bind,
      Option.bind_some, Option.pure_def]

/-! ### After closing -/

/-- There are no parameters any more, for good. -/
structure IsReleased (b : ParameterBuffer) : Prop where
  slots : b.slots = []
  closed : b.closed = true

theorem IsReleased.columns_eq (h : b.IsReleased) :
    b.columns = { ParameterColumns.close b.columns with wasNull := b.wasNull } := by
  simp only [columns, parameters, values, h.slots, h.closed]
  rfl

/-- Without parameters nothing is resolved. -/
theorem IsReleased.resolve_eq_error (h : b.IsReleased) (ref : ParameterRef) :
    ∃ e, b.resolve ref = .error e := by
  cases hresolve : b.resolve ref with
  | error e => exact ⟨e, rfl⟩
  | ok found =>
    have hslot := getElem?_of_resolve hresolve
    rw [h.slots] at hslot
    cases hslot

/-- No call brings parameters back. -/
theorem IsReleased.perform (h : b.IsReleased) (call : ParameterCall) :
    (b.perform call).2.IsReleased := by
  cases call with
  | set ref v =>
    obtain ⟨e, he⟩ := h.resolve_eq_error ref
    rw [ParameterBuffer.perform, he]
    exact h
  | clear => exact ⟨by simp [ParameterBuffer.perform, ParameterBuffer.clear, h.slots], h.closed⟩
  | receive out =>
    rw [ParameterBuffer.perform]
    cases hreceive : b.receive out with
    | error e => exact h
    | ok b' =>
      -- There is no slot to write to, whatever the engine returned.
      rcases receive_eq_ok_iff.1 hreceive with ⟨-, rfl⟩ | ⟨-, -, rfl⟩
      · exact h
      · exact ⟨by simp [h.slots], h.closed⟩
  | noteRead v => exact ⟨h.slots, h.closed⟩
  | close => exact ⟨rfl, rfl⟩
  | slot ref =>
    obtain ⟨e, he⟩ := h.resolve_eq_error ref
    rw [ParameterBuffer.perform, he]
    exact h
  | overview => exact h

/-- No run of calls brings parameters back. -/
theorem IsReleased.run (h : b.IsReleased) (calls : List ParameterCall) :
    (b.run calls).2.IsReleased := by
  induction calls generalizing b with
  | nil => exact h
  | cons call calls ih => exact ih (h.perform call)

/-- A run that closes the buffer leaves no parameters. -/
theorem isReleased_of_close {calls : List ParameterCall} (hclose : .close ∈ calls) :
    (b.run calls).2.IsReleased := by
  induction calls generalizing b with
  | nil => cases hclose
  | cons call calls ih =>
    rcases List.mem_cons.1 hclose with rfl | hlater
    · -- Closing gives up all parameters, and the rest of the run does not bring them back.
      have hclosed : b.close.IsReleased := ⟨rfl, rfl⟩
      exact hclosed.run calls
    · exact ih hlater

end ParameterBuffer

/-! ## Runs of calls -/

namespace ParameterColumns

variable {c c' : ParameterColumns}

/-- All columns are the same, but for values of parameters that can carry output. -/
def DiffersInOutputs (c c' : ParameterColumns) : Prop :=
  ∃ values : List Value, c' = { c with values := values } ∧
    ∀ i : Nat, values[i]? ≠ c.values[i]? → ∃ p, c.parameters[i]? = some p ∧
      (p.mode = .output ∨ p.mode = .inOut ∨ p.mode = .unknown)

theorem DiffersInOutputs.refl (c : ParameterColumns) : c.DiffersInOutputs c :=
  ⟨c.values, rfl, fun _ hne => absurd rfl hne⟩

/-- Putting a value in one place leaves the others. -/
theorem getElem?_of_setAt? {α : Type} {xs ys : List α} {i j : Nat} {a : α}
    (h : setAt? xs i a = some ys) (hij : i ≠ j) : ys[j]? = xs[j]? := by
  unfold setAt? at h
  split at h
  · cases h
    exact List.getElem?_set_ne hij
  · cases h

/-- Going through the engine's values writes to output parameters only. -/
theorem differsInOutputs_of_overwrite? {writes : List (Value × Nat)}
    (h : c.overwrite? writes = some c') : c.DiffersInOutputs c' := by
  induction writes generalizing c with
  | nil =>
    cases h
    exact .refl _
  | cons write rest ih =>
    obtain ⟨v, j⟩ := write
    rw [overwrite?] at h
    obtain ⟨p, hp, h⟩ := Option.bind_eq_some_iff.1 h
    split at h
    · next hmode =>
      obtain ⟨written, hset, h⟩ := Option.bind_eq_some_iff.1 h
      obtain ⟨values, rfl, hvalues⟩ := ih h
      refine ⟨values, rfl, fun i hi => ?_⟩
      -- Either this is the place that was written first, or it differs by a later write.
      by_cases hij : j = i
      · subst hij
        refine ⟨p, hp, ?_⟩
        revert hmode
        cases p.mode <;> simp [ParameterMode.isOutput]
      · exact hvalues i (by rwa [getElem?_of_setAt? hset hij])
    · exact ih h

/-- Engine values that are taken change output parameters only. -/
theorem differsInOutputs_of_receive? {out : List Value}
    (h : c.receive? out = some (.ok (), c')) : c.DiffersInOutputs c' := by
  unfold receive? at h
  split at h
  · cases h
    exact .refl _
  · split at h
    · -- Only here is anything written. A refusal is no success.
      obtain ⟨written, hwritten, heq⟩ := Option.map_eq_some_iff.1 h
      cases heq
      exact differsInOutputs_of_overwrite? hwritten
    · cases h

/-- The engine returns either no values or one for each parameter. -/
theorem outcome_of_receive? {out : List Value} {outcome : Except Error Unit}
    (h : c.receive? out = some (outcome, c')) :
    outcome = .ok () ↔ out = [] ∨ out.length = c.parameters.length := by
  unfold receive? at h
  split at h
  · next hnone =>
    cases h
    exact iff_of_true rfl (.inl (List.isEmpty_iff.1 hnone))
  · -- With values, their number decides.
    next hsome =>
    rw [List.isEmpty_iff] at hsome
    split at h
    · next hlength =>
      obtain ⟨written, -, heq⟩ := Option.map_eq_some_iff.1 h
      cases heq
      exact iff_of_true rfl (.inr hlength)
    · next hlength =>
      cases h
      exact iff_of_false nofun (not_or.2 ⟨hsome, hlength⟩)

/-- Engine values that are refused change nothing. -/
theorem eq_of_receive?_error {out : List Value} {e : Error}
    (h : c.receive? out = some (.error e, c')) : c' = c := by
  unfold receive? at h
  split at h
  · cases h
  · split at h
    · obtain ⟨written, -, heq⟩ := Option.map_eq_some_iff.1 h
      cases heq
    · cases h
      rfl

/-- After any run of calls on the columns of a new statement, with no index out of bounds and the
answers of the buffer, the columns are equally long, and every index that is resolved lies in all of
them. Engine values are taken if there are none or one for each parameter. Those that are refused
change nothing; those that are taken change the parameters that can carry output, and no others.
Once closed, the columns stay empty and nothing is resolved. -/
theorem run_in_bounds (ps : List Parameter) (calls : List ParameterCall) :
    ∃ answers b c,
      (ParameterBuffer.ofParameters ps).run calls = (answers, b) ∧
      (ofParameters ps).run? calls = some (answers, c) ∧
      c = b.columns ∧
      c.values.length = c.parameters.length ∧
      c.bound.length = c.parameters.length ∧
      (∀ ref i, c.resolve ref = .ok i → i < c.parameters.length) ∧
      (∀ out, ∃ outcome c', c.receive? out = some (outcome, c') ∧
        (outcome = .ok () ↔ out = [] ∨ out.length = c.parameters.length) ∧
        (∀ e, outcome = .error e → c' = c) ∧
        (outcome = .ok () → c.DiffersInOutputs c' ∧
          (out ≠ [] → ∀ (i : Nat) (p : Parameter), c.parameters[i]? = some p →
            p.mode.isOutput = true → c'.values[i]? = out[i]?))) ∧
      (.close ∈ calls →
        c.parameters = [] ∧ c.names = [] ∧ c.values = [] ∧ c.bound = [] ∧ c.closed = true ∧
          ∀ ref, ∃ e, c.resolve ref = .error e) := by
  rcases hrun : (ParameterBuffer.ofParameters ps).run calls with ⟨answers, b⟩
  -- The columns run along with the buffer, whose state says all that is claimed of them.
  have hcolumns := ParameterBuffer.run?_columns (.ofParameters ps) calls
  rw [hrun, ParameterBuffer.columns_ofParameters] at hcolumns
  have hcount : b.columns.parameters.length = b.count := b.length_parameters
  refine ⟨answers, b, b.columns, rfl, hcolumns, rfl, ?_, ?_, ?_, ?_, ?_⟩
  · rw [hcount]
    exact List.length_map ..
  · rw [hcount]
    exact List.length_map ..
  · intro ref i hresolve
    rw [hcount]
    exact ParameterBuffer.lt_of_resolve_columns hresolve
  · intro out
    -- Taking values always has a result, since it never indexes out of bounds.
    obtain ⟨⟨outcome, c'⟩, hreceive⟩ : ∃ result, b.columns.receive? out = some result :=
      ⟨_, b.receive?_columns out⟩
    refine ⟨outcome, c', hreceive, outcome_of_receive? hreceive, ?_, ?_⟩
    · rintro e rfl
      exact eq_of_receive?_error hreceive
    · rintro rfl
      refine ⟨differsInOutputs_of_receive? hreceive, fun hne i p hp hmode => ?_⟩
      exact ParameterBuffer.written_of_receive?_columns hreceive hne hp hmode
  · intro hclose
    have hreleased : ((ParameterBuffer.ofParameters ps).run calls).2.IsReleased :=
      ParameterBuffer.isReleased_of_close hclose
    rw [hrun] at hreleased
    rw [hreleased.columns_eq]
    refine ⟨rfl, rfl, rfl, rfl, rfl, fun ref => ?_⟩
    obtain ⟨e, he⟩ := hreleased.resolve_eq_error ref
    rw [← hreleased.columns_eq, ParameterBuffer.resolve_columns, he]
    exact ⟨e, rfl⟩

/-- Four parameters, of which two have the same name and one has none: values set by a name in
lower case and by an ordinal, engine values that fit and some that do not, and a close. -/
theorem run_in_bounds_four :
    let ps : List Parameter :=
      [.described "A" .integer .input, .described "Result" .integer .output,
        .described "" .varChar .inOut, .described "A" .varChar .input]
    let calls : List ParameterCall :=
      [.set (.name "a") (.integer 7), .set (.ordinal 3) (.string "x"), .set (.ordinal 5) .null,
        .receive [.integer 99, .integer 42, .string "changed", .null], .noteRead .null]
    let columns : ParameterColumns :=
      { parameters := ps
        names := [("A", 0), ("Result", 1)]
        values := [.integer 7, .integer 42, .string "changed", .null]
        bound := [true, false, true, false]
        wasNull := true
        closed := false }
    (ofParameters ps).run? calls =
        some ([.ok .done, .ok .done, .error (.invalidParameterIndex 5 4), .ok .done, .ok .done],
          columns) ∧
      (∀ ref i, columns.resolve ref = .ok i → i < 4) ∧
      (∃ e, columns.receive? [.null] = some (.error e, columns)) ∧
      (∃ c, columns.receive? [.null, .null, .null, .null] = some (.ok (), c) ∧
        columns.DiffersInOutputs c ∧ c.values = [.integer 7, .null, .null, .null]) ∧
      ∃ answers c, (ofParameters ps).run? (calls ++ [.close]) = some (answers, c) ∧
        c.values = [] ∧ c.bound = [] ∧ c.closed = true ∧ ∀ ref, ∃ e, c.resolve ref = .error e := by
  intro ps calls columns
  have hrun : (ofParameters ps).run? calls =
      some ([.ok .done, .ok .done, .error (.invalidParameterIndex 5 4), .ok .done, .ok .done],
        columns) := by
    rfl
  obtain ⟨answers, -, c, -, hc, -, -, -, hresolve, hreceive, -⟩ := run_in_bounds ps calls
  cases hrun.symm.trans hc
  obtain ⟨answers, -, c, -, hc, -, -, -, -, -, hclose⟩ := run_in_bounds ps (calls ++ [.close])
  obtain ⟨-, -, hvalues, hbound, hclosed, hnone⟩ := hclose (by simp)
  refine ⟨hrun, hresolve, ⟨_, rfl⟩, ?_, answers, c, hc, hvalues, hbound, hclosed, hnone⟩
  obtain ⟨outcome, c', hwritten, -, -, houtputs⟩ := hreceive [.null, .null, .null, .null]
  cases hwritten
  exact ⟨_, rfl, (houtputs rfl).1, rfl⟩

end ParameterColumns

end SqlAccess
