import SqlAccess.Engine.Script
import SqlAccess.Proofs.Statement.Effect

/-!
# The values that executions send

The value of a parameter is written by setters, by clearing and by the engine, in any order. Here
the writes of a statement's life are kept as a list of events, and `ValueSent` says by that list
alone what an execution has to send for a parameter. The main result is that this is what is sent
(`execute_sends`).

The statement and the list go together step by step (`Records`), and what one command does to both
is read off its effect (`Records.step`). Other things may happen to the connection between two
commands on the statement, so each command comes with the connection that it finds.
-/

namespace SqlAccess

open SqlAccess.Calendar

/-! ## Events -/

/-- Something that writes to the parameters of a statement. -/
inductive Event
  /-- A setter that succeeds. -/
  | set (ref : ParameterRef) (a : Argument)
  | clear
  /-- The engine's values after an execution. -/
  | answer (out : List Value)

/-- A command on a statement, and the connection as the command finds it. -/
structure Turn where
  command : CallableCommand
  connection : Connection

namespace Turn

/-- What comes of a turn. -/
def result (t : Turn) (s : PreparedStatement) :
    EStateM.Result Error (PreparedStatement × Connection) Outcome :=
  t.command.perform (s, t.connection)

/-- The statement after a turn. -/
def statement (t : Turn) (s : PreparedStatement) : PreparedStatement :=
  (finalState (t.result s)).1

/-- The calls that are made in a turn. -/
def calls (t : Turn) (s : PreparedStatement) : List Call :=
  (finalState (t.result s)).2.calls.drop t.connection.calls.length

/-- The client is told that the command succeeded. -/
def succeeds (t : Turn) (s : PreparedStatement) : Bool :=
  match t.result s with
  | .ok _ _ => true
  | .error _ _ => false

/-- What a turn writes to the parameters, going by its success and the engine's answer. -/
def event? (t : Turn) (s : PreparedStatement) : Option Event :=
  match t.command.role with
  | .set ref a => if t.succeeds s then some (.set ref a) else none
  | .clear => if t.succeeds s then some .clear else none
  | .execute =>
    match t.calls s with
    | [.execute r] =>
      match t.connection.engine.answer t.connection.calls (.execute r) with
      | .ok response => some (.answer response.out)
      | .error _ => none
    | _ => none
  | _ => none

end Turn

/-- The statement after some turns, and all its events, the newest first. -/
def PreparedStatement.follow (s : PreparedStatement) (past : List Event) :
    List Turn → PreparedStatement × List Event
  | [] => (s, past)
  | t :: turns => (t.statement s).follow ((t.event? s).toList ++ past) turns

/-! ## What has to be sent -/

/-- The index of the parameter that is meant. -/
def ParameterRef.index? (ps : List Parameter) : ParameterRef → Option Nat
  | .ordinal n => if n = 0 then none else some (n - 1)
  | .name s => Parameter.find? ps s

/-- The value that an argument stands for, coerced to the declared type. -/
def Parameter.valueOf (p : Parameter) (zone : Offset) (a : Argument) : Except Error Value := do
  coerceForParameter (← a.given zone) p.type zone

/-- The argument that a parameter was set to last, since the last clear. -/
def lastSet? (ps : List Parameter) (i : Nat) : List Event → Option Argument
  | [] => none
  | .set ref a :: past => if ref.index? ps = some i then some a else lastSet? ps i past
  | .clear :: _ => none
  | .answer _ :: past => lastSet? ps i past

/-- The value that the client or the engine wrote last, since the last clear. Values of the engine
that are not one for each parameter are none. -/
def lastWrite? (ps : List Parameter) (zone : Offset) (i : Nat) : List Event → Option Value
  | [] => none
  | .set ref a :: past =>
    if ref.index? ps = some i then
      ps[i]?.bind fun p => (p.valueOf zone a).toOption
    else lastWrite? ps zone i past
  | .clear :: _ => none
  | .answer out :: past =>
    if out ≠ [] ∧ out.length = ps.length then out[i]? else lastWrite? ps zone i past

/-- The value that an execution has to send for a parameter after some events. -/
def ValueSent (ps : List Parameter) (zone : Offset) (past : List Event) (i : Nat) (p : Parameter)
    (v : Value) : Prop :=
  match p.mode with
  | .output => v = .null
  | .input => ∃ a, lastSet? ps i past = some a ∧ p.valueOf zone a = .ok v
  -- Whoever wrote last; but the client has to write at all.
  | _ => (lastSet? ps i past).isSome ∧ lastWrite? ps zone i past = some v

/-! ## Slots and events -/

/-- A slot holds what the events wrote to it. -/
structure SlotRecords (ps : List Parameter) (zone : Offset) (past : List Event) (i : Nat)
    (slot : Slot) : Prop where
  bound : slot.bound = (lastSet? ps i past).isSome
  input : slot.parameter.mode = .input → ∀ a, lastSet? ps i past = some a →
    slot.parameter.valueOf zone a = .ok slot.value
  output : slot.parameter.mode.isOutput = true → slot.bound = true →
    lastWrite? ps zone i past = some slot.value

/-- A statement holds what the events wrote to it, for as long as it is open. -/
structure Records (d : Description) (sql : String) (zone : Offset) (s : PreparedStatement)
    (past : List Event) : Prop where
  id : s.id = d.id
  native : s.statement.native = Statement.nativeSql sql
  zone_eq : s.zone = zone
  parameters : s.parameters.closed = false → s.parameters.parameters = d.parameters
  slots : s.parameters.closed = false → ∀ i slot, s.parameters.slots[i]? = some slot →
    SlotRecords d.parameters zone past i slot

/-- What is resolved has the index that is meant. -/
theorem ParameterBuffer.index?_of_resolve {b : ParameterBuffer} {ref : ParameterRef} {index : Nat}
    {slot : Slot} (h : b.resolve ref = .ok (index, slot)) :
    ref.index? b.parameters = some index := by
  cases ref with
  | ordinal n =>
    obtain ⟨-, rfl⟩ := getElem?_of_slotAt h
    rfl
  -- A name is resolved by way of its ordinal.
  | name s =>
    simp only [resolve] at h
    split at h
    · cases h
    · obtain ⟨n, hn, hslot⟩ := bind_eq_ok_iff.1 h
      obtain ⟨-, rfl⟩ := getElem?_of_slotAt hslot
      unfold Parameter.ordinal at hn
      split at hn
      · next k hk =>
        cases hn
        exact hk
      · cases hn

theorem ParameterBuffer.getElem?_parameters {b : ParameterBuffer} {i : Nat} {slot : Slot}
    (h : b.slots[i]? = some slot) : b.parameters[i]? = some slot.parameter := by
  rw [parameters, List.getElem?_map, h]
  rfl

/-- The engine's values are written to the slots of the same parameters. -/
theorem ParameterBuffer.parameters_zipWith_receive {b : ParameterBuffer} {out : List Value}
    (h : out.length = b.count) :
    (List.zipWith Slot.receive b.slots out).map (·.parameter) = b.parameters := by
  have hreceive (slot : Slot) (v : Value) : (slot.receive v).parameter = slot.parameter := by
    unfold Slot.receive
    split <;> rfl
  apply List.ext_getElem
  · simp [parameters, h, count]
  · intro i h₁ h₂
    simp [parameters, hreceive]

namespace SlotRecords

variable {ps : List Parameter} {zone : Offset} {past : List Event} {i : Nat} {slot : Slot}

/-- A slot that was cleared holds nothing, and no event before counts. -/
theorem cleared (p : Parameter) : SlotRecords ps zone (.clear :: past) i (.blank p) where
  bound := rfl
  input := nofun
  output := nofun

/-- A slot that was set holds the value of the setter. -/
theorem set {ref : ParameterRef} {a : Argument} {v : Value} (hi : ref.index? ps = some i)
    (hp : ps[i]? = some slot.parameter) (hv : slot.parameter.valueOf zone a = .ok v) :
    SlotRecords ps zone (.set ref a :: past) i (slot.bind v) where
  bound := by simp [lastSet?, hi, Slot.bind]
  input := by
    intro _ b hb
    rw [lastSet?, if_pos hi] at hb
    cases hb
    exact hv
  output := by
    intro _ _
    rw [lastWrite?, if_pos hi, hp]
    simp [hv, Slot.bind, Except.toOption]

theorem setOther {ref : ParameterRef} {a : Argument} (hi : ref.index? ps ≠ some i)
    (h : SlotRecords ps zone past i slot) : SlotRecords ps zone (.set ref a :: past) i slot where
  bound := by rw [lastSet?, if_neg hi, h.bound]
  input := by rw [lastSet?, if_neg hi]; exact h.input
  output := by rw [lastWrite?, if_neg hi]; exact h.output

/-- A slot takes the engine's value if its parameter can carry output. -/
theorem received {out : List Value} {v : Value} (hlength : out.length = ps.length)
    (hv : out[i]? = some v) (h : SlotRecords ps zone past i slot) :
    SlotRecords ps zone (.answer out :: past) i (slot.receive v) := by
  -- There is a value for this slot, so that the engine returned some.
  have hne : out ≠ [] := by rintro rfl; cases hv
  unfold Slot.receive
  split
  · next hmode =>
    exact
      { bound := h.bound
        -- A slot that takes the engine's value is none of an input parameter.
        input := fun hinput => by
          change slot.parameter.mode = .input at hinput
          rw [hinput] at hmode
          cases hmode
        output := fun _ _ => by rw [lastWrite?, if_pos ⟨hne, hlength⟩, hv] }
  · next hmode =>
    exact
      { bound := h.bound
        input := h.input
        output := fun houtput => absurd houtput hmode }

theorem ignored {out : List Value} (hout : ¬(out ≠ [] ∧ out.length = ps.length))
    (h : SlotRecords ps zone past i slot) : SlotRecords ps zone (.answer out :: past) i slot where
  bound := h.bound
  input := h.input
  output := by rw [lastWrite?, if_neg hout]; exact h.output

end SlotRecords

/-! ## Statements and events -/

namespace Records

variable {d : Description} {sql : String} {zone : Offset} {s s' : PreparedStatement}
  {past : List Event}

/-- A new statement holds nothing, as no event has written to it. -/
theorem initial (d : Description) (sql : String) (config : Config) :
    Records d sql config.timeZone (.ofDescription (.ofSql sql) d config) [] where
  id := rfl
  native := rfl
  zone_eq := rfl
  parameters _ := ParameterBuffer.parameters_ofParameters d.parameters
  slots := by
    intro _ i slot hslot
    change (d.parameters.map Slot.blank)[i]? = some slot at hslot
    rw [List.getElem?_map] at hslot
    obtain ⟨p, -, rfl⟩ := Option.map_eq_some_iff.1 hslot
    exact { bound := rfl, input := nofun, output := nofun }

/-- Whatever leaves the slots as they are, or closes the statement, writes nothing. -/
theorem of_slots (h : Records d sql zone s past) (hid : s'.id = s.id)
    (hstatement : s'.statement = s.statement) (hzone : s'.zone = s.zone)
    (hslots : s'.parameters.closed = false →
      s.parameters.closed = false ∧ s'.parameters.slots = s.parameters.slots) :
    Records d sql zone s' past where
  id := hid.trans h.id
  native := by rw [hstatement, h.native]
  zone_eq := hzone.trans h.zone_eq
  parameters hopen := by
    obtain ⟨hs, heq⟩ := hslots hopen
    rw [ParameterBuffer.parameters, heq]
    exact h.parameters hs
  slots hopen := by
    obtain ⟨hs, heq⟩ := hslots hopen
    rw [heq]
    exact h.slots hs

/-- A setter writes to one slot, and the event tells which. -/
theorem set {ref : ParameterRef} {a : Argument} {index : Nat} {slot : Slot} {given v : Value}
    (h : Records d sql zone s past) (hs : s.parameters.closed = false)
    (href : s.parameters.resolve ref = .ok (index, slot)) (hgiven : a.given s.zone = .ok given)
    (hv : coerceForParameter given slot.parameter.type s.zone = .ok v) :
    Records d sql zone { s with parameters := s.parameters.bind index v } (.set ref a :: past) where
  id := h.id
  native := h.native
  zone_eq := h.zone_eq
  parameters _ := by rw [ParameterBuffer.parameters_bind, h.parameters hs]
  slots := by
    intro _ i other hother
    have hindex := ParameterBuffer.index?_of_resolve href
    have hslot := ParameterBuffer.getElem?_of_resolve href
    rw [h.parameters hs] at hindex
    rw [ParameterBuffer.bind, List.getElem?_modify] at hother
    -- One slot gets the new value, and the others stay as they are.
    by_cases hi : index = i
    · subst hi
      rw [hslot] at hother
      obtain rfl : slot.bind v = other := by simpa using hother
      -- The declared type is that of the description.
      have hp := ParameterBuffer.getElem?_parameters hslot
      rw [h.parameters hs] at hp
      refine .set hindex hp (bind_eq_ok_iff.2 ⟨given, ?_, ?_⟩)
      · rw [← h.zone_eq, hgiven]
      · rw [← h.zone_eq, hv]
    · have hbefore : s.parameters.slots[i]? = some other := by simpa [hi] using hother
      exact .setOther (by rw [hindex]; simpa using hi) (h.slots hs i other hbefore)

/-- Clearing writes to all slots. -/
theorem cleared (h : Records d sql zone s past) (hs : s.parameters.closed = false) :
    Records d sql zone { s with parameters := s.parameters.clear } (.clear :: past) where
  id := h.id
  native := h.native
  zone_eq := h.zone_eq
  parameters _ := by rw [ParameterBuffer.parameters_clear, h.parameters hs]
  slots := by
    intro _ i slot hslot
    rw [ParameterBuffer.clear, List.getElem?_map] at hslot
    obtain ⟨before, -, rfl⟩ := Option.map_eq_some_iff.1 hslot
    exact .cleared _

/-- Values that are not one for each parameter write nothing. -/
theorem ignored {out : List Value} (h : Records d sql zone s past)
    (hout : ¬(out ≠ [] ∧ out.length = s.parameters.count)) :
    Records d sql zone s (.answer out :: past) where
  id := h.id
  native := h.native
  zone_eq := h.zone_eq
  parameters := h.parameters
  slots hs i slot hslot := by
    have hcount : s.parameters.count = d.parameters.length := by
      rw [← h.parameters hs, ParameterBuffer.parameters, List.length_map, ParameterBuffer.count]
    rw [hcount] at hout
    exact .ignored hout (h.slots hs i slot hslot)

/-- Engine values that are taken up write to the slots of output parameters. -/
theorem answered {out : List Value} {parameters : ParameterBuffer}
    (h : Records d sql zone s past) (hs : s.parameters.closed = false)
    (hreceive : s.parameters.receive out = .ok parameters) :
    Records d sql zone { s with parameters := parameters } (.answer out :: past) := by
  unfold ParameterBuffer.receive at hreceive
  split at hreceive
  · next hempty =>
    cases hreceive
    exact h.ignored fun hout => hout.1 (by simpa using hempty)
  · split at hreceive
    · next hlength =>
      cases hreceive
      have hparameters := ParameterBuffer.parameters_zipWith_receive hlength
      have hcount : out.length = d.parameters.length := by
        rw [hlength, ← h.parameters hs, ParameterBuffer.parameters, List.length_map,
          ParameterBuffer.count]
      refine
        { id := h.id
          native := h.native
          zone_eq := h.zone_eq
          parameters := fun _ => hparameters.trans (h.parameters hs)
          slots := fun _ i slot hslot => ?_ }
      -- Slot by slot, the value with the same index was received.
      obtain ⟨before, v, hbefore, hv, rfl⟩ := List.getElem?_zipWith_eq_some.1 hslot
      exact .received hcount hv (h.slots hs i before hbefore)
    · cases hreceive

/-- What one turn does to the statement and to the events. -/
theorem step (h : Records d sql zone s past) (t : Turn) :
    Records d sql zone (t.statement s) ((t.event? s).toList ++ past) := by
  have heffect : Effect s t.connection t.command.role (t.result s) := perform_effect ..
  -- The event is read off the same result as the statement, so that both have the same cases.
  unfold Turn.statement Turn.event? Turn.succeeds Turn.calls
  generalize t.command.role = role at *
  generalize t.result s = result at *
  cases heffect with
  | refused => cases role <;> simpa using h
  | set hs href _ hgiven hv => exact h.set hs href hgiven hv
  | cleared hs => exact h.cleared hs
  | failed _ hanswer =>
    have hkept : Records d sql zone s.withoutResults past :=
      h.of_slots rfl rfl rfl fun hs => ⟨hs, rfl⟩
    simpa [Connection.log, hanswer] using hkept
  | @rejected _ response _ _ hanswer hreceive =>
    -- The answer was refused, so that it had values, but not one for each parameter.
    have hout : ¬(response.out ≠ [] ∧ response.out.length = s.parameters.count) := by
      rintro ⟨hne, hlength⟩
      rw [ParameterBuffer.receive, if_neg (by simpa using hne), if_pos hlength] at hreceive
      cases hreceive
    have hkept : Records d sql zone s.withoutResults (.answer response.out :: past) :=
      (h.ignored hout).of_slots rfl rfl rfl fun hs => ⟨hs, rfl⟩
    simpa [Connection.log, hanswer] using hkept
  | @accepted _ response parameters _ current pending hrequest hanswer hreceive hfinal =>
    have hs := (PreparedStatement.request_eq_ok_iff.1 hrequest).1
    have hkept : Records d sql zone
        { s with parameters := parameters, current := current, pending := pending }
        (.answer response.out :: past) :=
      (h.answered hs hreceive).of_slots rfl rfl rfl fun hopen => ⟨hopen, rfl⟩
    simpa [hfinal, Connection.log, hanswer] using hkept
  | cancelled =>
    rw [finalState_reported]
    exact h
  | closedAgain => exact h
  | closedLate => exact h.of_slots rfl rfl rfl nofun
  | closed =>
    rw [finalState_reported]
    exact h.of_slots rfl rfl rfl nofun
  | asked => exact h
  | observed hs hfinal =>
    rw [hfinal]
    exact h.of_slots rfl rfl rfl fun _ => ⟨hs, rfl⟩

/-- What holds of the events holds after any turns. -/
theorem follow (h : Records d sql zone s past) (turns : List Turn) :
    Records d sql zone (s.follow past turns).1 (s.follow past turns).2 := by
  induction turns generalizing s past with
  | nil => exact h
  | cons t turns ih => exact ih (h.step t)

end Records

/-! ## What is sent -/

/-- A call of a turn that executes is the statement's own request. -/
theorem Turn.request_of_mem_calls {t : Turn} {s : PreparedStatement} {r : Request}
    (h : .execute r ∈ t.calls s) : s.request t.connection = .ok r := by
  have heffect : Effect s t.connection t.command.role (t.result s) := perform_effect ..
  unfold Turn.calls at h
  generalize t.command.role = role at heffect
  generalize t.result s = result at *
  cases heffect with
  -- The one call of an execution is its request, and no other effect executes.
  | failed hrequest _ =>
    obtain rfl : r = _ := by simpa [Connection.log] using h
    exact hrequest
  | rejected hrequest _ _ =>
    obtain rfl : r = _ := by simpa [Connection.log] using h
    exact hrequest
  | accepted hrequest _ _ hfinal =>
    obtain rfl : r = _ := by simpa [hfinal, Connection.log] using h
    exact hrequest
  | cancelled => simp [Connection.log] at h
  | closed => simp [Connection.log] at h
  | observed _ hfinal => simp [hfinal] at h
  | _ => simp at h

/-- A slot that is not unset sends what the events ask for. -/
theorem SlotRecords.valueSent {ps : List Parameter} {zone : Offset} {past : List Event} {i : Nat}
    {slot : Slot} (h : SlotRecords ps zone past i slot) (hset : ¬slot.IsUnset) :
    ValueSent ps zone past i slot.parameter slot.sent := by
  -- Any parameter but an output one was set, or else it would be unset.
  have hbound (hmode : slot.parameter.mode ≠ .output) : slot.bound = true := by
    simpa using fun hb => hset ⟨hmode, hb⟩
  unfold ValueSent Slot.sent
  cases hmode : slot.parameter.mode with
  | output => rfl
  | input =>
    have hb := hbound (by simp [hmode])
    obtain ⟨a, ha⟩ := Option.isSome_iff_exists.1 (h.bound ▸ hb)
    exact ⟨a, ha, h.input hmode a ha⟩
  | unknown =>
    have hb := hbound (by simp [hmode])
    exact ⟨h.bound ▸ hb, h.output (by rw [hmode]; rfl) hb⟩
  | inOut =>
    have hb := hbound (by simp [hmode])
    exact ⟨h.bound ▸ hb, h.output (by rw [hmode]; rfl) hb⟩

/-- Every execution sends the statement's id, its native text and one value for each parameter, and
each value is the one that the events before ask for. -/
theorem execute_sends {sql : String} {d : Description} {config : Config} {turns : List Turn}
    {s : PreparedStatement} {past : List Event} {t : Turn} {r : Request}
    (hturns : (PreparedStatement.ofDescription (.ofSql sql) d config).follow [] turns = (s, past))
    (h : .execute r ∈ t.calls s) :
    r.statementId = some d.id ∧ r.sql = Statement.nativeSql sql ∧
      r.parameters.length = d.parameters.length ∧
      ∀ i p v, d.parameters[i]? = some p → r.parameters[i]? = some v →
        ValueSent d.parameters config.timeZone past i p v := by
  have hrecords := (Records.initial d sql config).follow turns
  rw [hturns] at hrecords
  have hrequest := Turn.request_of_mem_calls h
  obtain ⟨hs, -, hready, rfl⟩ := PreparedStatement.request_eq_ok_iff.1 hrequest
  have hparameters := hrecords.parameters hs
  refine ⟨congrArg some hrecords.id, hrecords.native, ?_, ?_⟩
  · rw [← hparameters, ParameterBuffer.parameters, List.length_map]
    exact PreparedStatement.length_parameters_of_request hrequest
  · intro i p v hp hv
    change (s.parameters.slots.map Slot.sent)[i]? = some v at hv
    rw [List.getElem?_map] at hv
    obtain ⟨slot, hslot, rfl⟩ := Option.map_eq_some_iff.1 hv
    rw [← hparameters, ParameterBuffer.getElem?_parameters hslot] at hp
    cases hp
    -- The request was made, so that no input parameter was left unset.
    have hset := ParameterBuffer.firstUnsetInput?_eq_none_iff.1 hready slot
      (List.mem_of_getElem? hslot)
    exact (hrecords.slots hs i slot hslot).valueSent hset

/-- The second execution of a call sends the client's value and the one that the engine returned for
the other parameter, over the client's. -/
theorem execute_sends_twice :
    let d : Description :=
      ⟨7, .call, [.described "A" .boolean .input, .described "B" .boolean .inOut], []⟩
    let response : Response := ⟨[], [.boolean false, .boolean false]⟩
    let script : Script := ⟨[], [("CALL P(?, ?)", [.ok response, .ok response])], []⟩
    let t : Turn := ⟨.plain .execute, .ofConfig default script.engine⟩
    let turns : List Turn :=
      [⟨.plain (.setParameter 1 (.value (.boolean true))), t.connection⟩,
        ⟨.setParameter (.name "b") (.value (.boolean true)), t.connection⟩, t]
    let start := PreparedStatement.ofDescription (.ofSql "CALL P(?, ?)") d default
    ∃ r, .execute r ∈ t.calls (start.follow [] turns).1 ∧
      r.parameters = [.boolean true, .boolean false] ∧ r.statementId = some 7 ∧
      ∀ i p v, d.parameters[i]? = some p → r.parameters[i]? = some v →
        ValueSent d.parameters (default : Config).timeZone (start.follow [] turns).2 i p v := by
  intro d response script t turns start
  have h : .execute (start.follow [] turns).1.readyRequest ∈ t.calls (start.follow [] turns).1 :=
    .head _
  obtain ⟨hid, -, -, hvalues⟩ := execute_sends (Prod.eta (start.follow [] turns)).symm h
  exact ⟨_, h, rfl, hid, hvalues⟩

end SqlAccess
