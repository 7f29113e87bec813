import SqlAccess.Proofs.Statement.History

/-!
# Output parameters

What a client reads from an output parameter is what was written to it last, by the client or by the
engine. If the engine answers an execution with values, there is one for each parameter, and they
are the ones that are read after it. But an answer without values is taken too, also when there are
parameters that wait for values, and then the client reads what an earlier execution left
(`execution_output`, `execution_output_stale`).

Parameters that carry input as well are covered by what executions send (`SlotRecords`). For those
that only carry output `HoldsLastWrite` is kept along a run: nobody but the engine writes to them,
and they hold NULL if nobody did.
-/

namespace SqlAccess

open SqlAccess.Calendar

/-! ## What is read -/

/-- The empty name is not found, not even among parameters without a name. -/
theorem Parameter.find?_empty (ps : List Parameter) : Parameter.find? ps "" = none := by
  have hupper : Parameter.upperName "" = "" := rfl
  simp [Parameter.find?, Parameter.named?, hupper]

/-- A parameter that can be found is one that can be read and set. -/
theorem ParameterBuffer.resolve_of_index? {b : ParameterBuffer} {ref : ParameterRef} {i : Nat}
    {slot : Slot} (hindex : ref.index? b.parameters = some i) (hslot : b.slots[i]? = some slot) :
    b.resolve ref = .ok (i, slot) := by
  cases ref with
  | ordinal n =>
    obtain ⟨hn, rfl⟩ : n ≠ 0 ∧ n - 1 = i := by simpa [ParameterRef.index?] using hindex
    simp [resolve, slotAt, hn, hslot]
  -- A name that has an index is not empty, and so it gets as far as the search.
  | name s =>
    have hfound : Parameter.find? b.parameters s = some i := by
      simpa [ParameterRef.index?] using hindex
    have hs : s ≠ "" := by
      intro hempty
      rw [hempty, Parameter.find?_empty] at hfound
      cases hfound
    have hordinal : Parameter.ordinal b.parameters s = .ok (i + 1) := by
      rw [Parameter.ordinal, hfound]
    simp only [resolve, if_neg hs, hordinal]
    exact slotAt_succ hslot

/-- A getter answers for the value in the slot. -/
theorem CallableStatement.get_of_slot {s : CallableStatement} {ref : ParameterRef} {i : Nat}
    {slot : Slot} (hs : s.parameters.closed = false)
    (hindex : ref.index? s.parameters.parameters = some i)
    (hslot : s.parameters.slots[i]? = some slot) (hmode : slot.parameter.mode.isOutput = true)
    (g : Getter) : (get s ref g).1 = g.answer slot.value slot.parameter.type s.zone := by
  have houtput : outputSlot s ref = .ok slot := by
    have hopen : s.requireOpen = .ok () := ParameterBuffer.requireOpen_eq_ok_iff.2 hs
    have hresolve := ParameterBuffer.resolve_of_index? hindex hslot
    simp only [outputSlot, hopen, hresolve, bind, Except.bind, hmode]
    rfl
  unfold get
  rw [houtput]
  split <;> rfl

/-! ## Parameters that only carry output -/

/-- An open statement holds the last write to each parameter that only carries output. -/
def HoldsLastWrites (d : Description) (zone : Offset) (s : PreparedStatement)
    (past : List Event) : Prop :=
  s.parameters.closed = false → ∀ i slot, s.parameters.slots[i]? = some slot →
    slot.parameter.mode = .output →
      slot.value = (lastWrite? d.parameters zone i past).getD .null

/-- For as long as the statement is open, there are as many slots as parameters described. -/
theorem Records.count_eq {d : Description} {sql : String} {zone : Offset} {s : PreparedStatement}
    {past : List Event} (h : Records d sql zone s past) (hs : s.parameters.closed = false) :
    s.parameters.count = d.parameters.length := by
  rw [← h.parameters hs, ParameterBuffer.parameters, List.length_map, ParameterBuffer.count]

namespace HoldsLastWrites

variable {d : Description} {sql : String} {zone : Offset} {s s' : PreparedStatement}
  {past : List Event}

/-- At first nothing was written, and everything is NULL. -/
theorem initial (d : Description) (sql : String) (config : Config) :
    HoldsLastWrites d config.timeZone (.ofDescription (.ofSql sql) d config) [] := by
  intro _ i slot hslot _
  change (d.parameters.map Slot.blank)[i]? = some slot at hslot
  rw [List.getElem?_map] at hslot
  obtain ⟨p, -, rfl⟩ := Option.map_eq_some_iff.1 hslot
  rfl

/-- Whatever does not touch the slots keeps the last writes. -/
theorem of_slots (h : HoldsLastWrites d zone s past)
    (hslots : s'.parameters.closed = false →
      s.parameters.closed = false ∧ s'.parameters.slots = s.parameters.slots) :
    HoldsLastWrites d zone s' past := by
  intro hopen
  obtain ⟨hs, heq⟩ := hslots hopen
  rw [heq]
  exact h hs

theorem of_released : HoldsLastWrites d zone s.released past := by
  intro hopen
  cases hopen

/-- The client writes to other parameters only. -/
theorem set {ref : ParameterRef} {a : Argument} {index : Nat} {slot : Slot} {v : Value}
    (h : HoldsLastWrites d zone s past) (hs : s.parameters.closed = false)
    (hindex : ref.index? d.parameters = some index)
    (hslot : s.parameters.slots[index]? = some slot) (hmode : slot.parameter.mode ≠ .output) :
    HoldsLastWrites d zone { s with parameters := s.parameters.bind index v }
      (.set ref a :: past) := by
  intro _ i other hother houtput
  rw [ParameterBuffer.bind, List.getElem?_modify] at hother
  by_cases hi : index = i
  · subst hi
    -- The slot that is set is not one of those that only carry output.
    rw [hslot] at hother
    obtain rfl : slot.bind v = other := by simpa using hother
    exact absurd houtput hmode
  · have hbefore : s.parameters.slots[i]? = some other := by simpa [hi] using hother
    rw [lastWrite?, hindex, if_neg (by simpa using hi)]
    exact h hs i other hbefore houtput

theorem cleared : HoldsLastWrites d zone { s with parameters := s.parameters.clear }
    (.clear :: past) := by
  intro _ i slot hslot _
  rw [ParameterBuffer.clear, List.getElem?_map] at hslot
  obtain ⟨before, -, rfl⟩ := Option.map_eq_some_iff.1 hslot
  rfl

/-- Values that are not one for each parameter write nothing. -/
theorem ignored {out : List Value} (h : HoldsLastWrites d zone s past)
    (hout : ¬(out ≠ [] ∧ out.length = d.parameters.length)) :
    HoldsLastWrites d zone s (.answer out :: past) := by
  intro hs i slot hslot houtput
  rw [lastWrite?, if_neg hout]
  exact h hs i slot hslot houtput

/-- With one value for each parameter, the answer is the last write to those that carry output. -/
theorem answered {out : List Value} (hne : out ≠ []) (hlength : out.length = d.parameters.length) :
    HoldsLastWrites d zone
      { s with
        parameters :=
          { s.parameters with slots := List.zipWith Slot.receive s.parameters.slots out } }
      (.answer out :: past) := by
  intro _ i slot hslot houtput
  obtain ⟨before, v, -, hv, rfl⟩ := List.getElem?_zipWith_eq_some.1 hslot
  rw [lastWrite?, if_pos ⟨hne, hlength⟩, hv]
  unfold Slot.receive at houtput ⊢
  split at houtput
  · next hmode =>
    rw [if_pos hmode]
    rfl
  · next hmode =>
    rw [houtput] at hmode
    exact absurd rfl hmode

/-- What one turn does to the statement and to the events. -/
theorem step (h : HoldsLastWrites d zone s past) (hrecords : Records d sql zone s past) (t : Turn) :
    HoldsLastWrites d zone (t.statement s) ((t.event? s).toList ++ past) := by
  have heffect : Effect s t.connection t.command.role (t.result s) := perform_effect ..
  unfold Turn.statement Turn.event? Turn.succeeds Turn.calls
  generalize t.command.role = role at *
  generalize t.result s = result at *
  cases heffect with
  | refused => cases role <;> simpa using h
  -- The parameter that is meant has this index in the description too.
  | set hs href hmode _ _ =>
    have hindex := ParameterBuffer.index?_of_resolve href
    rw [hrecords.parameters hs] at hindex
    exact h.set hs hindex (ParameterBuffer.getElem?_of_resolve href) hmode
  | cleared => exact cleared
  | failed _ hanswer =>
    have hkept : HoldsLastWrites d zone s.withoutResults past := h.of_slots fun hs => ⟨hs, rfl⟩
    simpa [Connection.log, hanswer] using hkept
  | @rejected _ response _ hrequest hanswer hreceive =>
    have hs := (PreparedStatement.request_eq_ok_iff.1 hrequest).1
    -- Had there been one value for each parameter, they would have been taken.
    have hout : ¬(response.out ≠ [] ∧ response.out.length = d.parameters.length) := by
      rintro ⟨hne, hlength⟩
      rw [← hrecords.count_eq hs] at hlength
      rw [ParameterBuffer.receive_eq_ok_iff.2 (.inr ⟨hne, hlength, rfl⟩)] at hreceive
      cases hreceive
    have hkept : HoldsLastWrites d zone s.withoutResults (.answer response.out :: past) :=
      (h.ignored hout).of_slots fun hs => ⟨hs, rfl⟩
    simpa [Connection.log, hanswer] using hkept
  | @accepted _ response parameters _ current pending hrequest hanswer hreceive hfinal =>
    have hs := (PreparedStatement.request_eq_ok_iff.1 hrequest).1
    have hkept : HoldsLastWrites d zone
        { s with parameters := parameters, current := current, pending := pending }
        (.answer response.out :: past) := by
      -- An answer that is taken has no values at all, or one for each parameter.
      rcases ParameterBuffer.receive_eq_ok_iff.1 hreceive with ⟨hnone, rfl⟩ | ⟨hne, hlength, rfl⟩
      · exact (h.ignored fun hout => hout.1 hnone).of_slots fun hs => ⟨hs, rfl⟩
      · rw [hrecords.count_eq hs] at hlength
        exact (answered hne hlength (s := s)).of_slots fun hs => ⟨hs, rfl⟩
    simpa [hfinal, Connection.log, hanswer] using hkept
  | cancelled =>
    rw [finalState_reported]
    exact h
  | closedAgain => exact h
  | closedLate => exact of_released
  | closed =>
    rw [finalState_reported]
    exact of_released
  | asked => exact h
  | observed hs hfinal =>
    rw [hfinal]
    exact h.of_slots fun _ => ⟨hs, rfl⟩

theorem follow (h : HoldsLastWrites d zone s past) (hrecords : Records d sql zone s past)
    (turns : List Turn) :
    HoldsLastWrites d zone (s.follow past turns).1 (s.follow past turns).2 := by
  induction turns generalizing s past with
  | nil => exact h
  | cons t turns ih => exact ih (h.step hrecords t) (hrecords.step t)

end HoldsLastWrites

/-! ## Reading after an execution -/

/-- A turn that executes takes the engine's values, or fails because of them. -/
theorem Turn.execution_cases {t : Turn} {s : PreparedStatement} {r : Request} {response : Response}
    (hcalls : t.calls s = [.execute r])
    (hanswer : t.connection.engine.answer t.connection.calls (.execute r) = .ok response) :
    t.event? s = some (.answer response.out) ∧
      ((∃ e x, s.parameters.receive response.out = .error e ∧ t.result s = .error e x) ∨
        s.parameters.receive response.out = .ok (t.statement s).parameters) := by
  have hrequest : s.request t.connection = .ok r :=
    Turn.request_of_mem_calls (hcalls ▸ List.mem_singleton_self _)
  have heffect : Effect s t.connection t.command.role (t.result s) := perform_effect ..
  generalize hrole : t.command.role = role at heffect
  generalize hresult : t.result s = result at heffect
  have hevent (h : role = .execute) : t.event? s = some (.answer response.out) := by
    simp [event?, hrole, h, hcalls, hanswer]
  unfold calls at hcalls
  unfold statement
  rw [hresult] at hcalls ⊢
  -- Of all effects, only those of executions make this call, and they agree on its answer.
  cases heffect with
  | failed hrequest' hanswer' =>
    cases hrequest.symm.trans hrequest'
    cases hanswer.symm.trans hanswer'
  | rejected hrequest' hanswer' hreceive =>
    cases hrequest.symm.trans hrequest'
    cases hanswer.symm.trans hanswer'
    exact ⟨hevent rfl, .inl ⟨_, _, hreceive, rfl⟩⟩
  | accepted hrequest' hanswer' hreceive hfinal =>
    cases hrequest.symm.trans hrequest'
    cases hanswer.symm.trans hanswer'
    rw [hfinal]
    exact ⟨hevent rfl, .inr hreceive⟩
  | cancelled => simp [Connection.log] at hcalls
  | closed => simp [Connection.log] at hcalls
  | observed _ hfinal => simp [hfinal] at hcalls
  | _ => simp at hcalls

namespace ParameterBuffer

variable {b b' : ParameterBuffer} {out : List Value}

theorem receive_of_miscounted (hne : out ≠ []) (hlength : out.length ≠ b.count) :
    ∃ text, b.receive out = .error (.protocol text) :=
  ⟨_, by rw [receive, if_neg (by simpa using hne), if_neg hlength]⟩

/-- The engine's values do not count as set by the client. -/
theorem not_isUnset_of_receive (h : b.receive out = .ok b')
    (hset : ∀ slot ∈ b.slots, ¬slot.IsUnset) : ∀ slot ∈ b'.slots, ¬slot.IsUnset := by
  rcases receive_eq_ok_iff.1 h with ⟨-, rfl⟩ | ⟨-, -, rfl⟩
  · exact hset
  · intro slot hslot
    obtain ⟨i, hi⟩ := List.getElem?_of_mem hslot
    obtain ⟨before, v, hbefore, -, rfl⟩ := List.getElem?_zipWith_eq_some.1 hi
    -- Whether a slot is still to be set does not depend on its value.
    have hunset : (before.receive v).IsUnset ↔ before.IsUnset := by
      unfold Slot.receive
      split <;> rfl
    rw [hunset]
    exact hset before (List.mem_of_getElem? hbefore)

end ParameterBuffer

/-- Once nothing is left unset, every parameter that carries output is read as the last write to
it. -/
theorem Records.get_eq {d : Description} {sql : String} {zone : Offset} {s : PreparedStatement}
    {past : List Event} (h : Records d sql zone s past) (hholds : HoldsLastWrites d zone s past)
    (hs : s.parameters.closed = false) (hset : ∀ slot ∈ s.parameters.slots, ¬slot.IsUnset)
    {i : Nat} {p : Parameter} (hp : d.parameters[i]? = some p) (hmode : p.mode.isOutput = true)
    {ref : ParameterRef} (hindex : ref.index? d.parameters = some i) (g : Getter) :
    (CallableStatement.get s ref g).1 =
      g.answer ((lastWrite? d.parameters zone i past).getD .null) p.type zone := by
  have hparameters := h.parameters hs
  rw [← hparameters] at hp hindex
  rw [ParameterBuffer.parameters, List.getElem?_map] at hp
  obtain ⟨slot, hslot, rfl⟩ := Option.map_eq_some_iff.1 hp
  have hvalue : slot.value = (lastWrite? d.parameters zone i past).getD .null := by
    -- A slot that also carries input was set, so that the events tell its value anyway.
    by_cases honly : slot.parameter.mode = .output
    · exact hholds hs i slot hslot honly
    · have hbound : slot.bound = true := by
        simpa using fun hb => hset slot (List.mem_of_getElem? hslot) ⟨honly, hb⟩
      rw [(h.slots hs i slot hslot).output hmode hbound]
      rfl
  rw [CallableStatement.get_of_slot hs hindex hslot hmode, hvalue, h.zone_eq]

/-- What the engine's answer to an execution means for the parameters that carry output. Its values
are refused unless there is one for each parameter, and otherwise they are what is read. If it has
none, what is read was written before the execution. -/
theorem execution_output {sql : String} {d : Description} {config : Config} {turns : List Turn}
    {s : PreparedStatement} {past : List Event} {t : Turn} {r : Request} {response : Response}
    (hturns : (PreparedStatement.ofDescription (.ofSql sql) d config).follow [] turns = (s, past))
    (hcalls : t.calls s = [.execute r])
    (hanswer : t.connection.engine.answer t.connection.calls (.execute r) = .ok response) :
    (response.out ≠ [] → response.out.length ≠ d.parameters.length →
      ∃ text x, t.result s = .error (.protocol text) x) ∧
    (t.succeeds s = true → ∀ i p ref g, d.parameters[i]? = some p → p.mode.isOutput = true →
      ref.index? d.parameters = some i →
      (response.out ≠ [] → ∃ v, response.out[i]? = some v ∧
        (CallableStatement.get (t.statement s) ref g).1 = g.answer v p.type config.timeZone) ∧
      (response.out = [] →
        (CallableStatement.get (t.statement s) ref g).1 =
          g.answer ((lastWrite? d.parameters config.timeZone i past).getD .null) p.type
            config.timeZone)) := by
  have hrecords := (Records.initial d sql config).follow turns
  have hholds := (HoldsLastWrites.initial d sql config).follow (Records.initial d sql config) turns
  rw [hturns] at hrecords hholds
  have hrequest : s.request t.connection = .ok r :=
    Turn.request_of_mem_calls (hcalls ▸ List.mem_singleton_self _)
  obtain ⟨hs, -, hready, -⟩ := PreparedStatement.request_eq_ok_iff.1 hrequest
  have hcount := hrecords.count_eq hs
  obtain ⟨hevent, hcases⟩ := Turn.execution_cases hcalls hanswer
  constructor
  · intro hne hlength
    obtain ⟨text, hreceive⟩ := ParameterBuffer.receive_of_miscounted hne (hcount ▸ hlength)
    rcases hcases with ⟨e, x, he, hresult⟩ | hok
    · cases hreceive.symm.trans he
      exact ⟨text, x, hresult⟩
    · cases hreceive.symm.trans hok
  · intro hsucceeds i p ref g hp hmode hindex
    rcases hcases with ⟨e, x, -, hresult⟩ | hreceive
    · simp [Turn.succeeds, hresult] at hsucceeds
    have hrecords' := hrecords.step t
    have hholds' := hholds.step hrecords t
    rw [hevent] at hrecords' hholds'
    -- The execution was sent, so that nothing was left unset, and nothing is now.
    have hset := ParameterBuffer.not_isUnset_of_receive hreceive
      (ParameterBuffer.firstUnsetInput?_eq_none_iff.1 hready)
    have hread := hrecords'.get_eq hholds'
      ((ParameterBuffer.closed_of_receive hreceive).trans hs) hset hp hmode hindex g
    rw [Option.toList_some, List.singleton_append, lastWrite?] at hread
    constructor
    · intro hne
      -- An answer that has values and is taken has one for each parameter.
      have hlength : response.out.length = d.parameters.length := by
        rcases ParameterBuffer.receive_eq_ok_iff.1 hreceive with ⟨hnone, -⟩ | ⟨-, hlength, -⟩
        · exact absurd hnone hne
        · rw [hlength, hcount]
      have hlt : i < response.out.length := hlength ▸ (List.getElem?_eq_some_iff.1 hp).1
      refine ⟨response.out[i], List.getElem?_eq_getElem hlt, ?_⟩
      rw [hread, if_pos ⟨hne, hlength⟩, List.getElem?_eq_getElem hlt, Option.getD_some]
    · -- Without values the last write is the one before the answer.
      intro hnone
      rw [hread, if_neg fun h => h.1 hnone]

/-- Answers with one value, with one too many and with none, for one parameter. -/
theorem execution_output_one_parameter :
    let d : Description := ⟨7, .call, [.described "R" .integer .output], []⟩
    let s := PreparedStatement.ofDescription (.ofSql "CALL P(?)") d default
    let t (out : List Value) : Turn :=
      ⟨.plain .execute, .ofConfig default ⟨fun
        | _, .execute _ => .ok ⟨[], out⟩
        | _, _ => .error (.protocol "not expected")⟩⟩
    (CallableStatement.get ((t [.integer 42]).statement s) (.name "r") .object).1 =
        .ok (.integer 42) ∧
      (∃ text x, (t [.integer 42, .integer 43]).result s = .error (.protocol text) x) ∧
      (CallableStatement.get ((t []).statement s) (.ordinal 1) .object).1 = .ok .null := by
  intro d s t
  have hstart : (PreparedStatement.ofDescription (.ofSql "CALL P(?)") d default).follow [] [] =
      (s, []) := rfl
  refine ⟨?_, ?_, ?_⟩
  · have hcalls : (t [.integer 42]).calls s = [.execute s.readyRequest] := rfl
    obtain ⟨-, hread⟩ := execution_output hstart hcalls rfl
    obtain ⟨hreturned, -⟩ := hread rfl 0 _ (.name "r") .object rfl rfl (by decide)
    obtain ⟨v, hv, hget⟩ := hreturned (by decide)
    cases hv
    exact hget
  · have hcalls : (t [.integer 42, .integer 43]).calls s = [.execute s.readyRequest] := rfl
    obtain ⟨hrefused, -⟩ := execution_output hstart hcalls rfl
    exact hrefused (by decide) (by decide)
  · have hcalls : (t []).calls s = [.execute s.readyRequest] := rfl
    obtain ⟨-, hread⟩ := execution_output hstart hcalls rfl
    obtain ⟨-, hkept⟩ := hread rfl 0 _ (.ordinal 1) .object rfl rfl rfl
    exact hkept rfl

/-- The second execution is answered without a value, and the client reads the value of the first
one after it. -/
theorem execution_output_stale :
    let d : Description := ⟨7, .call, [.described "R" .integer .output], []⟩
    let script : Script := ⟨[], [("CALL P(?)", [.ok ⟨[], [.integer 42]⟩, .ok ⟨[], []⟩])], []⟩
    let start := PreparedStatement.ofDescription (.ofSql "CALL P(?)") d default
    let first : Turn := ⟨.plain .execute, .ofConfig default script.engine⟩
    let second : Turn := ⟨.plain .execute, (finalState (first.result start)).2⟩
    let s := (start.follow [] [first]).1
    ∃ r response, second.calls s = [.execute r] ∧
      second.connection.engine.answer second.connection.calls (.execute r) = .ok response ∧
      response.out.length ≠ d.parameters.length ∧ second.succeeds s = true ∧
      (CallableStatement.get (second.statement s) (.ordinal 1) .object).1 = .ok (.integer 42) :=
  ⟨_, ⟨[], []⟩, rfl, rfl, by decide, rfl, rfl⟩

end SqlAccess
