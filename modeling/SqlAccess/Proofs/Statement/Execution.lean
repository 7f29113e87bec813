import SqlAccess.Proofs.Statement.Effect

/-!
# Executions that fail

An execution is refused, without a call, if the statement is closed, if the connection is closed, or
if an input parameter was not set, and the first of these reasons is the one that is given. One that
is not refused makes a single call. If nothing comes of that call, the parameters are as they were,
and all results are gone: those of earlier executions too (`perform_execution`).
-/

namespace SqlAccess

namespace ParameterBuffer

/-- The ordinal is that of the first parameter that the client was meant to set, and did not. -/
def IsFirstUnset (b : ParameterBuffer) (n : Nat) : Prop :=
  ∃ index slot, n = index + 1 ∧ b.slots[index]? = some slot ∧ slot.IsUnset ∧
    ∀ earlier before, earlier < index → b.slots[earlier]? = some before → ¬before.IsUnset

/-- The ordinal that is found is that of the first unset parameter. -/
theorem isFirstUnset_of_firstUnsetInput? {b : ParameterBuffer} {n : Nat}
    (h : b.firstUnsetInput? = some n) : b.IsFirstUnset n := by
  obtain ⟨index, hindex, rfl⟩ := Option.map_eq_some_iff.1 h
  -- The search stops at the first slot that waits for the client.
  obtain ⟨hlt, hunset, hbefore⟩ := List.findIdx?_eq_some_iff_getElem.1 hindex
  refine
    ⟨index, b.slots[index], rfl, List.getElem?_eq_getElem hlt, Slot.awaitsInput_iff.1 hunset, ?_⟩
  intro earlier before hearlier hslot
  obtain ⟨hlt', rfl⟩ := List.getElem?_eq_some_iff.1 hslot
  exact fun hn => hbefore earlier hearlier (Slot.awaitsInput_iff.2 hn)

/-- What the engine answers to an execution is of no use: it fails it, or there are values but not
one for each parameter. -/
def Spoils (b : ParameterBuffer) : Except Error Response → Prop
  | .error _ => True
  | .ok response => response.out ≠ [] ∧ response.out.length ≠ b.count

/-- An answer with values that are not one for each parameter is refused. -/
theorem receive_of_spoils {b : ParameterBuffer} {response : Response}
    (h : b.Spoils (.ok response)) : ∃ e, b.receive response.out = .error e := by
  obtain ⟨hsome, hlength⟩ := h
  exact ⟨_, by rw [receive, if_neg (by simpa using hsome), if_neg hlength]⟩

end ParameterBuffer

namespace PreparedStatement

/-- There is no result to take, no count to see and no result to go to, now and later. -/
def HasNoResults (s : PreparedStatement) : Prop :=
  s.takeResultSet = .ok (none, s) ∧ s.updateCount = .ok none ∧ s.moreResults = .ok (false, s)

/-- A statement that has given up its results shows none. -/
theorem hasNoResults_withoutResults {s : PreparedStatement} (h : s.parameters.closed = false) :
    s.withoutResults.HasNoResults := by
  have hopen : s.withoutResults.requireOpen = .ok () := ParameterBuffer.requireOpen_eq_ok_iff.2 h
  refine ⟨?_, ?_, ?_⟩
  · rw [takeResultSet, hopen]
    rfl
  · rw [updateCount, hopen]
    rfl
  · rw [moreResults, hopen]
    rfl

theorem request_of_ready {s : PreparedStatement} {c : Connection}
    (hs : s.parameters.closed = false) (hc : c.closed = false)
    (hset : ∀ slot ∈ s.parameters.slots, ¬slot.IsUnset) : s.request c = .ok s.readyRequest :=
  request_eq_ok_iff.2 ⟨hs, hc, ParameterBuffer.firstUnsetInput?_eq_none_iff.2 hset, rfl⟩

end PreparedStatement

/-- An execution that is sent fails and leaves no results, or its answer is taken up. -/
theorem run_sent {finish : StatementAction Outcome} (hfinish : OnlyMoves finish)
    {s : PreparedStatement} {c : Connection} {r : Request} (h : s.request c = .ok r) :
    (∃ e, (do PreparedStatement.run; finish) (s, c) =
        .error e (s.withoutResults, c.log (.execute r))) ∨
      ¬s.parameters.Spoils (c.engine.answer c.calls (.execute r)) ∧
        (finalState ((do PreparedStatement.run; finish) (s, c))).2 = c.log (.execute r) := by
  -- Earlier results are gone whatever comes back. New ones come with an answer that is taken.
  cases hanswer : c.engine.answer c.calls (.execute r) with
  | error e => exact .inl ⟨e, bind_of_error (PreparedStatement.run_of_failed h hanswer)⟩
  | ok response =>
    cases hreceive : s.parameters.receive response.out with
    | error e =>
      exact .inl ⟨e, bind_of_error (PreparedStatement.run_of_rejected h hanswer hreceive)⟩
    | ok parameters =>
      refine .inr ⟨?_, ?_⟩
      · intro hspoils
        -- Values that were taken cannot be of no use.
        obtain ⟨e, he⟩ := ParameterBuffer.receive_of_spoils hspoils
        rw [hreceive] at he
        cases he
      · rw [bind_of_ok (PreparedStatement.run_of_accepted h hanswer hreceive)]
        obtain ⟨current, pending, hfinal⟩ := hfinish
          ({ s with parameters := parameters }.onFirst response.results) (c.log (.execute r))
        rw [hfinal]

/-- What an execution does, of any statement, by any command that executes, with any engine. -/
theorem perform_execution (cmd : CallableCommand) (h : cmd.role = .execute) (s : PreparedStatement)
    (c : Connection) :
    (s.parameters.closed = true → cmd.perform (s, c) = .error .statementClosed (s, c)) ∧
    (s.parameters.closed = false → c.closed = true →
      cmd.perform (s, c) = .error .connectionClosed (s, c)) ∧
    (s.parameters.closed = false → c.closed = false → (∃ slot ∈ s.parameters.slots, slot.IsUnset) →
      ∃ n, s.parameters.IsFirstUnset n ∧ cmd.perform (s, c) = .error (.parameterNotSet n) (s, c)) ∧
    (s.parameters.closed = false → c.closed = false →
      (∀ slot ∈ s.parameters.slots, ¬slot.IsUnset) →
      ∃ r, r.statementId = some s.id ∧
        (finalState (cmd.perform (s, c))).2 = c.log (.execute r) ∧
        (s.parameters.Spoils (c.engine.answer c.calls (.execute r)) →
          ∃ e s', cmd.perform (s, c) = .error e (s', c.log (.execute r)) ∧
            s'.parameters = s.parameters ∧ s'.HasNoResults)) := by
  obtain ⟨finish, hfinish, hperform⟩ := perform_of_execute h
  -- Whatever the command does with the results, a request that is refused comes before it.
  have hrefused {e : Error} (he : s.request c = .error e) :
      cmd.perform (s, c) = .error e (s, c) := by
    rw [hperform, bind_of_error (PreparedStatement.run_of_refused he)]
  refine ⟨?_, ?_, ?_, ?_⟩
  · intro hs
    exact hrefused (by rw [PreparedStatement.request_eq, if_pos hs])
  · intro hs hc
    exact hrefused (by rw [PreparedStatement.request_eq, hs, hc]; rfl)
  · rintro hs hc ⟨slot, hmem, hunset⟩
    cases hn : s.parameters.firstUnsetInput? with
    | none => exact absurd hunset (ParameterBuffer.firstUnsetInput?_eq_none_iff.1 hn slot hmem)
    | some n =>
      refine ⟨n, ParameterBuffer.isFirstUnset_of_firstUnsetInput? hn, hrefused ?_⟩
      rw [PreparedStatement.request_eq, hs, hc, hn]
      rfl
  · intro hs hc hset
    have hrequest := PreparedStatement.request_of_ready hs hc hset
    rw [hperform]
    refine ⟨s.readyRequest, rfl, ?_, ?_⟩
    · rcases run_sent hfinish hrequest with ⟨e, he⟩ | ⟨-, hconnection⟩
      · rw [he]
        rfl
      · exact hconnection
    · intro hspoils
      rcases run_sent hfinish hrequest with ⟨e, he⟩ | ⟨hfine, -⟩
      · exact ⟨e, s.withoutResults, he, rfl, PreparedStatement.hasNoResults_withoutResults hs⟩
      · exact absurd hspoils hfine

/-- A parameter that was not set, and an engine that is lost. -/
theorem perform_execution_insert :
    let s := PreparedStatement.ofDescription (.ofSql "INSERT INTO t VALUES (?)")
      ⟨7, .dml, [.described "A" .integer .input], []⟩ default
    let set := { s with parameters := s.parameters.bind 0 (.integer 5) }
    let c := Connection.ofConfig default ⟨fun _ _ => .error (.protocol "connection lost")⟩
    (∃ n, s.parameters.IsFirstUnset n ∧
      (CallableCommand.plain .execute).perform (s, c) = .error (.parameterNotSet n) (s, c)) ∧
    ∃ r e s', r.statementId = some 7 ∧
      (CallableCommand.plain .execute).perform (set, c) = .error e (s', c.log (.execute r)) ∧
      s'.parameters = set.parameters ∧ s'.HasNoResults := by
  intro s set c
  constructor
  · obtain ⟨-, -, hunset, -⟩ := perform_execution (.plain .execute) rfl s c
    exact hunset rfl rfl (by decide)
  · obtain ⟨-, -, -, hset⟩ := perform_execution (.plain .execute) rfl set c
    obtain ⟨r, hid, -, hlost⟩ := hset rfl rfl (by decide)
    obtain ⟨e, s', hrest⟩ := hlost trivial
    exact ⟨r, e, s', hid, hrest⟩

end SqlAccess
