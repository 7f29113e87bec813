import SqlAccess.Engine.Script
import SqlAccess.Proofs.Client.Step

/-!
# Closing

A connection is closed once, and nothing is asked of the engine afterwards. A statement is closed
once, and nothing is asked on its behalf afterwards. Both hold of every run of a client, whatever
the engine answers (`run_lifecycle`).

For the connection this comes from `Orderly`: all commands but one continue the connection. For a
statement it comes from `Effect`: a command that tells the engine to close the statement finds it
open and leaves it closed, and a command that finds it closed does nothing. A statement is known by
its handle, for as long as the handle is not given to something else (`Retains`).
-/

namespace SqlAccess

/-- The call that drops a statement. -/
def Call.isCloseStatement : Call → Bool
  | .closeStatement _ => true
  | _ => false

/-! ## Statements -/

namespace Effect

variable {s : PreparedStatement} {c : Connection} {role : Role}
  {result : EStateM.Result Error (PreparedStatement × Connection) Outcome}

/-- No command on a statement ends the session of the connection. -/
theorem continues (h : Effect s c role result) : c.Continues (finalState result).2 := by
  -- A request is made of an open connection only, and is no closing.
  have hrequest {r : Request} (hr : s.request c = .ok r) : c.Continues (c.log (.execute r)) :=
    .log (PreparedStatement.request_eq_ok_iff.1 hr).2.1 rfl
  cases h with
  | failed hr => exact hrequest hr
  | rejected hr => exact hrequest hr
  | accepted hr _ _ hfinal => rw [hfinal]; exact hrequest hr
  | cancelled _ hc => rw [finalState_reported]; exact .log hc rfl
  | closed _ hc => rw [finalState_reported]; exact .log hc rfl
  | observed _ hfinal => rw [hfinal]; exact .refl c
  | _ => exact .refl c

/-- A statement that is closed stays as it is. -/
theorem of_closed (h : Effect s c role result) (hs : s.parameters.closed = true) :
    finalState result = (s, c) ∧ (role = .close → result = .ok (.told .done) (s, c)) ∧
      (role ≠ .close → role ≠ .askClosed → ∃ e, result = .error e (s, c)) := by
  -- Everything else needs an open statement.
  have habsurd {p : Prop} (hopen : s.parameters.closed = false) : p := by
    rw [hs] at hopen
    cases hopen
  have hrequest {p : Prop} {r : Request} (hr : s.request c = .ok r) : p :=
    habsurd (PreparedStatement.request_eq_ok_iff.1 hr).1
  cases h with
  | refused hclose _ => exact ⟨rfl, fun hrole => absurd hrole hclose, fun _ _ => ⟨_, rfl⟩⟩
  | set hopen => exact habsurd hopen
  | cleared hopen => exact habsurd hopen
  | failed hr => exact hrequest hr
  | rejected hr => exact hrequest hr
  | accepted hr => exact hrequest hr
  | cancelled hopen => exact habsurd hopen
  | closedAgain => exact ⟨rfl, fun _ => rfl, fun hclose => absurd rfl hclose⟩
  | closedLate hopen => exact habsurd hopen
  | closed hopen => exact habsurd hopen
  | asked => exact ⟨rfl, nofun, fun _ hasked => absurd rfl hasked⟩
  | observed hopen => exact habsurd hopen

/-- The engine is told to close an open statement only, and that statement is closed then. -/
theorem closes_once (h : Effect s c role result) :
    ((finalState result).2.calls.drop c.calls.length).countP Call.isCloseStatement +
      s.parameters.closed.toNat ≤ (finalState result).1.parameters.closed.toNat := by
  -- Only `closed` makes the call, and it finds the statement open and leaves it closed.
  cases h with
  | set => simp [ParameterBuffer.bind]
  | cleared => simp [ParameterBuffer.clear]
  | failed => simp [Connection.log, Call.isCloseStatement, PreparedStatement.withoutResults]
  | rejected => simp [Connection.log, Call.isCloseStatement, PreparedStatement.withoutResults]
  | accepted hr _ _ hfinal =>
    have hs := (PreparedStatement.request_eq_ok_iff.1 hr).1
    simp [hfinal, hs, Connection.log, Call.isCloseStatement]
  | cancelled => simp [Connection.log, Call.isCloseStatement]
  | closedLate hs => simp [hs]
  | closed hs =>
    simp [hs, Connection.log, Call.isCloseStatement, PreparedStatement.released,
      ParameterBuffer.close]
  | observed _ hfinal => simp [hfinal]
  | _ => simp

/-- Closing closes, whatever the engine answers, and makes nothing. -/
theorem of_close (h : Effect s c .close result) :
    (finalState result).1.parameters.closed = true ∧
      ∀ outcome x, result = .ok outcome x → outcome.made = none := by
  cases h with
  | refused hclose => exact absurd rfl hclose
  | closedAgain hs => exact ⟨hs, by rintro _ _ ⟨⟩; rfl⟩
  | closedLate => exact ⟨rfl, by rintro _ _ ⟨⟩; rfl⟩
  | closed =>
    refine ⟨by rw [finalState_reported]; rfl, ?_⟩
    cases c.engine.answer c.calls (.closeStatement s.id) with
    | ok => rintro _ _ ⟨⟩; rfl
    | error => rintro _ _ ⟨⟩

end Effect

namespace Client

/-! ## The connection in a run -/

/-- All commands but one continue the connection. -/
theorem continues_perform (client : Client) {command : Command}
    (h : command ≠ .connection .close) :
    client.connection.Continues (client.perform command).2.connection := by
  -- An action on the connection is orderly, and a statement is bound by its effect.
  rcases client.perform_cases command with ⟨a, ha, horderly⟩ | ⟨name, s, cmd, hperforms⟩ | hnone
  · rw [ha, connection_act]
    exact horderly h client.connection nofun
  · rw [hperforms.perform.1]
    exact (perform_effect cmd s client.connection).continues
  · rw [hnone]
    exact .refl client.connection

/-- To close a client is to close its connection. -/
theorem connection_perform_close (client : Client) :
    (client.perform (.connection .close)).2.connection =
      Connection.after Connection.close client.connection := by
  rw [perform, connection_act, Connection.after_eq, Connection.after_eq, ConnectionCommand.perform]
  exact finalState_then_return Connection.close (Outcome.told .done) client.connection

/-- Closing a closed connection does nothing. -/
theorem perform_close_of_closed {client : Client} (h : client.connection.closed = true) :
    (client.perform (.connection .close)).2.connection = client.connection := by
  rw [connection_perform_close, Connection.after, Connection.close_of_closed h]

/-- Closing an open connection makes one call, whatever the engine answers. -/
theorem perform_close_of_open {client : Client} (h : client.connection.closed = false) :
    (client.perform (.connection .close)).2.connection =
      { client.connection with closed := true }.log .close := by
  -- The flag is set first, so that the answer to the call cannot change it.
  have hclose : Connection.close client.connection =
      Connection.ask .close { client.connection with closed := true } := by
    change (if client.connection.closed then (pure () : Action Unit) else _) client.connection = _
    rw [h]
    rfl
  rw [connection_perform_close, ← Connection.after_ask, Connection.after, hclose, Connection.after]

/-- A connection is closed once it was told to close. -/
theorem closed_step_close (client : Client) (handle : Option String) :
    (client.step (.connection .close) handle).2.connection.closed = true := by
  rw [connection_step]
  cases hclosed : client.connection.closed with
  | true => rw [perform_close_of_closed hclosed, hclosed]
  | false => rw [perform_close_of_open hclosed]; rfl

/-- A connection that is closed stays closed and makes no more calls. -/
theorem step_of_closed {client : Client} (h : client.connection.closed = true) (command : Command)
    (handle : Option String) :
    (client.step command handle).2.connection.closed = true ∧
      (client.step command handle).2.connection.calls = client.connection.calls := by
  rw [connection_step]
  by_cases hcommand : command = .connection .close
  · rw [hcommand, perform_close_of_closed h]
    exact ⟨h, rfl⟩
  · obtain ⟨hclosed, made, hmade, -, hnone⟩ := client.continues_perform hcommand
    exact ⟨hclosed.trans h, by rw [hmade, hnone h, List.append_nil]⟩

/-- A closed connection makes no calls in any run. -/
theorem calls_run_of_closed {client : Client} (h : client.connection.closed = true)
    (commands : List (Command × Option String)) :
    (client.run commands).connection.calls = client.connection.calls := by
  induction commands generalizing client with
  | nil => rfl
  | cons c commands ih =>
    obtain ⟨hclosed, hcalls⟩ := step_of_closed h c.1 c.2
    exact (ih hclosed).trans hcalls

/-- What comes behind the closing of a connection makes no calls. -/
theorem calls_run_after_close (client : Client) (before after : List (Command × Option String))
    (handle : Option String) :
    (client.run (before ++ (.connection .close, handle) :: after)).connection.calls =
      (client.run (before ++ [(.connection .close, handle)])).connection.calls := by
  -- The run goes on from a connection that is closed.
  have hrun : client.run (before ++ (.connection .close, handle) :: after) =
      (client.run (before ++ [(.connection .close, handle)])).run after := by
    rw [← run_append, List.append_assoc]
    rfl
  rw [hrun]
  refine calls_run_of_closed ?_ after
  rw [run_append]
  exact closed_step_close _ handle

/-- The session of a closed connection was ended once, and that of an open one was not. -/
def EndedOnce (c : Connection) : Prop :=
  c.calls.countP Call.isClose = c.closed.toNat

/-- Each step ends the session at most once, and only if it closes the connection. -/
theorem endedOnce_step {client : Client} (h : EndedOnce client.connection) (command : Command)
    (handle : Option String) : EndedOnce (client.step command handle).2.connection := by
  unfold EndedOnce at *
  rw [connection_step]
  by_cases hcommand : command = .connection .close
  · rw [hcommand]
    cases hclosed : client.connection.closed with
    | true =>
      rw [perform_close_of_closed hclosed, h]
    | false =>
      rw [hclosed] at h
      rw [perform_close_of_open hclosed]
      simp [Connection.log, Call.isClose, h]
  · obtain ⟨hclosed, made, hmade, hkind, -⟩ := client.continues_perform hcommand
    -- Any other command makes calls, but none of them ends the session.
    have hnone : made.countP Call.isClose = 0 := by
      rw [List.countP_eq_zero]
      intro call hcall
      simp [hkind call hcall]
    rw [hmade, List.countP_append, hnone, h, hclosed, Nat.add_zero]

/-- The session of a connection is ended as often as the connection is closed, in every run. -/
theorem endedOnce_run {client : Client} (h : EndedOnce client.connection)
    (commands : List (Command × Option String)) :
    EndedOnce (client.run commands).connection := by
  induction commands generalizing client with
  | nil => exact h
  | cons c commands ih => exact ih (endedOnce_step h c.1 c.2)

/-! ## Statements in a run -/

variable {client : Client} {name : String} {s : PreparedStatement} {command : Command}
  {cmd : CallableCommand}

/-- A handle goes on standing for the same item. -/
def Retains (client : Client) (name : String) : List (Command × Option String) → Prop
  | [] => True
  | (command, handle) :: more =>
    ¬client.Gives name command handle ∧ (client.step command handle).2.Retains name more

/-- The calls that a command makes if it is a command on a handle. -/
def callsOn (client : Client) (name : String) (command : Command) : List Call :=
  if command.handle? = some name then
    (client.perform command).2.connection.calls.drop client.connection.calls.length
  else []

/-- The calls that all commands on a handle make. -/
def callsThrough (client : Client) (name : String) : List (Command × Option String) → List Call
  | [] => []
  | (command, handle) :: more =>
    client.callsOn name command ++ (client.step command handle).2.callsThrough name more

/-- A statement before and after some commands, with the calls that they made on its behalf. -/
structure ClosesOnce (s s' : PreparedStatement) (calls : List Call) : Prop where
  once : calls.countP Call.isCloseStatement + s.parameters.closed.toNat ≤
    s'.parameters.closed.toNat
  quiet : s.parameters.closed = true → s' = s ∧ calls = []

theorem ClosesOnce.refl (s : PreparedStatement) : ClosesOnce s s [] where
  once := by simp
  quiet _ := ⟨rfl, rfl⟩

theorem ClosesOnce.trans {s₁ s₂ s₃ : PreparedStatement} {made more : List Call}
    (h₁ : ClosesOnce s₁ s₂ made) (h₂ : ClosesOnce s₂ s₃ more) :
    ClosesOnce s₁ s₃ (made ++ more) where
  once := by
    -- A statement that the first part closed is closed at the start of the second.
    have honce₁ := h₁.once
    have honce₂ := h₂.once
    rw [List.countP_append]
    omega
  quiet hclosed := by
    obtain ⟨rfl, rfl⟩ := h₁.quiet hclosed
    obtain ⟨rfl, rfl⟩ := h₂.quiet hclosed
    exact ⟨rfl, rfl⟩

/-- A step keeps the statement under its handle, and closes it at most once. -/
theorem Holds.step {handle : Option String} (h : client.Holds name s)
    (hgives : ¬client.Gives name command handle) :
    ∃ s', (client.step command handle).2.Holds name s' ∧
      ClosesOnce s s' (client.callsOn name command) := by
  have hfind := find?_step hgives
  -- A command on the handle is performed on the statement, and any other one leaves it alone.
  unfold callsOn
  by_cases hhandle : command.handle? = some name
  · rw [if_pos hhandle]
    rcases h.performs_or hhandle with ⟨cmd, hperforms⟩ | hnone
    · obtain ⟨hconnection, hholds, -⟩ := hperforms.perform
      have heffect := perform_effect cmd s client.connection
      refine ⟨_, hholds.of_find?_eq hfind, ?_⟩
      rw [hconnection]
      refine ⟨heffect.closes_once, fun hclosed => ?_⟩
      obtain ⟨hfinal, -, -⟩ := heffect.of_closed hclosed
      rw [hfinal]
      exact ⟨rfl, List.drop_length⟩
    · -- The command is not one for this kind of statement, and nothing happens.
      rw [hnone] at hfind ⊢
      exact ⟨s, h.of_find?_eq hfind, by rw [List.drop_length]; exact .refl s⟩
  · rw [if_neg hhandle]
    exact ⟨s, h.of_find?_eq (hfind.trans (find?_perform_of_ne hhandle)), .refl s⟩

/-- A run keeps the statement under its handle, and closes it at most once. -/
theorem Holds.run (h : client.Holds name s) {more : List (Command × Option String)}
    (hretains : client.Retains name more) :
    ∃ s', (client.run more).Holds name s' ∧ ClosesOnce s s' (client.callsThrough name more) := by
  -- The statement at the start of the rest is the one that the first command left.
  induction more generalizing client s with
  | nil => exact ⟨s, h, .refl s⟩
  | cons c more ih =>
    obtain ⟨hgives, hrest⟩ := hretains
    obtain ⟨s₁, hholds, honce⟩ := h.step hgives
    obtain ⟨s₂, hholds', honce'⟩ := ih hholds hrest
    exact ⟨s₂, hholds', honce.trans honce'⟩

/-- A statement that is told to close is closed behind the step, and still under its handle. -/
theorem Performs.closed_step {handle : Option String} (h : client.Performs name s command cmd)
    (hclose : cmd.role = .close) :
    ∃ s', (client.step command handle).2.Holds name s' ∧ s'.parameters.closed = true := by
  have heffect := perform_effect cmd s client.connection
  rw [hclose] at heffect
  obtain ⟨hclosed, hnothing⟩ := heffect.of_close
  have hmade : made? (client.perform command).1 = none := by
    rw [h.result]
    cases hresult : cmd.perform (s, client.connection) with
    | ok outcome x => exact hnothing outcome x hresult
    | error e x => rfl
  -- Closing makes nothing that the handle could be given to.
  have hgives : ¬client.Gives name command handle := by
    rintro ⟨-, hsome⟩
    rw [hmade] at hsome
    cases hsome
  obtain ⟨-, hholds, -⟩ := h.perform
  exact ⟨_, hholds.of_find?_eq (find?_step hgives), hclosed⟩

/-- A command on a closed statement fails unless it closes it again, and changes nothing. -/
theorem Performs.of_closed {handle : Option String} (h : client.Performs name s command cmd)
    (hclosed : s.parameters.closed = true) (hasked : cmd.role ≠ .askClosed) :
    (cmd.role = .close → (client.step command handle).1 = some (.ok .done)) ∧
    (cmd.role ≠ .close → ∃ e, (client.step command handle).1 = some (.error e)) ∧
    client.Unchanged (client.step command handle).2 := by
  obtain ⟨hfinal, hclose, hother⟩ := (perform_effect cmd s client.connection).of_closed hclosed
  have hresult := h.result
  have hunchanged := h.unchanged hfinal
  unfold Client.step
  by_cases hrole : cmd.role = .close
  · rw [hclose hrole] at hresult
    simp only [hresult]
    exact ⟨fun _ => rfl, fun hne => absurd hrole hne, hunchanged⟩
  · obtain ⟨e, he⟩ := hother hrole hasked
    rw [he] at hresult
    simp only [hresult]
    exact ⟨fun hcl => absurd hcl hrole, fun _ => ⟨e, rfl⟩, hunchanged⟩

end Client

/-- The lives of a connection and of the statements made from it, in every run: the session is ended
at most once, and nothing is called after the connection was closed; a statement is dropped at most
once and closing it closes it; and a closed statement stays as it is, causes no call, and answers
all that is asked of it but to close with an error. -/
theorem run_lifecycle (config : Config) (engine : Engine)
    (commands : List (Command × Option String)) :
    let start := Client.ofConnection (.ofConfig config engine)
    let client := start.run commands
    client.connection.calls.countP Call.isClose ≤ 1 ∧
    (∀ before handle after, commands = before ++ (.connection .close, handle) :: after →
      client.connection.calls =
        (start.run (before ++ [(.connection .close, handle)])).connection.calls) ∧
    ∀ name s, client.Holds name s →
      (∀ more, client.Retains name more →
        (client.callsThrough name more).countP Call.isCloseStatement ≤ 1) ∧
      (∀ command handle cmd, client.Performs name s command cmd → cmd.role = .close →
        ∃ s', (client.step command handle).2.Holds name s' ∧ s'.parameters.closed = true) ∧
      (s.parameters.closed = true →
        (∀ more, client.Retains name more →
          (client.run more).Holds name s ∧ client.callsThrough name more = []) ∧
        ∀ command handle cmd, client.Performs name s command cmd → cmd.role ≠ .askClosed →
          (cmd.role = .close → (client.step command handle).1 = some (.ok .done)) ∧
          (cmd.role ≠ .close → ∃ e, (client.step command handle).1 = some (.error e)) ∧
          client.Unchanged (client.step command handle).2) := by
  intro start client
  -- Nothing was called on a connection that was just made.
  have hstart : Client.EndedOnce start.connection := rfl
  have hended : Client.EndedOnce client.connection := Client.endedOnce_run hstart commands
  refine ⟨?_, ?_, ?_⟩
  · rw [hended]
    exact Bool.toNat_le _
  · rintro before handle after rfl
    exact start.calls_run_after_close before after handle
  · intro name s hholds
    refine ⟨?_, ?_, ?_⟩
    · intro more hretains
      obtain ⟨s', -, honce⟩ := hholds.run hretains
      -- One call at most turns a statement that is open into one that is closed.
      have hle := honce.once
      have hs' := s'.parameters.closed.toNat_le
      omega
    · intro command handle cmd hperforms hclose
      exact hperforms.closed_step hclose
    · intro hclosed
      refine ⟨?_, ?_⟩
      · intro more hretains
        obtain ⟨s', hholds', honce⟩ := hholds.run hretains
        obtain ⟨rfl, hcalls⟩ := honce.quiet hclosed
        exact ⟨hholds', hcalls⟩
      · intro command handle cmd hperforms hasked
        exact hperforms.of_closed hclosed hasked

/-- A statement whose closing the engine fails is closed, and the engine hears no more of it. -/
theorem run_lifecycle_failing_close :
    let script : Script := ⟨[], [], [(.closeStatement, .protocol "connection lost")]⟩
    let client := (Client.ofConnection (.ofConfig default script.engine)).run
      [(.connection (.prepareStatement "DELETE FROM t"), some "s"), (.prepared "s" .close, none)]
    let more : List (Command × Option String) :=
      [(.prepared "s" .execute, none), (.prepared "s" .close, none)]
    client.connection.calls.countP Call.isCloseStatement = 1 ∧
    ∃ s, client.Holds "s" s ∧ s.parameters.closed = true ∧
      (client.run more).Holds "s" s ∧ client.callsThrough "s" more = [] := by
  intro script client more
  obtain ⟨-, -, hstatements⟩ := run_lifecycle default script.engine
    [(.connection (.prepareStatement "DELETE FROM t"), some "s"), (.prepared "s" .close, none)]
  obtain ⟨-, -, hclosed⟩ := hstatements "s" _ (.inl rfl)
  obtain ⟨hquiet, -⟩ := hclosed rfl
  have hretains : client.Retains "s" more :=
    ⟨Client.not_gives_none _ _ _, Client.not_gives_none _ _ _, trivial⟩
  obtain ⟨hholds, hcalls⟩ := hquiet more hretains
  exact ⟨rfl, _, .inl rfl, rfl, hholds, hcalls⟩

end SqlAccess
