import SqlAccess.Client.Command
import SqlAccess.Proofs.Action

/-!
# Effects of commands on statements

Commands on a statement differ in what they are for (`Role`), and the role decides all that a
command can do to the statement, to its connection and to the engine. `Effect` lists it, with what
has to hold for it to happen, and `perform_effect` says that there is nothing else. Everything that
is proved about runs of commands is proved from this list.

An execution is `run` and then a look at the results (`perform_of_execute`), and `run` is sent only
if the statement and its connection are open and all input parameters are set (`request_eq_ok_iff`).
-/

namespace SqlAccess

/-! ## Roles -/

/-- What a command on a statement is for. -/
inductive Role
  | set (ref : ParameterRef) (a : Argument)
  | clear
  | execute
  | cancel
  | close
  | askClosed
  /-- Options, output parameters and the results of the last execution. -/
  | observe

/-- The role of a command. -/
def CallableCommand.role : CallableCommand → Role
  | .setParameter ref a => .set ref a
  | .executeQuery => .execute
  | .plain (.setParameter n a) => .set (.ordinal n) a
  | .plain .clearParameters => .clear
  | .plain .execute => .execute
  | .plain .executeQuery => .execute
  | .plain .executeUpdate => .execute
  | .plain .cancel => .cancel
  | .plain .close => .close
  | .plain .isClosed => .askClosed
  | _ => .observe

/-! ## Gates -/

/-- The client was meant to set a value, and did not since the last clear. -/
def Slot.IsUnset (s : Slot) : Prop :=
  s.parameter.mode ≠ .output ∧ s.bound = false
deriving Decidable

/-- A slot waits for the client exactly if it was to be set and was not. -/
theorem Slot.awaitsInput_iff {s : Slot} : s.awaitsInput = true ↔ s.IsUnset := by
  unfold Slot.awaitsInput Slot.IsUnset
  cases s.parameter.mode <;> simp [ParameterMode.isInput]

namespace ParameterBuffer

/-- Nothing is missing exactly if no slot is unset. -/
theorem firstUnsetInput?_eq_none_iff {b : ParameterBuffer} :
    b.firstUnsetInput? = none ↔ ∀ slot ∈ b.slots, ¬slot.IsUnset := by
  simp only [firstUnsetInput?, Option.map_eq_none_iff, List.findIdx?_eq_none_iff,
    ← Slot.awaitsInput_iff, Bool.not_eq_true]

theorem requireOpen_eq_ok_iff {b : ParameterBuffer} :
    b.requireOpen = .ok () ↔ b.closed = false := by
  cases h : b.closed <;> simp [requireOpen, h]

/-- Values are taken if there is one for each parameter, and also if there are none. -/
theorem receive_eq_ok_iff {b b' : ParameterBuffer} {out : List Value} :
    b.receive out = .ok b' ↔
      out = [] ∧ b' = b ∨
      out ≠ [] ∧ out.length = b.count ∧
        b' = { b with slots := List.zipWith Slot.receive b.slots out } := by
  unfold receive
  split
  · next hnone => simp [List.isEmpty_iff.1 hnone, eq_comm]
  · next hsome =>
    rw [List.isEmpty_iff] at hsome
    split
    · next hlength => simp [hsome, hlength, eq_comm]
    · next hlength => simp [hsome, hlength]

theorem closed_of_receive {b b' : ParameterBuffer} {out : List Value}
    (h : b.receive out = .ok b') : b'.closed = b.closed := by
  rcases receive_eq_ok_iff.1 h with ⟨-, rfl⟩ | ⟨-, -, rfl⟩ <;> rfl

end ParameterBuffer

namespace PreparedStatement

/-- The request that a statement sends once nothing is missing. -/
def readyRequest (s : PreparedStatement) : Request :=
  { Request.prepared s.id s.statement.native s.parameters.sent with
    maxRows := s.options.maxRows
    fetchSize := s.options.fetchSize
    timeout := s.options.timeout
    scrolling := s.options.scrolling }

/-- The three gates of an execution, in their order. -/
theorem request_eq (s : PreparedStatement) (c : Connection) :
    s.request c =
      if s.parameters.closed then .error .statementClosed
      else if c.closed then .error .connectionClosed
      else
        match s.parameters.firstUnsetInput? with
        | some n => .error (.parameterNotSet n)
        | none => .ok s.readyRequest := by
  unfold request requireOpen ParameterBuffer.requireOpen Connection.requireOpen
  cases s.parameters.closed
  · cases c.closed
    · cases s.parameters.firstUnsetInput? <;> rfl
    · rfl
  · rfl

/-- A request is made exactly if all gates are open. -/
theorem request_eq_ok_iff {s : PreparedStatement} {c : Connection} {r : Request} :
    s.request c = .ok r ↔
      s.parameters.closed = false ∧ c.closed = false ∧ s.parameters.firstUnsetInput? = none ∧
        r = s.readyRequest := by
  rw [request_eq]
  cases s.parameters.closed
  · cases c.closed
    · cases s.parameters.firstUnsetInput? <;> simp [eq_comm]
    · simp
  · simp

end PreparedStatement

/-! ## Effects -/

/-- What comes of a call whose answer tells nothing but that it succeeded. -/
def reported {α σ : Type} (answer : Except Error α) (x : σ) : EStateM.Result Error σ Outcome :=
  match answer with
  | .ok _ => .ok (.told .done) x
  | .error e => .error e x

@[simp]
theorem finalState_reported {α σ : Type} (answer : Except Error α) (x : σ) :
    finalState (reported answer x) = x := by
  cases answer <;> rfl

/-- What a command in some role can do to a statement and its connection. -/
inductive Effect (s : PreparedStatement) (c : Connection) :
    Role → EStateM.Result Error (PreparedStatement × Connection) Outcome → Prop
  /-- The command fails and changes nothing. -/
  | refused {role : Role} {e : Error} :
      role ≠ .close → role ≠ .askClosed → Effect s c role (.error e (s, c))
  | set {ref : ParameterRef} {a : Argument} {index : Nat} {slot : Slot} {given v : Value} :
      s.parameters.closed = false → s.parameters.resolve ref = .ok (index, slot) →
      slot.parameter.mode ≠ .output → a.given s.zone = .ok given →
      coerceForParameter given slot.parameter.type s.zone = .ok v →
      Effect s c (.set ref a)
        (.ok (.told .done) ({ s with parameters := s.parameters.bind index v }, c))
  | cleared :
      s.parameters.closed = false →
      Effect s c .clear (.ok (.told .done) ({ s with parameters := s.parameters.clear }, c))
  /-- The engine fails the execution. -/
  | failed {r : Request} {e : Error} :
      s.request c = .ok r → c.engine.answer c.calls (.execute r) = .error e →
      Effect s c .execute (.error e (s.withoutResults, c.log (.execute r)))
  /-- The engine's values are not one for each parameter. -/
  | rejected {r : Request} {response : Response} {e : Error} :
      s.request c = .ok r → c.engine.answer c.calls (.execute r) = .ok response →
      s.parameters.receive response.out = .error e →
      Effect s c .execute (.error e (s.withoutResults, c.log (.execute r)))
  /-- The engine's answer is taken up, even if the command then finds no result that it wants. -/
  | accepted {r : Request} {response : Response} {parameters : ParameterBuffer}
      {result : EStateM.Result Error (PreparedStatement × Connection) Outcome}
      {current : Option ResultItem} {pending : ResultChain} :
      s.request c = .ok r → c.engine.answer c.calls (.execute r) = .ok response →
      s.parameters.receive response.out = .ok parameters →
      finalState result =
        ({ s with parameters := parameters, current := current, pending := pending },
          c.log (.execute r)) →
      Effect s c .execute result
  | cancelled :
      s.parameters.closed = false → c.closed = false →
      Effect s c .cancel (reported (c.engine.answer c.calls (.cancelStatement s.id))
        (s, c.log (.cancelStatement s.id)))
  | closedAgain : s.parameters.closed = true → Effect s c .close (.ok (.told .done) (s, c))
  /-- There is nobody left to tell. -/
  | closedLate :
      s.parameters.closed = false → c.closed = true →
      Effect s c .close (.ok (.told .done) (s.released, c))
  | closed :
      s.parameters.closed = false → c.closed = false →
      Effect s c .close (reported (c.engine.answer c.calls (.closeStatement s.id))
        (s.released, c.log (.closeStatement s.id)))
  | asked : Effect s c .askClosed (.ok (.told (.flag s.parameters.closed)) (s, c))
  | observed {result : EStateM.Result Error (PreparedStatement × Connection) Outcome}
      {wasNull : Bool} {current : Option ResultItem} {pending : ResultChain}
      {options : ExecutionOptions} :
      s.parameters.closed = false →
      finalState result =
        ({ s with
            parameters := { s.parameters with wasNull := wasNull }
            current := current
            pending := pending
            options := options }, c) →
      Effect s c .observe result

/-! ## Executions -/

/-- An action that goes on to other results of a statement and does nothing else. -/
def OnlyMoves {α : Type} (a : StatementAction α) : Prop :=
  ∀ s c, ∃ current pending,
    finalState (a (s, c)) = ({ s with current := current, pending := pending }, c)

/-- Taking rows away only concerns the current result. -/
theorem PreparedStatement.exists_takeRows (s : PreparedStatement) :
    ∃ current, s.takeRows.2 = { s with current := current } := by
  unfold takeRows
  split
  · exact ⟨none, rfl⟩
  · exact ⟨s.current, rfl⟩

/-- An execution is a run, and then a look at the results. -/
theorem perform_of_execute {cmd : CallableCommand} (h : cmd.role = .execute) :
    ∃ finish, OnlyMoves finish ∧ cmd.perform = (do PreparedStatement.run; finish) := by
  -- What makes the outcome of a command comes after its look at the results.
  have hassoc {α β : Type} (f : StatementAction α) (g : α → StatementAction β) :
      (do let a ← (do PreparedStatement.run; f); g a) =
        (do PreparedStatement.run; let a ← f; g a) := by
    rw [bind_assoc]
  cases cmd with
  | executeQuery =>
    refine ⟨_, fun s c => ?_, hassoc _ _⟩
    dsimp only [bind, EStateM.bind, get, getThe, MonadStateOf.get, EStateM.get]
    -- A callable statement looks for the first rows among all results that are left.
    cases PreparedStatement.firstRows? (s.current.toList ++ s.pending) with
    | none => exact ⟨none, [], rfl⟩
    | some found => exact ⟨none, found.2, rfl⟩
  | plain cmd =>
    cases cmd with
    | execute =>
      exact ⟨_, fun s c => ⟨s.current, s.pending, rfl⟩, hassoc _ _⟩
    | executeQuery =>
      refine ⟨_, fun s c => ?_, hassoc _ _⟩
      dsimp only [bind, EStateM.bind, get, getThe, MonadStateOf.get, EStateM.get]
      obtain ⟨current, hrest⟩ := s.exists_takeRows
      refine ⟨current, s.pending, ?_⟩
      rw [hrest]
      cases s.takeRows.1 <;> rfl
    | executeUpdate =>
      refine ⟨_, fun s c => ⟨s.current, s.pending, ?_⟩, hassoc _ _⟩
      change finalState _ = (s, c)
      dsimp only [bind, EStateM.bind, get, getThe, MonadStateOf.get, EStateM.get]
      rcases hcurrent : s.current with _ | (rows | n) <;> rfl
    | _ => cases h
  | _ => cases h

namespace PreparedStatement

/-- A run without a request is no call. -/
theorem run_of_refused {s : PreparedStatement} {c : Connection} {e : Error}
    (h : s.request c = .error e) : run (s, c) = .error e (s, c) := by
  rw [run, h]

theorem run_of_failed {s : PreparedStatement} {c : Connection} {r : Request} {e : Error}
    (hrequest : s.request c = .ok r) (hanswer : c.engine.answer c.calls (.execute r) = .error e) :
    run (s, c) = .error e (s.withoutResults, c.log (.execute r)) := by
  simp only [run, hrequest, Connection.ask, hanswer]

/-- A run whose values are refused leaves no results either. -/
theorem run_of_rejected {s : PreparedStatement} {c : Connection} {r : Request}
    {response : Response} {e : Error} (hrequest : s.request c = .ok r)
    (hanswer : c.engine.answer c.calls (.execute r) = .ok response)
    (hreceive : s.parameters.receive response.out = .error e) :
    run (s, c) = .error e (s.withoutResults, c.log (.execute r)) := by
  -- The answer is taken up by a statement that has already given up its results.
  have haccept : s.withoutResults.accept response = .error e := by
    rw [accept, show s.withoutResults.parameters = s.parameters from rfl, hreceive]
    rfl
  simp only [run, hrequest, Connection.ask, hanswer, haccept]

/-- A run whose answer is taken up goes to the first result. -/
theorem run_of_accepted {s : PreparedStatement} {c : Connection} {r : Request}
    {response : Response} {parameters : ParameterBuffer} (hrequest : s.request c = .ok r)
    (hanswer : c.engine.answer c.calls (.execute r) = .ok response)
    (hreceive : s.parameters.receive response.out = .ok parameters) :
    run (s, c) =
      .ok () ({ s with parameters := parameters }.onFirst response.results,
        c.log (.execute r)) := by
  have haccept : s.withoutResults.accept response =
      .ok ({ s with parameters := parameters }.onFirst response.results) := by
    rw [accept, show s.withoutResults.parameters = s.parameters from rfl, hreceive]
    rfl
  simp only [run, hrequest, Connection.ask, hanswer, haccept]

end PreparedStatement

/-- An execution has one of the effects of executions. -/
theorem effect_run {finish : StatementAction Outcome} (hfinish : OnlyMoves finish)
    (s : PreparedStatement) (c : Connection) :
    Effect s c .execute ((do PreparedStatement.run; finish) (s, c)) := by
  -- An execution can stop before its call, at the call, and at the values in the answer.
  cases hrequest : s.request c with
  | error e =>
    rw [bind_of_error (PreparedStatement.run_of_refused hrequest)]
    exact .refused nofun nofun
  | ok r =>
    cases hanswer : c.engine.answer c.calls (.execute r) with
    | error e =>
      rw [bind_of_error (PreparedStatement.run_of_failed hrequest hanswer)]
      exact .failed hrequest hanswer
    | ok response =>
      cases hreceive : s.parameters.receive response.out with
      | error e =>
        rw [bind_of_error (PreparedStatement.run_of_rejected hrequest hanswer hreceive)]
        exact .rejected hrequest hanswer hreceive
      | ok parameters =>
        rw [bind_of_ok (PreparedStatement.run_of_accepted hrequest hanswer hreceive)]
        -- The look at the results may fail, but it only moves among them.
        obtain ⟨current, pending, hfinal⟩ := hfinish
          ({ s with parameters := parameters }.onFirst response.results) (c.log (.execute r))
        exact .accepted hrequest hanswer hreceive hfinal

/-! ## Setters -/

/-- A value is bound to an open statement, in a slot that is not for output, and coerced. -/
theorem PreparedStatement.bind_eq_ok {s s' : PreparedStatement} {n : Nat} {v : Value}
    (h : s.bind n v = .ok s') :
    s.parameters.closed = false ∧ ∃ index slot w,
      s.parameters.slotAt n = .ok (index, slot) ∧ slot.parameter.mode ≠ .output ∧
        coerceForParameter v slot.parameter.type s.zone = .ok w ∧
        s' = { s with parameters := s.parameters.bind index w } := by
  simp only [bind, bind_eq_ok_iff] at h
  obtain ⟨⟨⟩, hopen, ⟨index, slot⟩, hslot, h⟩ := h
  -- An output parameter cannot be set.
  split at h
  · cases h
  · next hmode =>
    obtain ⟨w, hw, h⟩ := bind_eq_ok_iff.1 h
    cases h
    exact ⟨ParameterBuffer.requireOpen_eq_ok_iff.1 hopen, index, slot, w, hslot, hmode, hw, rfl⟩

/-- A setter that succeeds binds the value that its argument stands for. -/
theorem PreparedStatement.setParameter_eq_ok {s s' : PreparedStatement} {n : Nat} {a : Argument}
    (h : s.setParameter n a = .ok s') : ∃ v, a.given s.zone = .ok v ∧ s.bind n v = .ok s' := by
  unfold setParameter at h
  -- A local time becomes an instant even if the statement is closed, but `bind` checks again.
  split at h
  · exact bind_eq_ok_iff.1 h
  · dsimp only at h
    obtain ⟨-, -, h⟩ := bind_eq_ok_iff.1 h
    exact bind_eq_ok_iff.1 h

/-- A setter by name that succeeds is one by ordinal. -/
theorem CallableStatement.setParameter_eq_ok {s s' : CallableStatement} {ref : ParameterRef}
    {a : Argument} (h : CallableStatement.setParameter s ref a = .ok s') :
    ∃ index slot, s.parameters.resolve ref = .ok (index, slot) ∧
      PreparedStatement.setParameter s (index + 1) a = .ok s' := by
  obtain ⟨n, hn, h⟩ := bind_eq_ok_iff.1 h
  obtain ⟨-, -, hn⟩ := bind_eq_ok_iff.1 hn
  obtain ⟨⟨index, slot⟩, hslot, hn⟩ := bind_eq_ok_iff.1 hn
  cases hn
  exact ⟨index, slot, hslot, h⟩

/-- The slot with an index is the one with the ordinal behind it. -/
theorem ParameterBuffer.slotAt_succ {b : ParameterBuffer} {index : Nat} {slot : Slot}
    (h : b.slots[index]? = some slot) : b.slotAt (index + 1) = .ok (index, slot) := by
  simp [slotAt, h]

/-- Setting the parameter that is meant is setting it by its ordinal. -/
theorem effect_set {s s' : PreparedStatement} {c : Connection} {ref : ParameterRef} {index : Nat}
    {slot : Slot} {a : Argument} (href : s.parameters.resolve ref = .ok (index, slot))
    (h : s.setParameter (index + 1) a = .ok s') :
    Effect s c (.set ref a) (.ok (.told .done) (s', c)) := by
  obtain ⟨given, hgiven, hbind⟩ := PreparedStatement.setParameter_eq_ok h
  obtain ⟨hopen, i, t, v, hslot, hmode, hv, rfl⟩ := PreparedStatement.bind_eq_ok hbind
  -- The ordinal leads back to the slot that it was made from.
  rw [ParameterBuffer.slotAt_succ (ParameterBuffer.getElem?_of_resolve href)] at hslot
  cases hslot
  exact .set hopen href hmode hgiven hv

/-! ## Commands on the statement alone -/

/-- A change of the statement is refused, or has the effect that it is shown to have. -/
theorem effect_change {s : PreparedStatement} {c : Connection} {role : Role}
    {f : PreparedStatement → Except Error PreparedStatement} (hclose : role ≠ .close)
    (hasked : role ≠ .askClosed)
    (h : ∀ s', f s = .ok s' → Effect s c role (.ok (.told .done) (s', c))) :
    Effect s c role (StatementAction.change f (s, c)) := by
  dsimp only [StatementAction.change]
  cases hf : f s with
  | error e => exact .refused hclose hasked
  | ok s' => exact h s' hf

/-- A question is refused, or it moves among the results at most. -/
theorem effect_tell {s : PreparedStatement} {c : Connection}
    {f : PreparedStatement → Except Error (Outcome × PreparedStatement)}
    (h : ∀ outcome s', f s = .ok (outcome, s') →
      s.parameters.closed = false ∧ ∃ current pending,
        s' = { s with current := current, pending := pending }) :
    Effect s c .observe (StatementAction.tell f (s, c)) := by
  dsimp only [StatementAction.tell]
  cases hf : f s with
  | error e => exact .refused nofun nofun
  | ok r =>
    obtain ⟨outcome, s'⟩ := r
    obtain ⟨hopen, current, pending, rfl⟩ := h outcome s' hf
    exact @Effect.observed s c _ s.parameters.wasNull current pending s.options hopen rfl

/-- A getter fails before it reads, or it notes whether the value was NULL. -/
theorem CallableStatement.get_cases (s : CallableStatement) (ref : ParameterRef) (g : Getter) :
    (∃ e, CallableStatement.get s ref g = (.error e, s)) ∨
      s.parameters.closed = false ∧ ∃ answer v, CallableStatement.get s ref g =
        (answer, { s with parameters := s.parameters.noteRead v }) := by
  unfold CallableStatement.get
  split
  · cases outputSlot s ref with
    | error e => exact .inl ⟨e, rfl⟩
    | ok slot => exact .inl ⟨_, rfl⟩
  · cases hslot : outputSlot s ref with
    | error e => exact .inl ⟨e, rfl⟩
    | ok slot =>
      obtain ⟨⟨⟩, hs, -⟩ := bind_eq_ok_iff.1 hslot
      exact .inr ⟨ParameterBuffer.requireOpen_eq_ok_iff.1 hs, _, slot.value, rfl⟩

/-- Options, output parameters and results have the effect of looking. -/
theorem effect_observe {s : PreparedStatement} {c : Connection} {cmd : CallableCommand}
    (h : cmd.role = .observe) : Effect s c .observe (cmd.perform (s, c)) := by
  have hopen {s : PreparedStatement} (h : s.requireOpen = .ok ()) : s.parameters.closed = false :=
    ParameterBuffer.requireOpen_eq_ok_iff.1 h
  -- The four commands on options differ in the option only.
  have hconfigure (change : ExecutionOptions → ExecutionOptions) :
      Effect s c .observe (StatementAction.change (fun s => s.configure change) (s, c)) := by
    refine effect_change nofun nofun fun s' hs' => ?_
    obtain ⟨⟨⟩, hs, hs'⟩ := bind_eq_ok_iff.1 hs'
    cases hs'
    exact @Effect.observed s c _ s.parameters.wasNull s.current s.pending _ (hopen hs) rfl
  cases cmd with
  | get ref g =>
    dsimp only [CallableCommand.perform]
    -- A getter notes whether the value was NULL, also if it then cannot convert it.
    rcases CallableStatement.get_cases s ref g with ⟨e, hget⟩ | ⟨hs, answer, v, hget⟩
    · rw [hget]
      exact .refused nofun nofun
    · rw [hget]
      cases answer <;> exact @Effect.observed s c _ v.isNull s.current s.pending s.options hs rfl
  | wasNull =>
    dsimp only [CallableCommand.perform]
    refine effect_tell fun outcome s' hs' => ?_
    obtain ⟨b, hb, hs'⟩ := bind_eq_ok_iff.1 hs'
    obtain ⟨⟨⟩, hs, -⟩ := bind_eq_ok_iff.1 hb
    cases hs'
    exact ⟨hopen hs, s.current, s.pending, rfl⟩
  | registerOutput ref =>
    dsimp only [CallableCommand.perform]
    refine effect_tell fun outcome s' hs' => ?_
    obtain ⟨⟨⟩, hb, hs'⟩ := bind_eq_ok_iff.1 hs'
    obtain ⟨slot, hslot, -⟩ := bind_eq_ok_iff.1 hb
    obtain ⟨⟨⟩, hs, -⟩ := bind_eq_ok_iff.1 hslot
    cases hs'
    exact ⟨hopen hs, s.current, s.pending, rfl⟩
  | plain cmd =>
    dsimp only [CallableCommand.perform]
    cases cmd with
    | setMaxRows n => exact hconfigure _
    | setFetchSize n => exact hconfigure _
    | setTimeout timeout => exact hconfigure _
    | setResultSetKind scrolling concurrency => exact hconfigure _
    | takeResultSet =>
      dsimp only [StatementCommand.perform]
      refine effect_tell fun outcome s' hs' => ?_
      obtain ⟨r, hr, hs'⟩ := bind_eq_ok_iff.1 hs'
      obtain ⟨⟨⟩, hs, hr⟩ := bind_eq_ok_iff.1 hr
      cases hr
      cases hs'
      obtain ⟨current, hrest⟩ := s.exists_takeRows
      exact ⟨hopen hs, current, s.pending, hrest⟩
    | updateCount =>
      dsimp only [StatementCommand.perform]
      refine effect_tell fun outcome s' hs' => ?_
      obtain ⟨b, hb, hs'⟩ := bind_eq_ok_iff.1 hs'
      obtain ⟨⟨⟩, hs, -⟩ := bind_eq_ok_iff.1 hb
      cases hs'
      exact ⟨hopen hs, s.current, s.pending, rfl⟩
    | moreResults =>
      dsimp only [StatementCommand.perform]
      refine effect_tell fun outcome s' hs' => ?_
      obtain ⟨r, hr, hs'⟩ := bind_eq_ok_iff.1 hs'
      obtain ⟨⟨⟩, hs, hr⟩ := bind_eq_ok_iff.1 hr
      cases hr
      cases hs'
      exact ⟨hopen hs, _, _, rfl⟩
    | _ => cases h
  | _ => cases h

/-! ## Cancelling and closing -/

/-- An action that only asks the engine reports its answer. -/
theorem reported_of_ask {a : StatementAction Unit} {call : PreparedStatement → Call}
    {s s' : PreparedStatement} {c : Connection}
    (h : a (s, c) = PreparedStatement.ask call (s', c)) :
    (do a; return Outcome.told .done : StatementAction Outcome) (s, c) =
      reported (c.engine.answer c.calls (call s')) (s', c.log (call s')) := by
  cases hanswer : c.engine.answer c.calls (call s') with
  | ok answer =>
    simp only [PreparedStatement.ask, hanswer] at h
    exact bind_of_ok h
  | error e =>
    simp only [PreparedStatement.ask, hanswer] at h
    exact bind_of_error h

/-- Cancelling is refused, or it is one call that changes nothing. -/
theorem effect_cancel (s : PreparedStatement) (c : Connection) :
    Effect s c .cancel (StatementCommand.perform .cancel (s, c)) := by
  -- The statement is checked first, and then the connection.
  cases hs : s.parameters.closed with
  | true =>
    have hcancel : PreparedStatement.cancel (s, c) = .error .statementClosed (s, c) := by
      simp [PreparedStatement.cancel, PreparedStatement.requireOpen,
        ParameterBuffer.requireOpen, hs]
    rw [StatementCommand.perform, bind_of_error hcancel]
    exact .refused nofun nofun
  | false =>
    cases hc : c.closed with
    | true =>
      have hcancel : PreparedStatement.cancel (s, c) = .error .connectionClosed (s, c) := by
        simp [PreparedStatement.cancel, PreparedStatement.requireOpen,
          ParameterBuffer.requireOpen, hs, Connection.requireOpen, hc]
      rw [StatementCommand.perform, bind_of_error hcancel]
      exact .refused nofun nofun
    | false =>
      have hcancel : PreparedStatement.cancel (s, c) =
          PreparedStatement.ask (fun s => .cancelStatement s.id) (s, c) := by
        simp [PreparedStatement.cancel, PreparedStatement.requireOpen,
          ParameterBuffer.requireOpen, hs, Connection.requireOpen, hc]
      rw [StatementCommand.perform, reported_of_ask hcancel]
      exact .cancelled hs hc

/-- Closing has one of its three effects, by what is open. -/
theorem effect_close (s : PreparedStatement) (c : Connection) :
    Effect s c .close (StatementCommand.perform .close (s, c)) := by
  -- A closed statement is left alone, and on a closed connection there is no call.
  cases hs : s.parameters.closed with
  | true =>
    have hclose : PreparedStatement.close (s, c) = .ok () (s, c) := by
      simp [PreparedStatement.close, hs]
    rw [StatementCommand.perform, bind_of_ok hclose]
    exact .closedAgain hs
  | false =>
    cases hc : c.closed with
    | true =>
      have hclose : PreparedStatement.close (s, c) = .ok () (s.released, c) := by
        simp [PreparedStatement.close, hs, hc]
      rw [StatementCommand.perform, bind_of_ok hclose]
      exact .closedLate hs hc
    | false =>
      have hclose : PreparedStatement.close (s, c) =
          PreparedStatement.ask (fun s => .closeStatement s.id) (s.released, c) := by
        simp [PreparedStatement.close, hs, hc]
      rw [StatementCommand.perform, reported_of_ask hclose]
      exact .closed hs hc

/-! ## All commands -/

/-- A command does what its role can do, and nothing else. -/
theorem perform_effect (cmd : CallableCommand) (s : PreparedStatement) (c : Connection) :
    Effect s c cmd.role (cmd.perform (s, c)) := by
  -- The executing commands share their run, and differ in the look at the results.
  have hexecute (h : cmd.role = .execute) : Effect s c .execute (cmd.perform (s, c)) := by
    obtain ⟨finish, hfinish, hperform⟩ := perform_of_execute h
    rw [hperform]
    exact effect_run hfinish s c
  cases cmd with
  | setParameter ref a =>
    dsimp only [CallableCommand.perform]
    refine effect_change nofun nofun fun s' hs' => ?_
    obtain ⟨index, slot, href, hset⟩ := CallableStatement.setParameter_eq_ok hs'
    exact effect_set href hset
  | executeQuery => exact hexecute rfl
  | get ref g => exact effect_observe rfl
  | wasNull => exact effect_observe rfl
  | registerOutput ref => exact effect_observe rfl
  | plain cmd =>
    cases cmd with
    | setParameter n a =>
      dsimp only [CallableCommand.perform, StatementCommand.perform]
      refine effect_change nofun nofun fun s' hs' => ?_
      -- The ordinal is that of a slot, since the parameter could be set.
      obtain ⟨v, -, hbind⟩ := PreparedStatement.setParameter_eq_ok hs'
      obtain ⟨-, index, slot, -, hslot, -⟩ := PreparedStatement.bind_eq_ok hbind
      obtain ⟨-, rfl⟩ := ParameterBuffer.getElem?_of_slotAt hslot
      exact effect_set hslot hs'
    | clearParameters =>
      refine effect_change nofun nofun fun s' hs' => ?_
      obtain ⟨⟨⟩, hs, hs'⟩ := bind_eq_ok_iff.1 hs'
      cases hs'
      exact .cleared (ParameterBuffer.requireOpen_eq_ok_iff.1 hs)
    | execute => exact hexecute rfl
    | executeQuery => exact hexecute rfl
    | executeUpdate => exact hexecute rfl
    | cancel => exact effect_cancel s c
    | close => exact effect_close s c
    | isClosed => exact .asked
    | _ => exact effect_observe rfl

end SqlAccess
