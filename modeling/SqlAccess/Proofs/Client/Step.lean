import SqlAccess.Client
import SqlAccess.Proofs.Connection.Continuation
import SqlAccess.Proofs.Statement.Effect

/-!
# Steps of a client

A command of a client is an action on the connection, a command on the statement under a handle, or
one on something else than it is for (`perform_cases`). What it does to the connection, to that
statement and to everything else is said here once, so that runs can be followed without looking at
how a step is made.
-/

namespace SqlAccess

/-- The handle that a command is on, if it is not on the connection. -/
def Command.handle? : Command → Option String
  | .connection _ => none
  | .metadata name _ => some name
  | .prepared name _ => some name
  | .callable name _ => some name

namespace Client

variable {client : Client} {name : String} {s : PreparedStatement} {command : Command}
  {cmd : CallableCommand}

/-! ## Putting items -/

@[simp]
theorem connection_keep (client : Client) (item : Option Item) (handle : Option String) :
    (client.keep item handle).connection = client.connection := by
  cases item <;> cases handle <;> rfl

@[simp]
theorem connection_step (client : Client) (command : Command) (handle : Option String) :
    (client.step command handle).2.connection = (client.perform command).2.connection :=
  connection_keep ..

/-- Under another handle the same item is found as before. -/
theorem find?_put_of_ne (client : Client) {name other : String} (h : other ≠ name) (item : Item) :
    (client.put name item).find? other = client.find? other := by
  -- The item before was taken out, and it was under another handle than `other`.
  have hrest (items : List (String × Item)) :
      (items.filter fun p => p.1 != name).lookup other = items.lookup other := by
    induction items with
    | nil => rfl
    | cons p items ih =>
      obtain ⟨key, value⟩ := p
      by_cases hkey : key = name
      · rw [List.filter_cons_of_neg (by simp [hkey]), ih, List.lookup_cons,
          beq_eq_false_iff_ne.2 (hkey ▸ h)]
      · rw [List.filter_cons_of_pos (by simpa using hkey), List.lookup_cons, List.lookup_cons, ih]
  rw [find?, put, List.lookup_cons, beq_eq_false_iff_ne.2 h]
  exact hrest client.items

/-! ## Actions on the connection -/

/-- An action on the connection does to it what it does on its own, whether it fails or not. -/
theorem connection_act (client : Client) (a : Action Outcome) :
    (client.act a).2.connection = Connection.after a client.connection := by
  unfold act Connection.after
  cases a client.connection <;> rfl

/-- An action on the connection leaves all handles alone. -/
theorem find?_act (client : Client) (a : Action Outcome) (name : String) :
    (client.act a).2.find? name = client.find? name := by
  unfold act
  cases a client.connection <;> rfl

/-! ## Commands on statements -/

/-- The handle stands for a statement. -/
def Holds (client : Client) (name : String) (s : PreparedStatement) : Prop :=
  client.find? name = some (.prepared s) ∨ client.find? name = some (.callable s)

/-- A command of the client is performed as a command on the statement under a handle. -/
inductive Performs (client : Client) (name : String) (s : PreparedStatement) :
    Command → CallableCommand → Prop
  | prepared {cmd : StatementCommand} :
      client.find? name = some (.prepared s) →
      Performs client name s (.prepared name cmd) (.plain cmd)
  | callable {cmd : CallableCommand} :
      client.find? name = some (.callable s) → Performs client name s (.callable name cmd) cmd

theorem Holds.of_find?_eq {next : Client} (h : client.Holds name s)
    (hfind : next.find? name = client.find? name) : next.Holds name s := by
  unfold Holds at *
  rw [hfind]
  exact h

theorem Performs.handle_eq (h : client.Performs name s command cmd) :
    command.handle? = some name := by
  cases h <;> rfl

/-- The statement is put back under its handle as the kind of statement that it was. -/
theorem Performs.perform_eq (h : client.Performs name s command cmd) :
    ∃ item : PreparedStatement → Item, (item = .prepared ∨ item = .callable) ∧
      client.find? name = some (item s) ∧
      client.perform command =
        let after (x : PreparedStatement × Connection) :=
          { client with connection := x.2 }.put name (item x.1)
        match cmd.perform (s, client.connection) with
        | .ok outcome x => (some (.ok outcome), after x)
        | .error e x => (some (.error e), after x) := by
  cases h with
  | @prepared cmd h =>
    refine ⟨.prepared, .inl rfl, h, ?_⟩
    simp only [Client.perform, h, actOn, CallableCommand.perform]
    cases cmd.perform (s, client.connection) <;> rfl
  | callable h =>
    refine ⟨.callable, .inr rfl, h, ?_⟩
    simp only [Client.perform, h, actOn]
    cases cmd.perform (s, client.connection) <;> rfl

/-- What a command on a statement does to the client is what it does to the statement. -/
theorem Performs.perform (h : client.Performs name s command cmd) :
    (client.perform command).2.connection = (finalState (cmd.perform (s, client.connection))).2 ∧
      (client.perform command).2.Holds name (finalState (cmd.perform (s, client.connection))).1 ∧
      ∀ other, other ≠ name → (client.perform command).2.find? other = client.find? other := by
  obtain ⟨item, hitem, -, hperform⟩ := h.perform_eq
  -- The kind of statement makes no difference to a handle that holds it.
  have hholds (client : Client) (s : PreparedStatement) :
      (client.put name (item s)).Holds name s := by
    rcases hitem with rfl | rfl
    · exact .inl (find?_put ..)
    · exact .inr (find?_put ..)
  rw [hperform]
  cases cmd.perform (s, client.connection) with
  | ok => exact ⟨rfl, hholds _ _, fun other hother => find?_put_of_ne _ hother _⟩
  | error => exact ⟨rfl, hholds _ _, fun other hother => find?_put_of_ne _ hother _⟩

theorem Performs.result (h : client.Performs name s command cmd) :
    (client.perform command).1 =
      some (match cmd.perform (s, client.connection) with
        | .ok outcome _ => .ok outcome
        | .error e _ => .error e) := by
  obtain ⟨item, -, -, hperform⟩ := h.perform_eq
  rw [hperform]
  cases cmd.perform (s, client.connection) <;> rfl

/-- A client that differs in nothing that can be seen; the order in which items were put is not
kept. -/
structure Unchanged (client next : Client) : Prop where
  connection : next.connection = client.connection
  find? (name : String) : next.find? name = client.find? name

/-- If a command leaves its statement and the connection as they were, nothing has changed for the
client. -/
theorem Performs.unchanged (h : client.Performs name s command cmd)
    (hfinal : finalState (cmd.perform (s, client.connection)) = (s, client.connection)) :
    client.Unchanged (client.perform command).2 := by
  obtain ⟨item, -, hfind, hperform⟩ := h.perform_eq
  -- The same connection and the same statement are put back.
  have hput : (client.perform command).2 = client.put name (item s) := by
    rw [hperform]
    cases hresult : cmd.perform (s, client.connection) with
    | ok outcome x =>
      obtain rfl : x = (s, client.connection) := by simpa [hresult] using hfinal
      rfl
    | error e x =>
      obtain rfl : x = (s, client.connection) := by simpa [hresult] using hfinal
      rfl
  rw [hput]
  refine ⟨rfl, fun other => ?_⟩
  -- Only the handle of the statement was put anew, with what it had.
  by_cases hother : other = name
  · rw [hother, find?_put, hfind]
  · exact find?_put_of_ne client hother _

/-! ## All commands -/

/-- A command is an action on the connection, a command on a statement, or nothing. -/
theorem perform_cases (client : Client) (command : Command) :
    (∃ a : Action Outcome, (client.perform command).2 = (client.act a).2 ∧
      (command ≠ .connection .close → Orderly false a)) ∨
    (∃ name s cmd, client.Performs name s command cmd) ∨
    client.perform command = (none, client) := by
  -- What the handle stands for decides whether the command is one on it.
  cases command with
  | connection cmd =>
    refine .inl ⟨cmd.perform, rfl, fun h => .connectionCommand ?_⟩
    rintro rfl
    exact h rfl
  | metadata name cmd =>
    unfold Client.perform
    dsimp only
    split
    · exact .inl ⟨cmd.perform, rfl, fun _ => .metadataCommand cmd⟩
    · exact .inr (.inr rfl)
  | prepared name cmd =>
    unfold Client.perform
    dsimp only
    split
    · next s h => exact .inr (.inl ⟨name, s, .plain cmd, .prepared h⟩)
    · exact .inr (.inr rfl)
  | callable name cmd =>
    unfold Client.perform
    dsimp only
    split
    · next s h => exact .inr (.inl ⟨name, s, cmd, .callable h⟩)
    · exact .inr (.inr rfl)

/-- A command on a statement's handle is performed on the statement, or not at all. -/
theorem Holds.performs_or (h : client.Holds name s) (hhandle : command.handle? = some name) :
    (∃ cmd, client.Performs name s command cmd) ∨ client.perform command = (none, client) := by
  cases command with
  | connection => cases hhandle
  | metadata other cmd =>
    obtain rfl : other = name := Option.some.inj hhandle
    rcases h with h | h
    · -- A command on prepared statements is none on callable ones.
      exact .inr (by simp only [Client.perform, h])
    · exact .inr (by simp only [Client.perform, h])
  | prepared other cmd =>
    obtain rfl : other = name := Option.some.inj hhandle
    rcases h with h | h
    · exact .inl ⟨_, .prepared h⟩
    · exact .inr (by simp only [Client.perform, h])
  | callable other cmd =>
    obtain rfl : other = name := Option.some.inj hhandle
    rcases h with h | h
    · exact .inr (by simp only [Client.perform, h])
    · exact .inl ⟨_, .callable h⟩

/-- A command on something else leaves what is under a handle alone. -/
theorem find?_perform_of_ne (h : command.handle? ≠ some name) :
    (client.perform command).2.find? name = client.find? name := by
  rcases client.perform_cases command with ⟨a, ha, -⟩ | ⟨other, s, cmd, hperforms⟩ | hnone
  · rw [ha, find?_act]
  · obtain ⟨-, -, hothers⟩ := hperforms.perform
    refine hothers name ?_
    rintro rfl
    exact h hperforms.handle_eq
  · rw [hnone]

/-! ## Handles -/

/-- A command gives a handle to something that it made. -/
def Gives (client : Client) (name : String) (command : Command) (handle : Option String) : Prop :=
  handle = some name ∧ (made? (client.perform command).1).isSome = true

theorem not_gives_none (client : Client) (name : String) (command : Command) :
    ¬client.Gives name command none := by
  rintro ⟨⟨⟩, -⟩

/-- Under a handle that is not given to something new, there is what the command left there. -/
theorem find?_step {handle : Option String} (h : ¬client.Gives name command handle) :
    (client.step command handle).2.find? name = (client.perform command).2.find? name := by
  change ((client.perform command).2.keep (made? (client.perform command).1) handle).find? name = _
  unfold Gives at h
  generalize made? (client.perform command).1 = made at *
  cases made with
  | none => rfl
  | some item =>
    cases handle with
    | none => rfl
    | some other =>
      have hne : name ≠ other := by
        rintro rfl
        exact h ⟨rfl, rfl⟩
      exact find?_put_of_ne _ hne item

end Client

end SqlAccess
