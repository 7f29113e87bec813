import SqlAccess.Client.Command

/-!
# Clients

A client works with one connection and with the items that it made from it, each under a handle. A
step performs one command, and a run performs one after the other. A command that fails makes no
item, but the statement that it concerns and the connection are those that it left.
-/

namespace SqlAccess

/-- A connection and the items made from it. -/
structure Client where
  connection : Connection
  items : List (String × Item)

/-- A command, together with what it is performed on. -/
inductive Command
  | connection (c : ConnectionCommand)
  | metadata (handle : String) (c : MetadataCommand)
  | prepared (handle : String) (c : StatementCommand)
  | callable (handle : String) (c : CallableCommand)

namespace Client

/-- A client that has made nothing yet. -/
def ofConnection (c : Connection) : Client := ⟨c, []⟩

/-- The item under a handle. -/
def find? (client : Client) (handle : String) : Option Item :=
  client.items.lookup handle

/-- Puts an item under a handle, in place of the one that is there. -/
def put (client : Client) (handle : String) (item : Item) : Client :=
  { client with items := (handle, item) :: client.items.filter fun p => p.1 != handle }

/-- Keeps what a command made, if it made something and a handle is given for it. -/
def keep (client : Client) : Option Item → Option String → Client
  | some item, some handle => client.put handle item
  | _, _ => client

/-- Performs an action on the connection. -/
def act (client : Client) (a : Action Outcome) : Except Error Outcome × Client :=
  match a client.connection with
  | .ok outcome c => (.ok outcome, { client with connection := c })
  | .error e c => (.error e, { client with connection := c })

/-- Performs an action on a statement and the connection. -/
def actOn (client : Client) (name : String) (item : PreparedStatement → Item)
    (s : PreparedStatement) (a : StatementAction Outcome) : Except Error Outcome × Client :=
  match a (s, client.connection) with
  | .ok outcome (s, c) => (.ok outcome, { client with connection := c }.put name (item s))
  | .error e (s, c) => (.error e, { client with connection := c }.put name (item s))

/-- Performs a command. There is no result if there is nothing that the command could be performed
on. -/
def perform (client : Client) (command : Command) : Option (Except Error Outcome) × Client :=
  -- A command on something else than it is for has no result.
  let resulting (r : Except Error Outcome × Client) := (some r.1, r.2)
  match command with
  | .connection c => resulting (client.act c.perform)
  | .metadata name c =>
    match client.find? name with
    | some .metadata => resulting (client.act c.perform)
    | _ => (none, client)
  | .prepared name c =>
    match client.find? name with
    | some (.prepared s) => resulting (client.actOn name .prepared s c.perform)
    | _ => (none, client)
  | .callable name c =>
    match client.find? name with
    | some (.callable s) => resulting (client.actOn name .callable s c.perform)
    | _ => (none, client)

/-- What a command made, if it succeeded and made something. -/
def made? : Option (Except Error Outcome) → Option Item
  | some (.ok outcome) => outcome.made
  | _ => none

/-- Performs a command, tells its reply, and puts what it made under a handle. -/
def step (client : Client) (command : Command) (handle : Option String) :
    Option (Except Error Reply) × Client :=
  let (result, next) := client.perform command
  (result.map fun r => r.map (·.reply), next.keep (made? result) handle)

/-- Performs commands one after the other. -/
def run (client : Client) (commands : List (Command × Option String)) : Client :=
  commands.foldl (fun client (command, handle) => (client.step command handle).2) client

theorem find?_put (client : Client) (handle : String) (item : Item) :
    (client.put handle item).find? handle = some item := by
  simp [find?, put]

theorem run_append (client : Client) (a b : List (Command × Option String)) :
    client.run (a ++ b) = (client.run a).run b := by
  simp [run]

end Client

end SqlAccess
