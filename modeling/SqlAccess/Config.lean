import SqlAccess.Calendar.OffsetTime
import SqlAccess.Error
import SqlAccess.Text.Uppercase

/-!
# Connection configuration

A connection URL names a storage protocol and a database, and may go on with properties, each a
key and a value joined by an equals sign after a semicolon. Known keys set the fields of the
configuration; all others are kept in order for the engine. The text of a configuration is its URL
with the settings that matter to other clients; credentials and logging are not shown.
-/

namespace SqlAccess

open SqlAccess.Text SqlAccess.Calendar

/-- How the engine stores a database. -/
inductive StorageProtocol
  /-- In memory. -/
  | mem
  /-- In files. -/
  | file
  /-- Read-only, packaged as a resource. -/
  | res
deriving DecidableEq, Inhabited

namespace StorageProtocol

/-- The keyword of a protocol. -/
def keyword : StorageProtocol → String
  | mem => "mem"
  | file => "file"
  | res => "res"

/-- The protocol with this keyword, in any case. -/
def parse (s : List Char) : Except Error StorageProtocol :=
  let word := String.ofList (asciiLower s)
  if word = "mem" then .ok mem
  else if word = "file" then .ok file
  else if word = "res" then .ok res
  else .error (.invalidConnectionString s!"unknown protocol: {word}")

theorem parse_keyword (p : StorageProtocol) : parse p.keyword.toList = .ok p := by
  cases p <;> rfl

end StorageProtocol

/-- Properties in order of insertion, each key once. -/
abbrev Properties := List (String × String)

/-- Sets a property: the value of a key that is there is replaced in its place, and a new key
comes last. -/
def Properties.insert (key value : String) : Properties → Properties
  | [] => [(key, value)]
  | (k, v) :: rest => if k = key then (k, value) :: rest else (k, v) :: insert key value rest

/-- A connection configuration. -/
structure Config where
  protocol : StorageProtocol
  database : String
  username : String
  password : String
  /-- An empty schema or catalog argument of a metadata call means the session's own. -/
  defaultSchema : Bool
  /-- The zone of date-times that have none. -/
  timeZone : Offset
  /-- A hint for new statements; zero leaves it to the engine. -/
  fetchSize : Nat
  logLevel : Option String
  logFile : Option String
  properties : Properties
deriving DecidableEq, Inhabited

namespace Config

/-- What every connection URL starts with. -/
def scheme : String := "quarry:"

/-- The configuration of a database with every other field at its default. -/
def ofDatabase (protocol : StorageProtocol) (database : String) : Config :=
  { protocol := protocol
    database := database
    username := "SA"
    password := ""
    defaultSchema := false
    timeZone := .utc
    fetchSize := 0
    logLevel := none
    logFile := none
    properties := [] }

/-- The URL without properties. -/
def url (c : Config) : String :=
  scheme ++ c.protocol.keyword ++ ":" ++ c.database

/-- The URL with the default-schema setting, the time zone and the engine's properties. -/
def text (c : Config) : String :=
  let schema := if c.defaultSchema then ";default_schema=true" else ""
  let zone :=
    if c.timeZone.seconds = 0 then "" else ";time_zone=" ++ String.ofList c.timeZone.text
  let properties := c.properties.map fun (key, value) => ";" ++ key ++ "=" ++ value
  c.url ++ schema ++ zone ++ String.join properties

/-! ## Reading -/

/-- A property value that is none of its key. -/
def invalidProperty (key value : String) : Error :=
  .invalidConnectionString s!"invalid {key}: {value}"

/-- Reads a truth value, in lower case. -/
def boolean? (s : String) : Option Bool :=
  if s = "true" then some true else if s = "false" then some false else none

/-- Reads a time zone: an offset, or a name of UTC. -/
def timeZone? (s : String) : Option Offset :=
  if s = "Z" ∨ s = "UTC" then some .utc else Offset.ofText? s.toList

/-- Applies one property of a URL. -/
def applyProperty (c : Config) (key value : String) : Except Error Config :=
  match String.ofList (asciiLower key.toList) with
  | "user" => .ok { c with username := value }
  | "password" => .ok { c with password := value }
  | "default_schema" =>
    match boolean? value with
    | some b => .ok { c with defaultSchema := b }
    | none => .error (invalidProperty "default_schema" value)
  | "time_zone" =>
    match timeZone? value with
    | some zone => .ok { c with timeZone := zone }
    | none => .error (invalidProperty "time_zone" value)
  | "fetch_size" =>
    match unsigned32? value.toList with
    | some n => .ok { c with fetchSize := n }
    | none => .error (invalidProperty "fetch_size" value)
  | "log_level" => .ok { c with logLevel := some value }
  | "log_file" => .ok { c with logFile := some value }
  | _ => .ok { c with properties := c.properties.insert key value }

/-- Applies one segment of a URL; a blank one has no effect. -/
def applySegment (c : Config) (segment : List Char) : Except Error Config :=
  if trim segment = [] then .ok c
  else
    match cutFirst '=' segment with
    | none =>
      .error (.invalidConnectionString s!"property without value: {String.ofList segment}")
    | some (key, value) =>
      c.applyProperty (String.ofList (trim key)) (String.ofList (trim value))

/-- The configuration that a connection URL starts with, and the segments that follow. -/
def start (s : String) : Except Error (Config × List (List Char)) := do
  let s := trim s.toList
  if s = [] then throw (.invalidConnectionString "empty connection string")
  let some rest := afterLead scheme.toList s
    | throw (.invalidConnectionString s!"URL must start with {scheme}")
  -- The first segment is the location, and the others are properties.
  match rest.splitOn ';' with
  | [] => throw (.invalidConnectionString "expected <protocol>:<database>")
  | location :: segments =>
    let some (protocol, database) := cutFirst ':' location
      | throw (.invalidConnectionString "expected <protocol>:<database>")
    let protocol ← StorageProtocol.parse protocol
    return (ofDatabase protocol (String.ofList database), segments)

/-- Reads a connection URL. -/
def parse (s : String) : Except Error Config := do
  let (c, segments) ← start s
  segments.foldlM applySegment c

/-! ## Overflow -/

/-- A property of a URL is a time zone whose offset overflows. -/
def propertyOverflows (key value : String) : Bool :=
  String.ofList (asciiLower key.toList) == "time_zone" && value != "Z" && value != "UTC"
    && Offset.overflows value.toList

def segmentOverflows (segment : List Char) : Bool :=
  match cutFirst '=' segment with
  | some (key, value) => propertyOverflows (String.ofList (trim key)) (String.ofList (trim value))
  | none => false

/-- Reading segments comes to one that overflows. -/
def segmentsOverflow (c : Config) : List (List Char) → Bool
  | [] => false
  | segment :: rest =>
    segmentOverflows segment ||
      match c.applySegment segment with
      | .ok c => segmentsOverflow c rest
      | .error _ => false

/-- Reading a connection URL comes to an offset that overflows. -/
def overflows (s : String) : Bool :=
  match start s with
  | .ok (c, segments) => c.segmentsOverflow segments
  | .error _ => false

theorem text_withPassword (c : Config) (p : String) : ({ c with password := p }).text = c.text :=
  rfl

end Config

end SqlAccess
