/-!
# Kinds of result sets

How a result set may be moved through, whether it can be changed, and what a commit does to it.
Each kind has the code that clients know it by.
-/

namespace SqlAccess

/-- How the cursor of a result set may move. -/
inductive Scrolling
  | forwardOnly
  /-- To any row; changes by others stay unseen. -/
  | insensitive
  /-- To any row, with changes by others in sight. -/
  | sensitive
deriving DecidableEq, Inhabited

namespace Scrolling

/-- The client's code. -/
def code : Scrolling → Nat
  | forwardOnly => 1003
  | insensitive => 1004
  | sensitive => 1005

/-- The kind with this code. -/
def ofCode? : Nat → Option Scrolling
  | 1003 => some forwardOnly
  | 1004 => some insensitive
  | 1005 => some sensitive
  | _ => none

/-- The kind that is served in place of one that is asked for. -/
def served : Scrolling → Scrolling
  | sensitive => insensitive
  | s => s

end Scrolling

/-- Whether the rows of a result set can be changed through it. -/
inductive Concurrency
  | readOnly
  | updatable
deriving DecidableEq, Inhabited

namespace Concurrency

/-- The client's code. -/
def code : Concurrency → Nat
  | readOnly => 1007
  | updatable => 1008

/-- The kind with this code. -/
def ofCode? : Nat → Option Concurrency
  | 1007 => some readOnly
  | 1008 => some updatable
  | _ => none

end Concurrency

/-- What a commit does to open result sets. -/
inductive Holdability
  | holdOverCommit
  | closeAtCommit
deriving DecidableEq, Inhabited

namespace Holdability

/-- The client's code. -/
def code : Holdability → Nat
  | holdOverCommit => 1
  | closeAtCommit => 2

/-- The name of a kind as one word. -/
def identifier : Holdability → String
  | holdOverCommit => "HoldCursorsOverCommit"
  | closeAtCommit => "CloseCursorsAtCommit"

/-- The kind with this code. -/
def ofCode? : Nat → Option Holdability
  | 1 => some holdOverCommit
  | 2 => some closeAtCommit
  | _ => none

end Holdability

end SqlAccess
