import SqlAccess.Client.Command
import SqlAccess.Proofs.Action

/-!
# Cursors

A result set of `n` rows that can scroll is a cursor on the places from 0, before the first row, to
`n + 1`, after the last one. Where a move goes is said here by integers that are kept in this range
(`Move.place`), and what a call tells or reads is said by the place and the rows alone
(`ResultCall.Answers`). The main result is that a run of calls is the run of this cursor, until the
result set is closed (`run_cursor`).
-/

namespace SqlAccess

open SqlAccess.Calendar

/-! ## Places -/

/-- The place among `n` rows that is nearest to an integer. -/
def nearestPlace (n : Nat) (x : Int) : Int :=
  max 0 (min x (n + 1))

/-- The place of a row, counted back from the end if it is negative. -/
def placeOfRow (n : Nat) (row : Int) : Int :=
  nearestPlace n (if row < 0 then n + 1 + row else row)

/-- A place is that of a row, and neither before nor after all of them. -/
def OnRow (n : Nat) (p : Int) : Prop :=
  1 ≤ p ∧ p ≤ n
deriving Decidable

namespace Move

/-- Where a move goes from a place among `n` rows. -/
def place (n : Nat) (p : Int) : Move → Int
  | next => min (p + 1) (n + 1)
  | previous => max (p - 1) 0
  | beforeFirst => 0
  | afterLast => n + 1
  | first => placeOfRow n 1
  | last => placeOfRow n (-1)
  | absolute row => placeOfRow n row.toInt
  | relative rows => nearestPlace n (p + rows.toInt)

/-- The sum that a relative move makes is an integer of 64 bits. -/
def Fits (p : Int) : Move → Prop
  | relative rows =>
    -9223372036854775808 ≤ p + rows.toInt ∧ p + rows.toInt ≤ 9223372036854775807
  | _ => True

/-- What a move tells: whether the cursor is on a row now, if it tells anything. -/
def reply (onRow : Bool) : Move → Reply
  | beforeFirst => .done
  | afterLast => .done
  | _ => .flag onRow

theorem place_mem {n : Nat} {p : Int} (hlow : 0 ≤ p) (hhigh : p ≤ n + 1) (m : Move) :
    0 ≤ m.place n p ∧ m.place n p ≤ n + 1 := by
  cases m <;> simp only [place, placeOfRow, nearestPlace] <;> omega

/-- The nearest place is the one that the program takes. -/
theorem toNat_nearestPlace (n : Nat) (x : Int) : (nearestPlace n x).toNat = nearest n x := by
  simp only [nearestPlace, nearest]
  omega

/-- The cursor goes where the move says. -/
theorem destination_eq {n : Nat} {p : Int} {m : Move} (hlow : 0 ≤ p) (hhigh : p ≤ n + 1)
    (hfits : m.Fits p) : m.destination n p.toNat = (m.place n p).toNat := by
  have hp : (p.toNat : Int) = p := Int.toNat_of_nonneg hlow
  cases m with
  | next =>
    simp only [destination, place]
    omega
  | previous =>
    simp only [destination, place]
    omega
  | relative rows =>
    -- The sum fits 64 bits, and so does not wrap.
    obtain ⟨hmin, hmax⟩ := hfits
    simp only [destination, place, toNat_nearestPlace, hp]
    rw [Int64.toInt_ofInt_of_le hmin (by omega)]
  | beforeFirst => rfl
  | afterLast =>
    simp only [destination, place]
    omega
  | _ => exact (toNat_nearestPlace n _).symm

end Move

/-! ## Calls -/

/-- A call on a result set that moves its cursor, tells where it is, reads a column or closes it. -/
inductive ResultCall
  | move (m : Move)
  | row
  | isBeforeFirst
  | isAfterLast
  | isFirst
  | isLast
  | get (ref : ColumnRef) (g : Getter)
  | close
deriving DecidableEq

/-- The index of the column that is meant. -/
def ColumnRef.index? (columns : List Column) : ColumnRef → Option Nat
  | .ordinal n => if n = 0 then none else some (n - 1)
  | .label s => columns.findIdx? (Column.hasLabel s)

namespace ResultCall

def perform (rs : ResultSet) : ResultCall → Except Error Reply × ResultSet
  | move m =>
    match rs.move m with
    | .ok (onRow, moved) => (.ok (m.reply onRow), moved)
    | .error e => (.error e, rs)
  | row => (rs.row.map fun n => .count n, rs)
  | isBeforeFirst => (rs.isBeforeFirst.map .flag, rs)
  | isAfterLast => (rs.isAfterLast.map .flag, rs)
  | isFirst => (rs.isFirst.map .flag, rs)
  | isLast => (rs.isLast.map .flag, rs)
  | get ref g => ((rs.get ref g).1.map .value, (rs.get ref g).2)
  | close => (.ok .done, rs.close)

/-- The place of the cursor after a call at a place. -/
def place (n : Nat) (p : Int) : ResultCall → Int
  | move m => m.place n p
  | _ => p

def Fits (p : Int) : ResultCall → Prop
  | move m => m.Fits p
  | _ => True

theorem place_mem {n : Nat} {p : Int} (hlow : 0 ≤ p) (hhigh : p ≤ n + 1) (call : ResultCall) :
    0 ≤ call.place n p ∧ call.place n p ≤ n + 1 := by
  cases call with
  | move m => exact m.place_mem hlow hhigh
  | _ => exact ⟨hlow, hhigh⟩

/-- What reading a column answers at a place. Only columns that there are count here. -/
def Reads (rs : ResultSet) (p : Int) (ref : ColumnRef) (g : Getter) (a : Except Error Reply) :
    Prop :=
  ∀ i column, ref.index? rs.columns = some i → rs.columns[i]? = some column →
    (OnRow rs.rows.length p → ∃ values, rs.rows[(p - 1).toNat]? = some values ∧
      (∀ v, values[i]? = some v → a = (g.answer v column.type rs.zone).map .value) ∧
      (values[i]? = none → ∃ text, a = .error (.protocol text))) ∧
    (¬OnRow rs.rows.length p → ∃ text, a = .error (.noCurrentRow text))

/-- What a call answers at a place, by the rows of the result set. -/
def Answers (rs : ResultSet) (p : Int) : ResultCall → Except Error Reply → Prop
  | move m, a =>
    a = .ok (m.reply (decide (OnRow rs.rows.length (m.place rs.rows.length p))))
  | row, a => a = .ok (.count (some (if OnRow rs.rows.length p then p.toNat else 0)))
  | isBeforeFirst, a => a = .ok (.flag (decide (0 < rs.rows.length ∧ p = 0)))
  | isAfterLast, a => a = .ok (.flag (decide (0 < rs.rows.length ∧ p = rs.rows.length + 1)))
  | isFirst, a => a = .ok (.flag (decide (0 < rs.rows.length ∧ p = 1)))
  | isLast, a => a = .ok (.flag (decide (0 < rs.rows.length ∧ p = rs.rows.length)))
  -- No column is looked at for a value that no engine has.
  | get _ (.unsupported feature), a => a = .error (.featureNotSupported feature)
  | get ref g, a => Reads rs p ref g a
  | close, a => a = .ok .done

end ResultCall

/-- The place of a cursor after some calls. -/
def placeAfter (n : Nat) (p : Int) : List ResultCall → Int
  | [] => p
  | call :: calls => placeAfter n (call.place n p) calls

/-- No relative move among some calls leaves the integers of 64 bits. -/
def AllFit (n : Nat) (p : Int) : List ResultCall → Prop
  | [] => True
  | call :: calls => call.Fits p ∧ AllFit n (call.place n p) calls

/-! ## One call -/

/-- A getter is supported, or it is for a kind of value that is not. -/
theorem Getter.supported_or_eq (g : Getter) :
    (∀ feature, g ≠ .unsupported feature) ∨ ∃ feature, g = .unsupported feature := by
  cases g with
  | unsupported feature => exact .inr ⟨feature, rfl⟩
  | _ => exact .inl nofun

namespace ResultSet

/-- The result set after some calls. -/
def run (rs : ResultSet) : List ResultCall → ResultSet
  | [] => rs
  | call :: calls => run (call.perform rs).2 calls

/-- The result set is open, can scroll, and has its cursor at a place. -/
structure IsAt (rs : ResultSet) (p : Int) : Prop where
  isOpen : rs.closed = false
  scrolls : rs.scrolling = .insensitive
  position : (rs.position : Int) = p
  le : p ≤ rs.rows.length + 1

variable {rs : ResultSet} {p : Int}

theorem requireOpen_of_open (h : rs.closed = false) : rs.requireOpen = .ok () := by
  simp [requireOpen, h]

theorem requireOpen_of_closed (h : rs.closed = true) :
    rs.requireOpen = .error .resultSetClosed := by
  simp [requireOpen, h]

/-- New rows have their cursor before the first one. -/
theorem isAt_ofRowSet (r : RowSet) (zone : Offset) {scrolling : Scrolling}
    (h : scrolling ≠ .forwardOnly) : (ofRowSet r zone scrolling).IsAt 0 where
  isOpen := rfl
  scrolls := by cases scrolling <;> simp_all [ofRowSet, Scrolling.served]
  position := rfl
  le := by omega

namespace IsAt

theorem nonneg (h : rs.IsAt p) : 0 ≤ p := by
  rw [← h.position]
  exact Int.natCast_nonneg _

theorem position_eq (h : rs.IsAt p) : rs.position = p.toNat := by
  rw [← h.position]
  rfl

theorem onRow_eq (h : rs.IsAt p) : rs.onRow = decide (OnRow rs.rows.length p) := by
  rw [onRow, ← Bool.decide_and, decide_eq_decide, OnRow, ← h.position]
  omega

/-- Putting the cursor at another place, and noting another value. -/
theorem goTo (h : rs.IsAt p) {q : Int} (hlow : 0 ≤ q) (hhigh : q ≤ rs.rows.length + 1) (b : Bool) :
    { rs with position := q.toNat, wasNull := b }.IsAt q where
  isOpen := h.isOpen
  scrolls := h.scrolls
  position := Int.toNat_of_nonneg hlow
  le := hhigh

/-- A move goes to its place and tells whether a row is there. -/
theorem move_eq (h : rs.IsAt p) {m : Move} (hfits : m.Fits p) :
    rs.move m = .ok (decide (OnRow rs.rows.length (m.place rs.rows.length p)),
      { rs with position := (m.place rs.rows.length p).toNat }) := by
  obtain ⟨hlow, hhigh⟩ := m.place_mem h.nonneg h.le
  -- It can scroll, so that no move is refused.
  have hforward : (rs.scrolling == .forwardOnly) = false := by
    rw [h.scrolls]
    rfl
  have hmoved := (h.goTo hlow hhigh rs.wasNull).onRow_eq
  unfold move
  rw [requireOpen_of_open h.isOpen, hforward, Bool.and_false, h.position_eq,
    Move.destination_eq h.nonneg h.le hfits]
  exact congrArg (fun b => Except.ok (b, _)) hmoved

/-- The number of a row is its place, and 0 where there is no row. -/
theorem row_eq (h : rs.IsAt p) :
    rs.row = .ok (if OnRow rs.rows.length p then p.toNat else 0) := by
  unfold row
  rw [requireOpen_of_open h.isOpen, h.onRow_eq, h.position_eq]
  simp only [decide_eq_true_eq]
  rfl

/-- Before the first row is the place 0, if there are rows. -/
theorem isBeforeFirst_eq (h : rs.IsAt p) :
    rs.isBeforeFirst = .ok (decide (0 < rs.rows.length ∧ p = 0)) := by
  unfold isBeforeFirst
  rw [requireOpen_of_open h.isOpen]
  refine congrArg Except.ok (Bool.eq_iff_iff.2 ?_)
  simp [← h.position, List.length_pos_iff]

/-- After the last row is the place behind their number, if there are rows. -/
theorem isAfterLast_eq (h : rs.IsAt p) :
    rs.isAfterLast = .ok (decide (0 < rs.rows.length ∧ p = rs.rows.length + 1)) := by
  unfold isAfterLast
  rw [requireOpen_of_open h.isOpen]
  refine congrArg Except.ok (Bool.eq_iff_iff.2 ?_)
  simp [← h.position, List.length_pos_iff]
  omega

/-- The first row is at the place 1. -/
theorem isFirst_eq (h : rs.IsAt p) :
    rs.isFirst = .ok (decide (0 < rs.rows.length ∧ p = 1)) := by
  unfold isFirst
  rw [requireOpen_of_open h.isOpen]
  refine congrArg Except.ok (Bool.eq_iff_iff.2 ?_)
  simp [onRow, ← h.position]
  omega

/-- The last row is at the place of their number. -/
theorem isLast_eq (h : rs.IsAt p) :
    rs.isLast = .ok (decide (0 < rs.rows.length ∧ p = rs.rows.length)) := by
  unfold isLast
  rw [requireOpen_of_open h.isOpen]
  refine congrArg Except.ok (Bool.eq_iff_iff.2 ?_)
  simp [onRow, ← h.position]
  omega

end IsAt

/-! ## Reading -/

theorem columnAt_succ {i : Nat} {column : Column} (h : rs.columns[i]? = some column) :
    rs.columnAt (i + 1) = .ok (i, column) := by
  simp [columnAt, h]

/-- A column that is meant is the one that is read. -/
theorem resolve_of_index? {ref : ColumnRef} {i : Nat} {column : Column} (hopen : rs.closed = false)
    (hi : ref.index? rs.columns = some i) (hcolumn : rs.columns[i]? = some column) :
    rs.resolve ref = .ok (i, column) := by
  cases ref with
  | ordinal n =>
    obtain ⟨hn, rfl⟩ : n ≠ 0 ∧ n - 1 = i := by simpa [ColumnRef.index?] using hi
    obtain ⟨k, rfl⟩ := Nat.exists_eq_succ_of_ne_zero hn
    exact columnAt_succ hcolumn
  | label s =>
    have hfind : rs.findColumn s = .ok (i + 1) := by
      unfold findColumn
      rw [requireOpen_of_open hopen, show rs.columns.findIdx? (Column.hasLabel s) = some i from hi]
      rfl
    simp only [resolve, hfind]
    exact columnAt_succ hcolumn

namespace IsAt

/-- On a row, the values of that row are read. -/
theorem currentRow_of_onRow (h : rs.IsAt p) (hrow : OnRow rs.rows.length p) :
    ∃ values, rs.rows[(p - 1).toNat]? = some values ∧ rs.currentRow = .ok values := by
  obtain ⟨hfirst, hlast⟩ := hrow
  -- A place on a row is one behind the index of the row.
  obtain ⟨k, hk⟩ : ∃ k, rs.position = k + 1 := ⟨(p - 1).toNat, by rw [h.position_eq]; omega⟩
  have hindex : (p - 1).toNat = k := by
    rw [h.position_eq] at hk
    omega
  have hlt : k < rs.rows.length := by omega
  refine ⟨rs.rows[k], by rw [hindex, List.getElem?_eq_getElem hlt], ?_⟩
  rw [currentRow, hk]
  simp [hlt]

/-- Beside the rows there is no row to read. -/
theorem currentRow_of_not_onRow (h : rs.IsAt p) (hrow : ¬OnRow rs.rows.length p) :
    ∃ text, rs.currentRow = .error (.noCurrentRow text) := by
  have hposition := h.position
  have hle := h.le
  unfold OnRow at hrow
  unfold currentRow
  -- The cursor is before the first row, or after the last one.
  cases hp : rs.position with
  | zero => exact ⟨_, rfl⟩
  | succ k =>
    have hnone : rs.rows[k]? = none := List.getElem?_eq_none (by omega)
    simp only [hnone]
    exact ⟨_, rfl⟩

end IsAt

/-- Getters that are supported fetch the value and note whether it was NULL. -/
theorem get_of_supported {g : Getter} (hg : ∀ feature, g ≠ .unsupported feature)
    (ref : ColumnRef) :
    rs.get ref g =
      match rs.fetch ref with
      | .ok (v, type) => (g.answer v type rs.zone, { rs with wasNull := v.isNull })
      | .error e => (.error e, rs) := by
  cases g with
  | unsupported feature => exact absurd rfl (hg feature)
  | _ => rfl

/-- A getter leaves all but the mark of the last value. -/
theorem exists_get (rs : ResultSet) (ref : ColumnRef) (g : Getter) :
    ∃ b, (rs.get ref g).2 = { rs with wasNull := b } := by
  unfold get
  split
  · exact ⟨rs.wasNull, rfl⟩
  · split
    · exact ⟨_, rfl⟩
    · exact ⟨rs.wasNull, rfl⟩

namespace IsAt

/-- A getter answers by the row at the place, or that there is none. -/
theorem reads (h : rs.IsAt p) {g : Getter} (hg : ∀ feature, g ≠ .unsupported feature)
    (ref : ColumnRef) : ResultCall.Reads rs p ref g ((rs.get ref g).1.map .value) := by
  intro i column hi hcolumn
  have hopen := requireOpen_of_open h.isOpen
  have hresolve := resolve_of_index? h.isOpen hi hcolumn
  rw [get_of_supported hg, fetch, hopen, hresolve]
  constructor
  · intro hrow
    -- The row may be too short for the column.
    obtain ⟨values, hvalues, hcurrent⟩ := h.currentRow_of_onRow hrow
    rw [hcurrent]
    refine ⟨values, hvalues, ?_, ?_⟩
    · intro v hv
      simp only [bind, Except.bind, hv]
      rfl
    · intro hnone
      simp only [bind, Except.bind, hnone]
      exact ⟨_, rfl⟩
  · intro hrow
    obtain ⟨text, hcurrent⟩ := h.currentRow_of_not_onRow hrow
    rw [hcurrent]
    exact ⟨text, rfl⟩

end IsAt

/-- Where there are rows, the cursor is before them, on one of them, or after them. -/
theorem IsAt.before_or_on_or_after (h : rs.IsAt p) (hn : 0 < rs.rows.length) :
    rs.isBeforeFirst = .ok true ∧ ¬OnRow rs.rows.length p ∧ rs.isAfterLast = .ok false ∨
    rs.isBeforeFirst = .ok false ∧ OnRow rs.rows.length p ∧ rs.isAfterLast = .ok false ∨
    rs.isBeforeFirst = .ok false ∧ ¬OnRow rs.rows.length p ∧ rs.isAfterLast = .ok true := by
  have hlow := h.nonneg
  have hhigh := h.le
  rw [h.isBeforeFirst_eq, h.isAfterLast_eq]
  -- The three answers are conditions on one place, and exactly one of them holds.
  simp only [Except.ok.injEq, decide_eq_true_eq, decide_eq_false_iff_not, OnRow]
  omega

/-- Without rows, the cursor is neither before, after nor on one of them. -/
theorem IsAt.nowhere_of_empty (h : rs.IsAt p) (hn : rs.rows.length = 0) :
    rs.isBeforeFirst = .ok false ∧ rs.isAfterLast = .ok false ∧
      rs.isFirst = .ok false ∧ rs.isLast = .ok false := by
  rw [h.isBeforeFirst_eq, h.isAfterLast_eq, h.isFirst_eq, h.isLast_eq, hn]
  simp

/-! ## One call, and runs of calls -/

/-- Every call answers by the place and the rows. -/
theorem IsAt.perform_answers (h : rs.IsAt p) {call : ResultCall} (hfits : call.Fits p) :
    call.Answers rs p (call.perform rs).1 := by
  cases call with
  | move m =>
    simp only [ResultCall.perform, h.move_eq hfits]
    rfl
  | row =>
    simp only [ResultCall.perform, h.row_eq]
    rfl
  | isBeforeFirst =>
    simp only [ResultCall.perform, h.isBeforeFirst_eq]
    rfl
  | isAfterLast =>
    simp only [ResultCall.perform, h.isAfterLast_eq]
    rfl
  | isFirst =>
    simp only [ResultCall.perform, h.isFirst_eq]
    rfl
  | isLast =>
    simp only [ResultCall.perform, h.isLast_eq]
    rfl
  -- A getter that is not supported fails whatever the place is, before the column is looked for.
  | get ref g =>
    cases g with
    | unsupported feature =>
      simp only [ResultCall.perform, get, requireOpen_of_open h.isOpen]
      rfl
    | _ => exact h.reads (by intro _ hg; cases hg) ref
  | close => rfl

/-- A call takes the cursor to its place, and leaves all else but the mark of the last value. -/
theorem IsAt.perform_state (h : rs.IsAt p) {call : ResultCall} (hclose : call ≠ .close)
    (hfits : call.Fits p) :
    ∃ b, (call.perform rs).2 =
      { rs with position := (call.place rs.rows.length p).toNat, wasNull := b } := by
  cases call with
  | move m =>
    simp only [ResultCall.perform, h.move_eq hfits]
    exact ⟨rs.wasNull, rfl⟩
  | get ref g =>
    obtain ⟨b, hb⟩ := rs.exists_get ref g
    refine ⟨b, ?_⟩
    change (rs.get ref g).2 = { rs with position := p.toNat, wasNull := b }
    rw [hb, ← h.position_eq]
  | close => exact absurd rfl hclose
  | _ =>
    refine ⟨rs.wasNull, ?_⟩
    -- Any other call leaves the cursor where it was.
    change rs = { rs with position := p.toNat }
    rw [← h.position_eq]

/-- A run of calls takes the cursor from place to place, and leaves all else. -/
theorem IsAt.run_state (h : rs.IsAt p) {calls : List ResultCall} (hclose : .close ∉ calls)
    (hfits : AllFit rs.rows.length p calls) :
    (0 ≤ placeAfter rs.rows.length p calls ∧
      placeAfter rs.rows.length p calls ≤ rs.rows.length + 1) ∧
    ∃ b, rs.run calls =
      { rs with position := (placeAfter rs.rows.length p calls).toNat, wasNull := b } := by
  induction calls generalizing rs p with
  | nil =>
    refine ⟨⟨h.nonneg, h.le⟩, rs.wasNull, ?_⟩
    change rs = { rs with position := p.toNat }
    rw [← h.position_eq]
  | cons call calls ih =>
    obtain ⟨hne, hclose⟩ : call ≠ .close ∧ .close ∉ calls := by
      simpa [eq_comm] using hclose
    obtain ⟨hfits, hrest⟩ := hfits
    obtain ⟨b, hb⟩ := h.perform_state hne hfits
    -- The place behind the first call is where the rest of the run starts.
    obtain ⟨hlow, hhigh⟩ := call.place_mem h.nonneg h.le
    rw [run, hb]
    exact ih (h.goTo hlow hhigh b) hclose hrest

/-! ## Closing -/

/-- What is closed refuses every call but to be closed again. -/
theorem perform_of_closed (h : rs.closed = true) {call : ResultCall} (hclose : call ≠ .close) :
    call.perform rs = (.error .resultSetClosed, rs) := by
  have hopen := requireOpen_of_closed h
  cases call with
  | move m =>
    simp only [ResultCall.perform, move, hopen]
    rfl
  -- Both kinds of getters look first whether the result set is open.
  | get ref g =>
    have hfetch : rs.fetch ref = .error .resultSetClosed := by
      simp only [fetch, hopen]
      rfl
    cases g with
    | unsupported feature =>
      simp only [ResultCall.perform, get, hopen]
      rfl
    | _ =>
      simp only [ResultCall.perform, get, hfetch]
      rfl
  | close => exact absurd rfl hclose
  | row =>
    simp only [ResultCall.perform, row, hopen]
    rfl
  | isBeforeFirst =>
    simp only [ResultCall.perform, isBeforeFirst, hopen]
    rfl
  | isAfterLast =>
    simp only [ResultCall.perform, isAfterLast, hopen]
    rfl
  | isFirst =>
    simp only [ResultCall.perform, isFirst, hopen]
    rfl
  | isLast =>
    simp only [ResultCall.perform, isLast, hopen]
    rfl

/-- What is closed stays closed. -/
theorem closed_run (h : rs.closed = true) (calls : List ResultCall) :
    (rs.run calls).closed = true := by
  induction calls generalizing rs with
  | nil => exact h
  | cons call calls ih =>
    apply ih
    -- Closing it again is answered, and every other call is refused.
    by_cases hclose : call = .close
    · subst hclose
      rfl
    · rw [perform_of_closed h hclose]
      exact h

/-- A run that closes the result set leaves it closed. -/
theorem closed_run_of_mem {calls : List ResultCall} (h : .close ∈ calls) :
    (rs.run calls).closed = true := by
  induction calls generalizing rs with
  | nil => cases h
  | cons call calls ih =>
    cases h with
    -- The first call closes it, or one of the others does.
    | head => exact closed_run rfl calls
    | tail _ hmem => exact ih hmem

end ResultSet

/-! ## Runs -/

/-- An open result set that can scroll is a cursor on the places of its rows: every call of a run
takes it where the cursor goes and answers by the place and the rows. Once it is closed, every call
but closing fails and changes nothing. -/
theorem run_cursor {rs : ResultSet} {start : Int} (h : rs.IsAt start) (calls : List ResultCall) :
    let n := rs.rows.length
    let p := placeAfter n start calls
    let now := rs.run calls
    (.close ∉ calls → AllFit n start calls →
      (0 ≤ p ∧ p ≤ n + 1) ∧
      (∃ b, now = { rs with position := p.toNat, wasNull := b }) ∧
      (∀ call : ResultCall, call ≠ .close → call.Fits p →
        call.Answers rs p (call.perform now).1 ∧
        ∃ b, (call.perform now).2 =
          { rs with position := (call.place n p).toNat, wasNull := b }) ∧
      (0 < n →
        now.isBeforeFirst = .ok true ∧ ¬OnRow n p ∧ now.isAfterLast = .ok false ∨
        now.isBeforeFirst = .ok false ∧ OnRow n p ∧ now.isAfterLast = .ok false ∨
        now.isBeforeFirst = .ok false ∧ ¬OnRow n p ∧ now.isAfterLast = .ok true) ∧
      (n = 0 →
        now.isBeforeFirst = .ok false ∧ now.isAfterLast = .ok false ∧
        now.isFirst = .ok false ∧ now.isLast = .ok false)) ∧
    (.close ∈ calls → ∀ call : ResultCall, call ≠ .close →
      call.perform now = (.error .resultSetClosed, now)) := by
  intro n p now
  constructor
  · intro hclose hfits
    -- Behind the run the cursor is at its place, and all else is as it was at the start.
    obtain ⟨⟨hlow, hhigh⟩, b, hnow⟩ := h.run_state hclose hfits
    have hat := h.goTo hlow hhigh b
    refine ⟨⟨hlow, hhigh⟩, ⟨b, hnow⟩, ?_⟩
    rw [show now = _ from hnow]
    exact ⟨fun call hne hcall => ⟨hat.perform_answers hcall, hat.perform_state hne hcall⟩,
      hat.before_or_on_or_after, hat.nowhere_of_empty⟩
  · intro hclose call hne
    exact ResultSet.perform_of_closed (ResultSet.closed_run_of_mem hclose) hne

/-- Up and down three rows, and past the last one; then the result set is closed. -/
theorem run_cursor_three :
    let rs := ResultSet.ofRowSet
      ⟨[.described "ID" .integer], [[.integer 1], [.integer 2], [.integer 3]]⟩ default .sensitive
    let calls : List ResultCall :=
      [.move .last, .move .previous, .get (.label "id") .object, .move (.absolute (-3))]
    rs.IsAt 0 ∧ placeAfter 3 0 calls = 1 ∧
      (∃ b, rs.run calls = { rs with position := 1, wasNull := b }) ∧
      ((ResultCall.move (.relative 5)).perform (rs.run calls)).1 = .ok (.flag false) ∧
      ((ResultCall.get (.ordinal 1) .object).perform (rs.run calls)).1 = .ok (.value (.integer 1)) ∧
      (ResultCall.move .next).perform (rs.run (calls ++ [.close])) =
        (.error .resultSetClosed, rs.run (calls ++ [.close])) := by
  intro rs calls
  have hat : rs.IsAt 0 := ResultSet.isAt_ofRowSet _ _ (by decide)
  obtain ⟨hopen, -⟩ := run_cursor hat calls
  obtain ⟨-, hstate, hcalls, -⟩ := hopen (by decide) ⟨trivial, trivial, trivial, trivial, trivial⟩
  obtain ⟨hmove, -⟩ := hcalls (.move (.relative 5)) (by decide) ⟨by decide, by decide⟩
  obtain ⟨hread, -⟩ := hcalls (.get (.ordinal 1) .object) (by decide) trivial
  obtain ⟨values, hvalues, hvalue, -⟩ := (hread 0 _ rfl rfl).1 (by decide)
  cases hvalues
  obtain ⟨-, hclosed⟩ := run_cursor hat (calls ++ [.close])
  exact ⟨hat, rfl, hstate, hmove, hvalue _ rfl, hclosed (by decide) _ (by decide)⟩

end SqlAccess
