import SqlAccess.Proofs.Result.Cursor

/-!
# Forward-only result sets

A result set that cannot scroll is read from its first row to its last. The only move that it takes
is the one to the next row, so its cursor is where the number of these moves puts it, whatever else
is called in between (`run_forwardOnly`): every other move is refused and changes nothing, and
reading moves nothing.

Calls that are no moves do not look at how the cursor may move. What they answer is therefore what
they answer on a result set that can scroll and has its cursor at the same place
(`ResultSet.answers_of_no_move`).
-/

namespace SqlAccess

open SqlAccess.Calendar

namespace ResultCall

variable {call : ResultCall}

/-- The call is a move of the cursor. -/
def IsMove (call : ResultCall) : Prop :=
  ∃ m, call = .move m

/-- How the cursor may move concerns the moves only. -/
theorem perform_scrolling (rs : ResultSet) (scrolling : Scrolling) (h : ¬call.IsMove) :
    (call.perform { rs with scrolling := scrolling }).1 = (call.perform rs).1 := by
  cases call with
  | move m => exact absurd ⟨m, rfl⟩ h
  | get ref g =>
    -- A value is fetched by the place of the cursor alone.
    have hfetch : { rs with scrolling := scrolling }.fetch ref = rs.fetch ref := rfl
    rcases g.supported_or_eq with hg | ⟨feature, rfl⟩
    · simp only [perform, ResultSet.get_of_supported hg, hfetch]
      cases rs.fetch ref <;> rfl
    · rfl
  | _ => rfl

/-- What a call has to answer is said by the columns, the rows and the zone. -/
theorem answers_congr {rs rs' : ResultSet} (hcolumns : rs.columns = rs'.columns)
    (hrows : rs.rows = rs'.rows) (hzone : rs.zone = rs'.zone) {p : Int}
    {a : Except Error Reply} : call.Answers rs p a ↔ call.Answers rs' p a := by
  cases call with
  | get ref g => cases g <;> simp only [Answers, Reads, hcolumns, hrows, hzone]
  | _ => simp only [Answers, hrows]

/-- The rows by which a call takes a cursor on that moves forward only. -/
def advance : ResultCall → Nat
  | move .next => 1
  | _ => 0

theorem advance_of_ne_next {m : Move} (hm : m ≠ .next) : (move m).advance = 0 := by
  cases m with
  | next => exact absurd rfl hm
  | _ => rfl

/-- The moves to the next row are counted call by call. -/
theorem count_next_cons (call : ResultCall) (calls : List ResultCall) :
    (call :: calls).count (.move .next) = call.advance + calls.count (.move .next) := by
  rw [List.count_cons, Nat.add_comm]
  congr 1
  cases call with
  | move m => cases m <;> rfl
  | _ => rfl

end ResultCall

namespace ResultSet

/-- The result set is open and its cursor moves forward only, from one of its places. -/
structure IsForward (rs : ResultSet) : Prop where
  isOpen : rs.closed = false
  forwardOnly : rs.scrolling = .forwardOnly
  le : rs.position ≤ rs.rows.length + 1

variable {rs : ResultSet} {call : ResultCall}

/-- New rows that cannot scroll are read from their start. -/
theorem isForward_ofRowSet (r : RowSet) (zone : Offset) :
    (ofRowSet r zone .forwardOnly).IsForward where
  isOpen := rfl
  forwardOnly := rfl
  le := Nat.zero_le _

/-! ## One call -/

/-- At the place behind an index, the row with this index is read. -/
theorem currentRow_of_position {p : Nat} {row : Row} (hp : rs.position = p + 1)
    (hrow : rs.rows[p]? = some row) : rs.currentRow = .ok row := by
  rw [currentRow, hp]
  simp only [hrow]

namespace IsForward

/-- Only the move to the next row is taken. -/
theorem perform_of_ne_next (h : rs.IsForward) {m : Move} (hm : m ≠ .next) :
    (ResultCall.move m).perform rs =
      (.error (.invalidArgument "result set is forward only"), rs) := by
  -- Every other move needs a result set that can scroll.
  have hneeds : m.needsScrolling = true := by
    cases m with
    | next => exact absurd rfl hm
    | _ => rfl
  have hmove : rs.move m = .error (.invalidArgument "result set is forward only") := by
    unfold move
    rw [requireOpen_of_open h.isOpen, hneeds, h.forwardOnly]
    rfl
  simp only [ResultCall.perform, hmove]

/-- The move to the next row goes on by one, up to the place after the last row. -/
theorem move_next (h : rs.IsForward) :
    rs.move .next =
      .ok (decide (rs.position + 1 ≤ rs.rows.length),
        { rs with position := min (rs.position + 1) (rs.rows.length + 1) }) := by
  have honRow : ({ rs with position := min (rs.position + 1) (rs.rows.length + 1) } :
      ResultSet).onRow = decide (rs.position + 1 ≤ rs.rows.length) := by
    rw [onRow, ← Bool.decide_and, decide_eq_decide]
    dsimp only
    omega
  unfold move
  rw [requireOpen_of_open h.isOpen]
  exact congrArg (fun b => Except.ok (b, _)) honRow

/-- A call takes the cursor on or leaves it there, and leaves all else but the mark of the last
value. -/
theorem perform_state (h : rs.IsForward) (hclose : call ≠ .close) :
    ∃ b, (call.perform rs).2 =
      { rs with
        position := min (rs.position + call.advance) (rs.rows.length + 1)
        wasNull := b } := by
  have hstill : min (rs.position + 0) (rs.rows.length + 1) = rs.position := Nat.min_eq_left h.le
  -- Of all calls only the move to the next row is more than a look.
  cases call with
  | move m =>
    by_cases hm : m = .next
    · subst hm
      simp only [ResultCall.perform, h.move_next]
      exact ⟨rs.wasNull, rfl⟩
    · rw [h.perform_of_ne_next hm, ResultCall.advance_of_ne_next hm, hstill]
      exact ⟨rs.wasNull, rfl⟩
  | get ref g =>
    simp only [ResultCall.advance, hstill]
    exact rs.exists_get ref g
  | close => exact absurd rfl hclose
  | _ =>
    simp only [ResultCall.advance, hstill]
    exact ⟨rs.wasNull, rfl⟩

/-- The cursor is never put back. -/
theorem position_le_perform (h : rs.IsForward) (hclose : call ≠ .close) :
    rs.position ≤ (call.perform rs).2.position := by
  obtain ⟨b, hb⟩ := h.perform_state hclose
  have hle := h.le
  rw [hb]
  exact Nat.le_min.2 ⟨Nat.le_add_right .., hle⟩

/-- What a call answers depends on where the cursor is, and not on how it may move. -/
theorem answers_of_no_move (h : rs.IsForward) (hmove : ¬call.IsMove) :
    call.Answers rs rs.position (call.perform rs).1 := by
  -- The same rows that can scroll have their cursor at this place.
  have hat : { rs with scrolling := .insensitive }.IsAt rs.position :=
    { isOpen := h.isOpen
      scrolls := rfl
      position := rfl
      le := Int.ofNat_le.2 h.le }
  have hfits : call.Fits rs.position := by
    cases call with
    | move m => exact absurd ⟨m, rfl⟩ hmove
    | _ => trivial
  have hanswers := hat.perform_answers hfits
  rw [ResultCall.perform_scrolling rs .insensitive hmove] at hanswers
  exact (ResultCall.answers_congr rfl rfl rfl).1 hanswers

/-! ## Runs of calls -/

/-- A run takes the cursor on by as many rows as it has moves to the next one. -/
theorem run_state (h : rs.IsForward) {calls : List ResultCall} (hclose : .close ∉ calls) :
    ∃ b, rs.run calls =
      { rs with
        position := min (rs.position + calls.count (.move .next)) (rs.rows.length + 1)
        wasNull := b } := by
  induction calls generalizing rs with
  | nil =>
    refine ⟨rs.wasNull, ?_⟩
    rw [List.count_nil, Nat.add_zero, Nat.min_eq_left h.le]
    rfl
  | cons call calls ih =>
    obtain ⟨hne, hclose⟩ : call ≠ .close ∧ .close ∉ calls := by simpa [eq_comm] using hclose
    obtain ⟨b, hb⟩ := h.perform_state hne
    -- Behind the first call the cursor still moves forward only.
    have hforward : (call.perform rs).2.IsForward := by
      rw [hb]
      exact ⟨h.isOpen, h.forwardOnly, Nat.min_le_right ..⟩
    obtain ⟨b', hb'⟩ := ih hforward hclose
    refine ⟨b', ?_⟩
    rw [run, hb', hb, ResultCall.count_next_cons]
    -- A cursor after the last row stays there, however often it is taken on.
    have hplace : min (min (rs.position + call.advance) (rs.rows.length + 1) +
          calls.count (.move .next)) (rs.rows.length + 1) =
        min (rs.position + (call.advance + calls.count (.move .next))) (rs.rows.length + 1) := by
      omega
    exact congrArg (fun p => { rs with position := p, wasNull := b' }) hplace

end IsForward

end ResultSet

/-- A forward-only result set stands where its moves to the next row have taken it. Every other move
is refused and changes nothing, and no call goes back. The move that comes after `j` of its kind
tells whether there is a row after the first `j`, and goes to that row; and whatever is read answers
for the row that the last of these moves went to. -/
theorem run_forwardOnly (r : RowSet) (zone : Offset) {calls : List ResultCall}
    (hclose : .close ∉ calls) :
    let rs := ResultSet.ofRowSet r zone .forwardOnly
    let n := r.rows.length
    let j := calls.count (.move .next)
    let now := rs.run calls
    (∃ b, now = { rs with position := min j (n + 1), wasNull := b }) ∧
    (∀ m : Move, m ≠ .next →
      ∃ text, (ResultCall.move m).perform now = (.error (.invalidArgument text), now)) ∧
    (∀ call : ResultCall, call ≠ .close → now.position ≤ (call.perform now).2.position) ∧
    ((ResultCall.move .next).perform now).1 = .ok (.flag (decide (j + 1 ≤ n))) ∧
    (∀ row, r.rows[j]? = some row →
      ((ResultCall.move .next).perform now).2.currentRow = .ok row) ∧
    (∀ call : ResultCall, ¬call.IsMove →
      call.Answers rs (min j (n + 1) : Nat) (call.perform now).1) := by
  intro rs n j now
  obtain ⟨b, hb⟩ := (ResultSet.isForward_ofRowSet r zone).run_state hclose
  have hnow : now = { rs with position := min j (n + 1), wasNull := b } := by
    rw [show now = _ from hb]
    exact congrArg (fun p => { rs with position := min p (n + 1), wasNull := b }) (Nat.zero_add j)
  have hposition : now.position = min j (n + 1) := by rw [hnow]
  have hrows : now.rows = r.rows := by
    rw [hnow]
    rfl
  have hforward : now.IsForward := by
    rw [hnow]
    exact ⟨rfl, rfl, Nat.min_le_right ..⟩
  refine ⟨⟨b, hnow⟩, ?_, fun call hne => hforward.position_le_perform hne, ?_, ?_, ?_⟩
  · intro m hm
    exact ⟨_, hforward.perform_of_ne_next hm⟩
  · simp only [ResultCall.perform, hforward.move_next, hposition, hrows]
    -- Behind the end there is no row to go to, and the cursor stays.
    have hflag : min j (n + 1) + 1 ≤ n ↔ j + 1 ≤ n := by omega
    exact congrArg (fun b => Except.ok (Reply.flag b)) (decide_eq_decide.2 hflag)
  · intro row hrow
    have hlt : j < r.rows.length := (List.getElem?_eq_some_iff.1 hrow).1
    simp only [ResultCall.perform, hforward.move_next]
    apply ResultSet.currentRow_of_position (p := j)
    · change min (now.position + 1) (now.rows.length + 1) = j + 1
      rw [hposition, hrows]
      omega
    · exact (congrArg (·[j]?) hrows).trans hrow
  · intro call hmove
    have hanswers := hforward.answers_of_no_move hmove
    rw [hposition] at hanswers
    refine (ResultCall.answers_congr ?_ hrows ?_).1 hanswers <;> rw [hnow]

/-- Two rows are read one after the other, with moves in between that are refused. -/
theorem run_forwardOnly_two :
    let r : RowSet := ⟨[.described "ID" .integer], [[.integer 1], [.integer 2]]⟩
    let rs := ResultSet.ofRowSet r default .forwardOnly
    let calls : List ResultCall :=
      [.get (.ordinal 1) .object, .move .next, .move .previous, .get (.label "id") .object]
    .close ∉ calls ∧
      (∃ text, (ResultCall.move .first).perform (rs.run calls) =
        (.error (.invalidArgument text), rs.run calls)) ∧
      ((ResultCall.get (.label "id") .object).perform (rs.run calls)).1 =
        .ok (.value (.integer 1)) ∧
      ((ResultCall.move .next).perform (rs.run calls)).1 = .ok (.flag true) ∧
      ((ResultCall.move .next).perform (rs.run calls)).2.currentRow = .ok [.integer 2] ∧
      ((ResultCall.move .next).perform (rs.run (calls ++ [.move .next]))).1 =
        .ok (.flag false) := by
  intro r rs calls
  have hclose : .close ∉ calls := by decide
  obtain ⟨-, hrefused, -, hnext, hrow, hanswers⟩ := run_forwardOnly r default hclose
  have hread := hanswers (.get (.label "id") .object) (by rintro ⟨_, ⟨⟩⟩)
  obtain ⟨values, hvalues, hvalue, -⟩ := (hread 0 _ rfl rfl).1 (by decide)
  cases hvalues
  have hclose' : .close ∉ calls ++ [.move .next] := by decide
  obtain ⟨-, -, -, hend, -⟩ := run_forwardOnly r default hclose'
  exact ⟨hclose, hrefused .first (by decide), hvalue _ rfl, hnext, hrow _ rfl, hend⟩

end SqlAccess
