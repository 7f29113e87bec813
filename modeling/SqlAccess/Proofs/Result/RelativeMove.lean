import Mathlib.Logic.Function.Iterate
import SqlAccess.Proofs.Result.Cursor

/-!
# Moves by a number of rows

A relative move means as many single moves, forward or backward, and those stop at either end of
the rows (`ResultSet.IsAt.run_singleMoves`). It does not make them: it adds the number to the
position, and then takes the place that is nearest. So it leaves the cursor where the single moves
leave it, unless the sum is too large for an integer of 64 bits. Such a sum is negative once it has
wrapped, and puts the cursor before the first row instead of after the last one (`move_relative`).
-/

namespace SqlAccess

open SqlAccess.Calendar

/-- As many single moves as there are rows to move by. -/
def singleMoves (rows : Int64) : List ResultCall :=
  List.replicate rows.toInt.natAbs (.move (if 0 ≤ rows.toInt then .next else .previous))

/-! ## Single moves -/

namespace Move

variable {n : Nat} {p : Int}

theorem nearestPlace_mem (n : Nat) (x : Int) : 0 ≤ nearestPlace n x ∧ nearestPlace n x ≤ n + 1 := by
  simp only [nearestPlace]
  omega

/-- A move by one row, over and over, is a move by their number: a cursor that has come to an end
stays there. -/
theorem place_iterate {m : Move} {d : Int} (hd : d = 1 ∨ d = -1)
    (hstep : ∀ q : Int, 0 ≤ q → q ≤ n + 1 → m.place n q = nearestPlace n (q + d))
    (hlow : 0 ≤ p) (hhigh : p ≤ n + 1) (k : Nat) :
    (m.place n)^[k] p = nearestPlace n (p + k * d) := by
  induction k with
  | zero =>
    simp [nearestPlace]
    omega
  | succ k ih =>
    obtain ⟨hlow, hhigh⟩ := nearestPlace_mem n (p + k * d)
    -- One more move goes on from the nearest place, which is an end or the sum itself.
    rw [Function.iterate_succ_apply', ih, hstep _ hlow hhigh]
    simp only [nearestPlace, Int.natCast_add]
    rcases hd with rfl | rfl <;> omega

theorem place_next (q : Int) (hlow : 0 ≤ q) : next.place n q = nearestPlace n (q + 1) := by
  simp only [place, nearestPlace]
  omega

theorem place_previous (q : Int) (hhigh : q ≤ n + 1) :
    previous.place n q = nearestPlace n (q + -1) := by
  simp only [place, nearestPlace]
  omega

/-- A sum that is too large is negative once it has wrapped, and so it is before the first row. -/
theorem destination_relative_of_overflows (n : Nat) {position : Nat} {rows : Int64}
    (hposition : position ≤ 9223372036854775807)
    (hmax : 9223372036854775807 < position + rows.toInt) :
    (relative rows).destination n position = 0 := by
  have hrows := rows.toInt_lt
  -- A sum of two integers of 64 bits is less than a turn too large.
  have hwrapped : (Int64.ofInt (position + rows.toInt)).toInt < 0 := by
    rw [Int64.toInt_ofInt, Int.bmod_def]
    simp only [Int64.size]
    omega
  simp only [destination, nearest]
  omega

end Move

namespace ResultSet

variable {rs : ResultSet} {p : Int}

/-- A cursor can be put at the place that is nearest to any integer. -/
theorem IsAt.nearest (h : rs.IsAt p) (x : Int) :
    { rs with position := (nearestPlace rs.rows.length x).toNat }.IsAt
      (nearestPlace rs.rows.length x) := by
  obtain ⟨hlow, hhigh⟩ := Move.nearestPlace_mem rs.rows.length x
  exact h.goTo hlow hhigh rs.wasNull

/-- One move over and over takes the cursor from place to place. -/
theorem IsAt.run_replicate (h : rs.IsAt p) {m : Move} (hfits : ∀ q, m.Fits q) (k : Nat) :
    rs.run (List.replicate k (.move m)) =
      { rs with position := ((m.place rs.rows.length)^[k] p).toNat } := by
  induction k generalizing rs p with
  | zero =>
    change rs = { rs with position := p.toNat }
    rw [← h.position_eq]
  | succ k ih =>
    -- The cursor stays at a place of the rows, so that the next move finds it at one.
    obtain ⟨hlow, hhigh⟩ := m.place_mem h.nonneg h.le
    have hmoved : ((ResultCall.move m).perform rs).2 =
        { rs with position := (m.place rs.rows.length p).toNat } := by
      simp only [ResultCall.perform, h.move_eq (hfits p)]
    rw [List.replicate_succ, run, hmoved, ih (h.goTo hlow hhigh rs.wasNull)]
    rfl

/-- Single moves take the cursor by their number, as far as there are places. -/
theorem IsAt.run_singleMoves (h : rs.IsAt p) (rows : Int64) :
    rs.run (singleMoves rows) =
      { rs with position := (nearestPlace rs.rows.length (p + rows.toInt)).toNat } := by
  unfold singleMoves
  -- The number is how often to go forward, or how often to go back.
  by_cases hforward : 0 ≤ rows.toInt
  · have hcount : (rows.toInt.natAbs : Int) * 1 = rows.toInt := by omega
    rw [if_pos hforward, h.run_replicate (m := .next) (fun _ => trivial),
      Move.place_iterate (.inl rfl) (fun q hlow _ => Move.place_next q hlow) h.nonneg h.le, hcount]
  · have hcount : (rows.toInt.natAbs : Int) * -1 = rows.toInt := by omega
    rw [if_neg hforward, h.run_replicate (m := .previous) (fun _ => trivial),
      Move.place_iterate (.inr rfl) (fun q _ hhigh => Move.place_previous q hhigh) h.nonneg h.le,
      hcount]

/-! ## The sum -/

/-- The sum can only be too large on the side of the last row. -/
theorem IsAt.overflows_relative (h : rs.IsAt p) (rows : Int64) :
    rs.overflows (.relative rows) = true ↔ 9223372036854775807 < p + rows.toInt := by
  have hlow := h.nonneg
  have hmin := rows.le_toInt
  simp [overflows, Move.overflows, h.isOpen, h.scrolls, h.position]
  omega

/-- A sum that is not too large fits, since it cannot be too small. -/
theorem IsAt.fits_relative (h : rs.IsAt p) {rows : Int64}
    (hmax : p + rows.toInt ≤ 9223372036854775807) : (Move.relative rows).Fits p := by
  have hlow := h.nonneg
  have hmin := rows.le_toInt
  exact ⟨by omega, hmax⟩

/-- A move that overflows and wraps goes before the first row. -/
theorem IsAt.move_relative_of_overflows (h : rs.IsAt p) {rows : Int64}
    (hposition : p ≤ 9223372036854775807) (hmax : 9223372036854775807 < p + rows.toInt) :
    rs.move (.relative rows) = .ok (false, { rs with position := 0 }) := by
  rw [← h.position] at hposition hmax
  have hdestination := Move.destination_relative_of_overflows rs.rows.length
    (Int.ofNat_le.1 hposition) hmax
  simp only [move, requireOpen_of_open h.isOpen, h.scrolls, hdestination]
  rfl

end ResultSet

/-! ## Relative moves -/

/-- A relative move overflows exactly if the place that it is to go to is too large for an integer
of 64 bits. Any other leaves the cursor at the nearest place, where as many single moves leave it;
one that overflows and wraps leaves it before the first row. -/
theorem move_relative {rs : ResultSet} {p : Int} (h : rs.IsAt p) (rows : Int64) :
    let q := nearestPlace rs.rows.length (p + rows.toInt)
    let moved := { rs with position := q.toNat }
    moved.IsAt q ∧ rs.run (singleMoves rows) = moved ∧
    (rs.overflows (.relative rows) = true ↔ 9223372036854775807 < p + rows.toInt) ∧
    (rs.overflows (.relative rows) = false →
      rs.move (.relative rows) = .ok (decide (OnRow rs.rows.length q), moved)) ∧
    (rs.overflows (.relative rows) = true → p ≤ 9223372036854775807 →
      rs.move (.relative rows) = .ok (false, { rs with position := 0 })) := by
  intro q moved
  have hoverflows := h.overflows_relative rows
  refine ⟨h.nearest _, h.run_singleMoves rows, hoverflows, ?_, ?_⟩
  · intro hfalse
    have hmax : p + rows.toInt ≤ 9223372036854775807 := by
      rw [← Int.not_lt, ← hoverflows, hfalse]
      exact Bool.false_ne_true
    exact h.move_eq (h.fits_relative hmax)
  · intro htrue hposition
    exact h.move_relative_of_overflows hposition (hoverflows.1 htrue)

/-- Two rows forward from the first of three, and eight rows backward. -/
theorem move_relative_three :
    let rs := ResultSet.ofRowSet
      ⟨[.described "ID" .integer], [[.integer 1], [.integer 2], [.integer 3]]⟩ default .insensitive
    let first := { rs with position := 1 }
    first.IsAt 1 ∧
      first.move (.relative 2) = .ok (true, { rs with position := 3 }) ∧
      first.run (singleMoves 2) = { rs with position := 3 } ∧
      first.move (.relative (-8)) = .ok (false, rs) ∧
      first.run (singleMoves (-8)) = rs := by
  intro rs first
  have hat : first.IsAt 1 := ⟨rfl, rfl, rfl, by decide⟩
  obtain ⟨-, hforward, -, hup, -⟩ := move_relative hat 2
  obtain ⟨-, hbackward, -, hdown, -⟩ := move_relative hat (-8)
  exact ⟨hat, hup (by decide), hforward, hdown (by decide), hbackward⟩

/-- From the first of three rows, moving by the largest number of rows overflows. It wraps to the
place before the first row, and single moves go to the one after the last row. -/
theorem move_relative_largest :
    let rs := ResultSet.ofRowSet
      ⟨[.described "ID" .integer], [[.integer 1], [.integer 2], [.integer 3]]⟩ default .insensitive
    let first := rs.run [.move .next]
    first.IsAt 1 ∧ first.overflows (.relative 9223372036854775807) = true ∧
      first.move (.relative 9223372036854775807) = .ok (false, { rs with position := 0 }) ∧
      first.run (singleMoves 9223372036854775807) = { rs with position := 4 } := by
  intro rs first
  have hat : first.IsAt 1 := ⟨rfl, rfl, rfl, by decide⟩
  have hmax : 9223372036854775807 < 1 + (9223372036854775807 : Int64).toInt := by decide
  exact ⟨hat, (hat.overflows_relative _).2 hmax,
    hat.move_relative_of_overflows (by decide) hmax, hat.run_singleMoves _⟩

end SqlAccess
