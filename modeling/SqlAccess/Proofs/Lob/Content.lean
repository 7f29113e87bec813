import SqlAccess.Lob

/-!
# The content of large objects

A large object is a plain list of units whose positions start at 1, until it is freed. What a call
answers and leaves is said here on such a list alone (`LobCall.Answers`), without the ways in which
characters and bytes are cut and overwritten. The main result is that runs of calls on character and
on binary large objects are runs on lists of characters and of bytes (`run_content`).
-/

namespace SqlAccess

variable {α : Type}

/-! ## Lists with positions -/

/-- The unit at a position; positions start at 1. -/
def unitAt (units : List α) : Nat → Option α
  | 0 => none
  | pos + 1 => units[pos]?

/-- A position of a unit, or the one past the end. -/
def IsPosition (units : List α) (pos : Nat) : Prop :=
  1 ≤ pos ∧ pos ≤ units.length + 1
deriving Decidable

/-- At most `count` units from a position on. -/
def unitsFrom (units : List α) (pos count : Nat) : List α :=
  (units.drop (pos - 1)).take count

/-- The units from a position on are replaced by a value, which may reach past the end, and all
others are as they were. -/
structure Overwritten (units : List α) (pos : Nat) (value after : List α) : Prop where
  length : after.length = max units.length (pos - 1 + value.length)
  unitAt_value : ∀ k, 1 ≤ k → k ≤ value.length → unitAt after (pos - 1 + k) = unitAt value k
  unitAt_other : ∀ q, q < pos ∨ pos + value.length ≤ q → unitAt after q = unitAt units q

/-! ## Calls -/

/-- A call on a large object. -/
inductive LobCall (α : Type)
  | length
  | read (pos count : Nat)
  | content
  | stream
  | streamAt (pos count : Nat)
  | position (pattern : List α) (start : Nat)
  | positionOf (pattern : Lob α) (start : Nat)
  | write (pos : Nat) (value : List α)
  | truncate (count : Nat)
  | free
  | isFreed

/-- What a call tells. -/
inductive LobReply (α : Type)
  | done
  | count (n : Nat)
  | flag (b : Bool)
  | units (units : List α)
  | bytes (bytes : List UInt8)
  | found (pos : Option Nat)

namespace LobCall

/-- The call looks at the content, or changes it. -/
def IsContentCall : LobCall α → Prop
  | free => False
  | isFreed => False
  | _ => True

section Perform

variable [BEq α] [LobUnit α]

def perform (l : Lob α) : LobCall α → Except Error (LobReply α) × Lob α
  | length => (l.length.map .count, l)
  | read pos count => ((l.read pos count).map .units, l)
  | content => (l.content.map .units, l)
  | stream => (l.stream.map .bytes, l)
  | streamAt pos count => ((l.streamAt pos count).map .bytes, l)
  | position pattern start => ((l.position pattern start).map .found, l)
  | positionOf pattern start => ((l.positionOf pattern start).map .found, l)
  | write pos value =>
    match l.write pos value with
    | .ok written => (.ok (.count value.length), written)
    | .error e => (.error e, l)
  | truncate count =>
    match l.truncate count with
    | .ok truncated => (.ok .done, truncated)
    | .error e => (.error e, l)
  | free => (.ok .done, l.free)
  | isFreed => (.ok (.flag l.freed), l)

end Perform

/-- The call is allowed on a content; without one, only freeing and asking for it are. -/
def IsAllowed : Option (List α) → LobCall α → Prop
  | _, free => True
  | _, isFreed => True
  | none, _ => False
  | some units, read pos _ => IsPosition units pos
  | some units, streamAt pos _ => IsPosition units pos
  | some units, position _ start => IsPosition units start
  | some units, positionOf pattern start => pattern.freed = false ∧ IsPosition units start
  | some units, write pos _ => IsPosition units pos
  | some units, truncate count => count ≤ units.length
  | some _, length => True
  | some _, content => True
  | some _, stream => True

/-- What a call that is allowed tells of a content, and the content it leaves. -/
def Answers (encode : List α → List UInt8) :
    Option (List α) → LobCall α → LobReply α → Option (List α) → Prop
  | some units, length, a, after => a = .count units.length ∧ after = some units
  | some units, read pos count, a, after =>
    a = .units (unitsFrom units pos count) ∧ after = some units
  | some units, content, a, after => a = .units units ∧ after = some units
  | some units, stream, a, after => a = .bytes (encode units) ∧ after = some units
  | some units, streamAt pos count, a, after =>
    a = .bytes (encode (unitsFrom units pos count)) ∧ after = some units
  | some units, position _ _, a, after => (∃ found, a = .found found) ∧ after = some units
  | some units, positionOf _ _, a, after => (∃ found, a = .found found) ∧ after = some units
  | some units, write pos value, a, after =>
    a = .count value.length ∧ ∃ written, Overwritten units pos value written ∧ after = some written
  | some units, truncate count, a, after => a = .done ∧ after = some (units.take count)
  | _, free, a, after => a = .done ∧ after = none
  | now, isFreed, a, after => a = .flag now.isNone ∧ after = now
  | none, _, _, _ => False

end LobCall

/-! ## Cutting and overwriting -/

/-- The first units of two lists are those of the first list. -/
theorem unitAt_append_of_le {a b : List α} {pos : Nat} (h : pos ≤ a.length) :
    unitAt (a ++ b) pos = unitAt a pos := by
  cases pos with
  | zero => rfl
  | succ i => exact List.getElem?_append_left h

/-- Behind the first list come the units of the second one. -/
theorem unitAt_append_of_lt {a b : List α} {pos : Nat} (h : a.length < pos) :
    unitAt (a ++ b) pos = unitAt b (pos - a.length) := by
  -- Positions count from one, and indices from zero.
  obtain ⟨i, rfl⟩ : ∃ i, pos = a.length + i + 1 := ⟨pos - a.length - 1, by omega⟩
  have hpos : a.length + i + 1 - a.length = i + 1 := by omega
  have hbehind : a.length + i - a.length = i := by omega
  rw [hpos, unitAt, unitAt, List.getElem?_append_right (Nat.le_add_right _ _), hbehind]

/-- The first units are still there if the others are cut off. -/
theorem unitAt_take {units : List α} {n pos : Nat} (h : pos ≤ n) :
    unitAt (units.take n) pos = unitAt units pos := by
  cases pos with
  | zero => rfl
  | succ i => exact List.getElem?_take_of_lt h

/-- Without the first units, the others move to the front. -/
theorem unitAt_drop {units : List α} {n pos : Nat} (h : 1 ≤ pos) :
    unitAt (units.drop n) pos = unitAt units (n + pos) := by
  obtain ⟨i, rfl⟩ : ∃ i, pos = i + 1 := ⟨pos - 1, by omega⟩
  exact List.getElem?_drop

/-- A value put between the first units and the ones behind its end. -/
theorem overwritten_splice {units value : List α} {before : Nat} (h : before ≤ units.length) :
    Overwritten units (before + 1) value
      (units.take before ++ value ++ units.drop (before + value.length)) where
  length := by
    simp only [List.length_append, List.length_take, List.length_drop]
    omega
  unitAt_value k hk hle := by
    have hlength : (units.take before).length = before := List.length_take_of_le h
    rw [List.append_assoc, unitAt_append_of_lt (by omega), hlength, unitAt_append_of_le (by omega)]
    congr 1
    omega
  unitAt_other q hq := by
    have hlength : (units.take before).length = before := List.length_take_of_le h
    have hvalue : (units.take before ++ value).length = before + value.length := by
      rw [List.length_append, hlength]
    -- Before the value nothing moves, and behind it as much is put in as is taken out.
    rcases hq with hbefore | hbehind
    · rw [List.append_assoc, unitAt_append_of_le (by omega), unitAt_take (by omega)]
    · rw [unitAt_append_of_lt (by omega), hvalue, unitAt_drop (by omega)]
      congr 1
      omega

/-- Zeros, or anything else, behind the content count as long as the value covers them. -/
theorem take_drop_append {units padding : List α} {before stop : Nat} (hbefore : before ≤ units.length)
    (hstop : units.length + padding.length ≤ stop ∨ padding = []) :
    (units ++ padding).take before = units.take before ∧
      (units ++ padding).drop stop = units.drop stop := by
  refine ⟨List.take_append_of_le_length hbefore, ?_⟩
  rcases hstop with hstop | rfl
  · rw [List.drop_eq_nil_of_le (by simpa using hstop), List.drop_eq_nil_of_le (by omega)]
  · rw [List.append_nil]

/-- Cutting and overwriting do on units what they do on lists. -/
class LawfulLobUnit (α : Type) [LobUnit α] : Prop where
  slice_eq (units : List α) (before count : Nat) :
    LobUnit.slice units before count = (units.drop before).take count
  overwritten {units : List α} {before : Nat} (value : List α) (h : before ≤ units.length) :
    Overwritten units (before + 1) value (LobUnit.overwrite units before value)

instance : LawfulLobUnit Char where
  slice_eq _ _ _ := rfl
  overwritten _ h := overwritten_splice h

instance : LawfulLobUnit UInt8 where
  slice_eq bytes before count := by
    have hcount : min (before + count) bytes.length - before =
        min count (bytes.drop before).length := by
      rw [List.length_drop]
      omega
    simp only [LobUnit.slice]
    rw [List.drop_take, hcount, ← List.take_eq_take_min]
  overwritten {bytes before} value h := by
    have hzeros : bytes.length +
        (List.replicate (before + value.length - bytes.length) (0 : UInt8)).length ≤
          before + value.length ∨
        List.replicate (before + value.length - bytes.length) (0 : UInt8) = [] := by
      rw [List.length_replicate, List.replicate_eq_nil_iff]
      omega
    obtain ⟨htake, hdrop⟩ := take_drop_append h hzeros
    simp only [LobUnit.overwrite]
    rw [htake, hdrop]
    exact overwritten_splice h

/-! ## One call -/

/-- A large object with a content, or one whose content was freed. -/
def Lob.holding : Option (List α) → Lob α
  | some units => .ofList units
  | none => ⟨[], true⟩

/-- A call is refused for one of its arguments, or since there is no content. -/
def Refused {β : Type} (r : Except Error β) : Prop :=
  ∃ text, r = .error (.invalidArgument text)

namespace Refused

variable {β γ : Type} {r : Except Error β}

theorem bind (h : Refused r) (f : β → Except Error γ) : Refused (r >>= f) := by
  obtain ⟨text, rfl⟩ := h
  exact ⟨text, rfl⟩

theorem map (h : Refused r) (f : β → γ) : Refused (r.map f) := by
  obtain ⟨text, rfl⟩ := h
  exact ⟨text, rfl⟩

end Refused

namespace Lob

/-- In front of a position there is one unit less than its number. -/
theorem unitsBefore_of_isPosition {units : List α} {pos : Nat} (h : IsPosition units pos) :
    unitsBefore pos units.length = .ok (pos - 1) :=
  if_pos h

theorem unitsBefore_refused {units : List α} {pos : Nat} (h : ¬IsPosition units pos) :
    Refused (unitsBefore pos units.length) :=
  ⟨_, if_neg h⟩

variable [LobUnit α] {units : List α} {pos : Nat}

theorem read_ofList [LawfulLobUnit α] (h : IsPosition units pos) (count : Nat) :
    (ofList units).read pos count = .ok (unitsFrom units pos count) := by
  simp only [read, content_ofList, bind, Except.bind, unitsBefore_of_isPosition h]
  exact congrArg Except.ok (LawfulLobUnit.slice_eq ..)

theorem streamAt_ofList [LawfulLobUnit α] (h : IsPosition units pos) (count : Nat) :
    (ofList units).streamAt pos count = .ok (LobUnit.encode (unitsFrom units pos count)) := by
  simp only [streamAt, read_ofList h]
  rfl

/-- A search looks at what stands from its start on. -/
theorem position_ofList [BEq α] (h : IsPosition units pos) (pattern : List α) :
    (ofList units).position pattern pos =
      .ok (if pos - 1 = units.length ∧ !LobUnit.foundAtEnd α then none
        else (firstOccurrence pattern (units.drop (pos - 1))).map fun n => pos - 1 + n + 1) := by
  simp only [position, content_ofList, bind, Except.bind, unitsBefore_of_isPosition h]
  split <;> rfl

theorem exists_position_ofList [BEq α] (h : IsPosition units pos) (pattern : List α) :
    ∃ found, (ofList units).position pattern pos = .ok found :=
  ⟨_, position_ofList h pattern⟩

/-- A value is written over the units from a position on. -/
theorem exists_write_ofList [LawfulLobUnit α] (h : IsPosition units pos) (value : List α) :
    ∃ written, Overwritten units pos value written ∧
      (ofList units).write pos value = .ok (ofList written) := by
  obtain ⟨hfirst, hlast⟩ := h
  -- The position is one behind the units that stay in front.
  have hwritten := LawfulLobUnit.overwritten value (show pos - 1 ≤ units.length by omega)
  rw [Nat.sub_add_cancel hfirst] at hwritten
  refine ⟨_, hwritten, ?_⟩
  simp only [write, content_ofList, bind, Except.bind, unitsBefore_of_isPosition ⟨hfirst, hlast⟩]
  rfl

theorem truncate_ofList {count : Nat} (h : count ≤ units.length) :
    (ofList units).truncate count = .ok (ofList (units.take count)) := by
  simp only [truncate, content_ofList, bind, Except.bind, if_neg (Nat.not_lt.2 h)]
  rfl

omit [LobUnit α] in
theorem content_of_not_freed {l : Lob α} (h : l.freed = false) : l.content = .ok l.units := by
  simp [content, h]

omit [LobUnit α] in
theorem content_refused {l : Lob α} (h : l.freed = true) : Refused l.content :=
  ⟨_, if_pos h⟩

theorem positionOf_of_not_freed [BEq α] (l : Lob α) {pattern : Lob α} (h : pattern.freed = false) :
    l.positionOf pattern pos = l.position pattern.units pos := by
  rw [positionOf, content_of_not_freed h]
  rfl

theorem read_refused (h : ¬IsPosition units pos) (count : Nat) :
    Refused ((ofList units).read pos count) :=
  (unitsBefore_refused h).bind _

theorem position_refused [BEq α] (h : ¬IsPosition units pos) (pattern : List α) :
    Refused ((ofList units).position pattern pos) :=
  (unitsBefore_refused h).bind _

/-- A pattern that was freed is refused before the position is looked at. -/
theorem positionOf_refused [BEq α] {l pattern : Lob α}
    (h : pattern.freed = false → Refused (l.position pattern.units pos)) :
    Refused (l.positionOf pattern pos) := by
  cases hfreed : pattern.freed with
  | true => exact (content_refused hfreed).bind _
  | false =>
    rw [positionOf, content_of_not_freed hfreed]
    exact h hfreed

theorem write_refused (h : ¬IsPosition units pos) (value : List α) :
    Refused ((ofList units).write pos value) :=
  (unitsBefore_refused h).bind _

theorem truncate_refused {count : Nat} (h : ¬count ≤ units.length) :
    Refused ((ofList units).truncate count) := by
  simp only [truncate, content_ofList, bind, Except.bind, if_pos (Nat.lt_of_not_le h)]
  exact ⟨_, rfl⟩

end Lob

namespace LobCall

variable [BEq α] [LobUnit α]

/-- A call that is allowed answers by the content, and leaves what a list would hold. -/
theorem perform_of_isAllowed [LawfulLobUnit α] {now : Option (List α)} {call : LobCall α}
    (h : call.IsAllowed now) :
    ∃ a after, call.Answers LobUnit.encode now a after ∧
      call.perform (.holding now) = (.ok a, .holding after) := by
  -- On a content each call does what the lemma for it says; without one, two are left.
  cases now with
  | none =>
    cases call with
    | free => exact ⟨.done, none, ⟨rfl, rfl⟩, rfl⟩
    | isFreed => exact ⟨.flag true, none, ⟨rfl, rfl⟩, rfl⟩
    | _ => exact h.elim
  | some units =>
    cases call with
    | length => exact ⟨.count units.length, some units, ⟨rfl, rfl⟩, rfl⟩
    | read pos count =>
      refine ⟨.units (unitsFrom units pos count), some units, ⟨rfl, rfl⟩, ?_⟩
      simp only [perform, Lob.holding, Lob.read_ofList h]
      rfl
    | content => exact ⟨.units units, some units, ⟨rfl, rfl⟩, rfl⟩
    | stream => exact ⟨.bytes (LobUnit.encode units), some units, ⟨rfl, rfl⟩, rfl⟩
    | streamAt pos count =>
      refine ⟨.bytes (LobUnit.encode (unitsFrom units pos count)), some units, ⟨rfl, rfl⟩, ?_⟩
      simp only [perform, Lob.holding, Lob.streamAt_ofList h]
      rfl
    | position pattern start =>
      obtain ⟨found, hfound⟩ := Lob.exists_position_ofList h pattern
      refine ⟨.found found, some units, ⟨⟨found, rfl⟩, rfl⟩, ?_⟩
      simp only [perform, Lob.holding, hfound]
      rfl
    | positionOf pattern start =>
      -- The pattern is read first, which is allowed as long as it was not freed.
      obtain ⟨hfreed, hstart⟩ := h
      obtain ⟨found, hfound⟩ := Lob.exists_position_ofList hstart pattern.units
      refine ⟨.found found, some units, ⟨⟨found, rfl⟩, rfl⟩, ?_⟩
      have hpattern : pattern.content = .ok pattern.units := Lob.content_of_not_freed hfreed
      simp only [perform, Lob.holding, Lob.positionOf, hpattern, bind, Except.bind, hfound]
      rfl
    | write pos value =>
      obtain ⟨written, hwritten, heq⟩ := Lob.exists_write_ofList h value
      refine ⟨.count value.length, some written, ⟨rfl, written, hwritten, rfl⟩, ?_⟩
      simp only [perform, Lob.holding, heq]
    | truncate count =>
      refine ⟨.done, some (units.take count), ⟨rfl, rfl⟩, ?_⟩
      simp only [perform, Lob.holding, Lob.truncate_ofList h]
    | free => exact ⟨.done, none, ⟨rfl, rfl⟩, rfl⟩
    | isFreed => exact ⟨.flag false, some units, ⟨rfl, rfl⟩, rfl⟩

/-- A call that is not allowed is refused and changes nothing. -/
theorem perform_of_not_isAllowed {now : Option (List α)} {call : LobCall α}
    (h : ¬call.IsAllowed now) :
    ∃ text, call.perform (.holding now) = (.error (.invalidArgument text), .holding now) := by
  -- A call that only looks at the content leaves it as it is anyway.
  have told {β : Type} {r : Except Error β} (hr : Refused r) (f : β → LobReply α) :
      ∃ text, (r.map f, Lob.holding now) = (.error (.invalidArgument text), .holding now) := by
    obtain ⟨text, hr⟩ := hr.map f
    exact ⟨text, by rw [hr]⟩
  cases now with
  | none =>
    cases call with
    | free => exact absurd trivial h
    | isFreed => exact absurd trivial h
    | positionOf pattern start => exact told (Lob.positionOf_refused fun _ => ⟨_, rfl⟩) .found
    | _ => exact ⟨_, rfl⟩
  | some units =>
    cases call with
    -- Each of these fails at the place that makes it not allowed.
    | read pos count => exact told (Lob.read_refused h count) .units
    | streamAt pos count => exact told ((Lob.read_refused h count).bind _) .bytes
    | position pattern start => exact told (Lob.position_refused h pattern) .found
    | positionOf pattern start =>
      refine told (Lob.positionOf_refused fun hfreed => ?_) .found
      exact Lob.position_refused (fun hstart => h ⟨hfreed, hstart⟩) pattern.units
    | write pos value =>
      obtain ⟨text, hwrite⟩ := Lob.write_refused h value
      refine ⟨text, ?_⟩
      simp only [perform, Lob.holding, hwrite]
    | truncate count =>
      obtain ⟨text, htruncate⟩ := Lob.truncate_refused h
      refine ⟨text, ?_⟩
      simp only [perform, Lob.holding, htruncate]
    | _ => exact absurd trivial h

end LobCall

/-! ## Runs of calls -/

/-- What some calls tell, and the large object they leave. -/
def Lob.run [BEq α] [LobUnit α] (l : Lob α) :
    List (LobCall α) → List (Except Error (LobReply α)) × Lob α
  | [] => ([], l)
  | call :: calls =>
    let (answer, next) := call.perform l
    let (answers, last) := next.run calls
    (answer :: answers, last)

/-- Some calls, what they tell, and how a content goes through them, if there is one. -/
inductive Follows (encode : List α → List UInt8) :
    Option (List α) → List (LobCall α) → List (Except Error (LobReply α)) → Option (List α) → Prop
  | nil (now : Option (List α)) : Follows encode now [] [] now
  | allowed {now after last : Option (List α)} {call : LobCall α} {calls : List (LobCall α)}
      {a : LobReply α} {answers : List (Except Error (LobReply α))} :
      call.IsAllowed now → call.Answers encode now a after →
      Follows encode after calls answers last →
      Follows encode now (call :: calls) (.ok a :: answers) last
  /-- A call that is not allowed changes nothing. -/
  | refused {now last : Option (List α)} {call : LobCall α} {calls : List (LobCall α)}
      {answers : List (Except Error (LobReply α))} (text : String) :
      ¬call.IsAllowed now → Follows encode now calls answers last →
      Follows encode now (call :: calls) (.error (.invalidArgument text) :: answers) last

section Runs

variable [BEq α] [LobUnit α]

/-- A run of calls goes through the contents that the calls leave. -/
theorem follows_run [LawfulLobUnit α] (now : Option (List α)) (calls : List (LobCall α)) :
    ∃ last, Follows LobUnit.encode now calls ((Lob.holding now).run calls).1 last ∧
      ((Lob.holding now).run calls).2 = .holding last := by
  -- The content that one call leaves is the one that the rest of the run starts with.
  induction calls generalizing now with
  | nil => exact ⟨now, .nil now, rfl⟩
  | cons call calls ih =>
    by_cases h : call.IsAllowed now
    · obtain ⟨a, after, hanswers, hperform⟩ := LobCall.perform_of_isAllowed h
      obtain ⟨last, hfollows, hlast⟩ := ih after
      simp only [Lob.run, hperform]
      exact ⟨last, .allowed h hanswers hfollows, hlast⟩
    · obtain ⟨text, hperform⟩ := LobCall.perform_of_not_isAllowed h
      obtain ⟨last, hfollows, hlast⟩ := ih now
      simp only [Lob.run, hperform]
      exact ⟨last, .refused text h hfollows, hlast⟩

end Runs

/-! ## After freeing -/

/-- Without a content, no call leaves one. -/
theorem LobCall.Answers.eq_none {encode : List α → List UInt8} {call : LobCall α} {a : LobReply α}
    {after : Option (List α)} (h : call.Answers encode none a after) : after = none := by
  cases call with
  | free => exact h.2
  | isFreed => exact h.2
  | _ => exact h.elim

/-- No call that looks at a content is allowed without one. -/
theorem LobCall.IsContentCall.not_isAllowed {call : LobCall α} (h : call.IsContentCall) :
    ¬call.IsAllowed none := by
  cases call with
  | free => exact h.elim
  | isFreed => exact h.elim
  | _ => exact id

namespace Follows

variable {encode : List α → List UInt8} {now last : Option (List α)} {calls : List (LobCall α)}
  {answers : List (Except Error (LobReply α))}

/-- What is freed stays freed. -/
theorem of_none (h : Follows encode now calls answers last) (hnow : now = none) : last = none := by
  -- Of the calls that are allowed, neither brings a content back.
  induction h with
  | nil => exact hnow
  | allowed _ hanswers _ ih =>
    apply ih
    subst hnow
    exact hanswers.eq_none
  | refused _ _ _ ih => exact ih hnow

/-- A run that frees the large object leaves no content. -/
theorem eq_none_of_free (h : Follows encode now calls answers last) (hfree : .free ∈ calls) :
    last = none := by
  induction h with
  | nil => cases hfree
  | @allowed now after _ call _ _ _ _ hanswers hrest ih =>
    rcases List.mem_cons.1 hfree with rfl | hfree
    · -- The call that frees leaves no content for the rest of the run.
      apply hrest.of_none
      cases now <;> exact hanswers.2
    · exact ih hfree
  | @refused now _ _ _ _ _ hcall _ ih =>
    rcases List.mem_cons.1 hfree with rfl | hfree
    · -- To free is always allowed.
      exact absurd (by cases now <;> trivial) hcall
    · exact ih hfree

end Follows

/-! ## Characters and bytes -/

/-- Every run of calls on a new large object is one on the list of its units. Once it was freed, the
units are gone, and it can neither be read or changed nor searched for. -/
def RefinesUnits (α : Type) [BEq α] [LobUnit α] (encode : List α → List UInt8) : Prop :=
  ∀ (units : List α) (calls : List (LobCall α)),
    let answers := ((Lob.ofList units).run calls).1
    let now := ((Lob.ofList units).run calls).2
    ∃ last, Follows encode (some units) calls answers last ∧ now = .holding last ∧
      (.free ∈ calls → last = none ∧
        (∀ call : LobCall α, call.IsContentCall →
          ∃ text, call.perform now = (.error (.invalidArgument text), now)) ∧
        ∀ (other : Lob α) (start : Nat), Refused (other.positionOf now start))

/-- Large objects refine lists of their units, however they cut and overwrite these. -/
theorem refinesUnits [BEq α] [LobUnit α] [LawfulLobUnit α] : RefinesUnits α LobUnit.encode := by
  intro units calls
  obtain ⟨last, hfollows, hlast⟩ := follows_run (some units) calls
  refine ⟨last, hfollows, hlast, fun hfree => ?_⟩
  obtain rfl : last = none := hfollows.eq_none_of_free hfree
  rw [show ((Lob.ofList units).run calls).2 = .holding none from hlast]
  -- What was freed is in the state of a large object without a content.
  refine ⟨rfl, fun call hcall => ?_, fun other start => ?_⟩
  · exact LobCall.perform_of_not_isAllowed hcall.not_isAllowed
  · exact Lob.positionOf_refused nofun

/-- Characters are streamed as the bytes of their text. -/
theorem encode_characters (s : List Char) :
    LobUnit.encode s = (String.ofList s).toUTF8.data.toList := by
  simp [LobUnit.encode, String.toUTF8, List.utf8Encode]

/-- A character large object is a list of characters, which is streamed in UTF-8, and a binary one
is a list of bytes. -/
theorem run_content :
    RefinesUnits Char (fun s => (String.ofList s).toUTF8.data.toList) ∧
      RefinesUnits UInt8 (fun bytes => bytes) := by
  constructor
  · rw [← funext encode_characters]
    exact refinesUnits
  · exact refinesUnits

end SqlAccess
