import SqlAccess.Proofs.Statement.Naming

/-!
# Setting parameters

A setter of a prepared statement takes an ordinal, one of a callable statement an ordinal or a name.
Either way it stands for one parameter (`ParameterBuffer.Addresses`) or for none
(`ParameterBuffer.Misses`), and what is found is just that (`resolve_eq_ok_iff`,
`resolve_eq_error_iff`).

A setter fails exactly if something hinders it (`Hindrance`), and then the statement and its
connection are as they were. Else the parameter takes a value (`Takes`), and its slot is all that
changes (`Setter.perform_atomic`).
-/

namespace SqlAccess

/-! ## The parameter that is meant -/

namespace ParameterBuffer

/-- The parameter with this index, counted from 0, is the one that is meant. -/
inductive Addresses (b : ParameterBuffer) : ParameterRef → Nat → Prop
  | ordinal {i : Nat} (h : i < b.count) : Addresses b (.ordinal (i + 1)) i
  | name {name : String} {i : Nat} (h : Parameter.Means b.parameters name (i + 1)) :
      Addresses b (.name name) i

/-- No parameter is meant, and the error tells so. -/
inductive Misses (b : ParameterBuffer) : ParameterRef → Error → Prop
  | ordinal {n : Nat} (h : n = 0 ∨ b.count < n) :
      Misses b (.ordinal n) (.invalidParameterIndex n b.count)
  | emptyName : Misses b (.name "") (.nullArgument "parameter name")
  | name {name : String} (hname : name ≠ "") (h : ∀ n, ¬Parameter.Means b.parameters name n) :
      Misses b (.name name) (.parameterNotFound name)

variable {b : ParameterBuffer} {ref : ParameterRef} {i : Nat} {slot : Slot} {e : Error}

/-- An ordinal or a name stands for a parameter, or for none. -/
theorem addresses_or_misses (b : ParameterBuffer) (ref : ParameterRef) :
    (∃ i, b.Addresses ref i) ∨ ∃ e, b.Misses ref e := by
  cases ref with
  | ordinal n =>
    by_cases h : n = 0 ∨ b.count < n
    · exact .inr ⟨_, .ordinal h⟩
    · obtain ⟨i, rfl⟩ : ∃ i, n = i + 1 := ⟨n - 1, by omega⟩
      exact .inl ⟨i, .ordinal (by omega)⟩
  | name name =>
    by_cases h : ∃ i, Parameter.Means b.parameters name (i + 1)
    · obtain ⟨i, hi⟩ := h
      exact .inl ⟨i, .name hi⟩
    · by_cases hname : name = ""
      · subst hname
        exact .inr ⟨_, .emptyName⟩
      · refine .inr ⟨_, .name hname fun n hn => ?_⟩
        -- Every ordinal that is meant follows an index.
        obtain ⟨i, rfl⟩ : ∃ i, n = i + 1 := by cases hn <;> exact ⟨_, rfl⟩
        exact h ⟨i, hn⟩

/-- A parameter that is meant is found, with its slot. -/
theorem resolve_of_addresses (h : b.Addresses ref i) :
    ∃ slot, b.slots[i]? = some slot ∧ b.resolve ref = .ok (i, slot) := by
  cases h with
  | ordinal hi =>
    have hslot := List.getElem?_eq_getElem hi
    exact ⟨_, hslot, slotAt_succ hslot⟩
  | name hmeans =>
    -- A name that is found is that of a parameter with a slot.
    have hi := Parameter.lt_of_find? (Parameter.find?_eq_some_iff.2 hmeans)
    rw [parameters, List.length_map] at hi
    have hslot := List.getElem?_eq_getElem hi
    exact ⟨_, hslot, (resolve_of_means hmeans).trans (slotAt_succ hslot)⟩

/-- Where none is meant, the error tells so. -/
theorem resolve_of_misses (h : b.Misses ref e) : b.resolve ref = .error e := by
  cases h with
  | @ordinal n hn =>
    have hslot : n ≠ 0 → b.slots[n - 1]? = none := by
      intro hpos
      rw [List.getElem?_eq_none_iff]
      rw [count] at hn
      omega
    simp only [resolve, slotAt]
    split
    · rfl
    · next hpos => rw [hslot hpos]
  | emptyName => rfl
  | name hname hnone =>
    rw [resolve_of_meaningless hnone, if_neg hname]

/-- What is found is the parameter that is meant. -/
theorem resolve_eq_ok_iff :
    b.resolve ref = .ok (i, slot) ↔ b.Addresses ref i ∧ b.slots[i]? = some slot := by
  constructor
  · intro h
    obtain ⟨j, hj⟩ | ⟨e, he⟩ := b.addresses_or_misses ref
    · obtain ⟨found, -, hresolve⟩ := resolve_of_addresses hj
      cases h.symm.trans hresolve
      exact ⟨hj, getElem?_of_resolve h⟩
    · cases h.symm.trans (resolve_of_misses he)
  · rintro ⟨haddresses, hslot⟩
    obtain ⟨found, hfound, hresolve⟩ := resolve_of_addresses haddresses
    cases hslot.symm.trans hfound
    exact hresolve

/-- The error is the one of a parameter that there is not. -/
theorem resolve_eq_error_iff : b.resolve ref = .error e ↔ b.Misses ref e := by
  constructor
  · intro h
    obtain ⟨i, hi⟩ | ⟨e', he⟩ := b.addresses_or_misses ref
    · obtain ⟨slot, -, hresolve⟩ := resolve_of_addresses hi
      cases h.symm.trans hresolve
    · cases h.symm.trans (resolve_of_misses he)
      exact he
  · exact resolve_of_misses

/-- At most one parameter is meant. -/
theorem Addresses.unique {j : Nat} (hi : b.Addresses ref i) (hj : b.Addresses ref j) : i = j := by
  obtain ⟨slot, -, hresolve⟩ := resolve_of_addresses hi
  obtain ⟨slot', -, hresolve'⟩ := resolve_of_addresses hj
  cases hresolve.symm.trans hresolve'
  rfl

theorem Addresses.not_misses (h : b.Addresses ref i) : ¬b.Misses ref e := by
  intro hmisses
  obtain ⟨slot, -, hresolve⟩ := resolve_of_addresses h
  cases hresolve.symm.trans (resolve_of_misses hmisses)

/-- The ordinal of a parameter that is meant stands for the same parameter. -/
theorem Addresses.ordinal_of (h : b.Addresses ref i) : b.Addresses (.ordinal (i + 1)) i := by
  obtain ⟨slot, hslot, -⟩ := resolve_of_addresses h
  exact .ordinal (List.getElem?_eq_some_iff.1 hslot).1

/-- Writing to a slot replaces it and no other. -/
theorem slots_bind (h : b.slots[i]? = some slot) (v : Value) :
    (b.bind i v).slots = b.slots.set i { slot with value := v, bound := true } := by
  rw [bind, List.modify_eq_set, h]
  rfl

end ParameterBuffer

/-! ## Setters -/

/-- A setter, of a prepared or of a callable statement. -/
inductive Setter
  | ofPrepared (n : Nat)
  | ofCallable (ref : ParameterRef)

namespace Setter

/-- What a setter takes for the parameter to be set. -/
def ref : Setter → ParameterRef
  | ofPrepared n => .ordinal n
  | ofCallable ref => ref

/-- The command that sets the parameter to an argument. -/
def command (a : Argument) : Setter → CallableCommand
  | ofPrepared n => .plain (.setParameter n a)
  | ofCallable ref => .setParameter ref a

theorem role_command (u : Setter) (a : Argument) : (u.command a).role = .set u.ref a := by
  cases u <;> rfl

end Setter

/-- What hinders a parameter from being set, and the error that tells it. -/
inductive Hindrance (s : PreparedStatement) (ref : ParameterRef) (a : Argument) : Error → Prop
  | closed (h : s.parameters.closed = true) : Hindrance s ref a .statementClosed
  | missed {e : Error} (h : s.parameters.Misses ref e) : Hindrance s ref a e
  | output {i : Nat} {slot : Slot} (haddresses : s.parameters.Addresses ref i)
      (hslot : s.parameters.slots[i]? = some slot) (hmode : slot.parameter.mode = .output) :
      Hindrance s ref a
        (.invalidArgument s!"parameter {i + 1} is an OUT parameter and cannot be set")
  /-- The argument is of an unsupported kind, or stands for no value. -/
  | argument {e : Error} (h : a.given s.zone = .error e) : Hindrance s ref a e
  /-- The declared type does not take the value. -/
  | coercion {i : Nat} {slot : Slot} {given : Value} {e : Error}
      (haddresses : s.parameters.Addresses ref i) (hslot : s.parameters.slots[i]? = some slot)
      (hgiven : a.given s.zone = .ok given)
      (h : coerceForParameter given slot.parameter.type s.zone = .error e) : Hindrance s ref a e

/-- The parameter that is meant, its slot, and the value that it takes. -/
structure Takes (s : PreparedStatement) (ref : ParameterRef) (a : Argument) (i : Nat) (slot : Slot)
    (v : Value) : Prop where
  isOpen : s.parameters.closed = false
  addresses : s.parameters.Addresses ref i
  slot_eq : s.parameters.slots[i]? = some slot
  mode_ne : slot.parameter.mode ≠ .output
  coerced : ∃ given, a.given s.zone = .ok given ∧
    coerceForParameter given slot.parameter.type s.zone = .ok v

variable {s : PreparedStatement} {c : Connection} {ref : ParameterRef} {a : Argument} {i : Nat}
  {slot : Slot} {v : Value} {e : Error}

/-- What takes a value is not hindered. -/
theorem Takes.not_hindrance (h : Takes s ref a i slot v) : ¬Hindrance s ref a e := by
  obtain ⟨hopen, haddresses, hslot, hmode, given, hgiven, hv⟩ := h
  intro hindrance
  -- Each hindrance says the contrary of one of the conditions.
  cases hindrance with
  | closed hclosed => rw [hopen] at hclosed; cases hclosed
  | missed hmisses => exact haddresses.not_misses hmisses
  | output haddresses' hslot' hmode' =>
    cases haddresses.unique haddresses'
    cases hslot.symm.trans hslot'
    exact hmode hmode'
  | argument hgiven' => cases hgiven.symm.trans hgiven'
  | coercion haddresses' hslot' hgiven' hv' =>
    cases haddresses.unique haddresses'
    cases hslot.symm.trans hslot'
    cases hgiven.symm.trans hgiven'
    cases hv.symm.trans hv'

/-! ## Failures -/

/-- A statement that is not open hinders every setter. -/
theorem hindrance_of_requireOpen (h : s.requireOpen = .error e) : Hindrance s ref a e := by
  unfold PreparedStatement.requireOpen ParameterBuffer.requireOpen at h
  split at h
  · next hclosed =>
    cases h
    exact .closed hclosed
  · cases h

/-- Binding checks the statement, the ordinal and the mode before it coerces the value. -/
theorem hindrance_of_bind {n : Nat} (hgiven : a.given s.zone = .ok v)
    (h : s.bind n v = .error e) : Hindrance s (.ordinal n) a e := by
  rcases bind_eq_error_iff.1 h with hopen | ⟨⟨⟩, -, h⟩
  · exact hindrance_of_requireOpen hopen
  rcases bind_eq_error_iff.1 h with hmisses | ⟨⟨i, slot⟩, hfound, h⟩
  · exact .missed (ParameterBuffer.resolve_eq_error_iff.1 hmisses)
  -- The slot is the one at the ordinal, so that its parameter is the one that is meant.
  obtain ⟨rfl, -⟩ := (ParameterBuffer.getElem?_of_slotAt hfound).symm
  have hresolve : s.parameters.resolve (.ordinal (i + 1)) = .ok (i, slot) := hfound
  obtain ⟨haddresses, hslot⟩ := ParameterBuffer.resolve_eq_ok_iff.1 hresolve
  dsimp only at h
  split at h
  · next hmode =>
    cases h
    exact .output haddresses hslot hmode
  · rcases bind_eq_error_iff.1 h with hcoercion | ⟨w, -, h⟩
    · exact .coercion haddresses hslot hgiven hcoercion
    · cases h

/-- A setter by ordinal fails for one of the hindrances. -/
theorem hindrance_of_setParameter {n : Nat} (h : s.setParameter n a = .error e) :
    Hindrance s (.ordinal n) a e := by
  have hbind {x : Except Error Value} (hx : a.given s.zone = x)
      (h : (x >>= fun v => s.bind n v) = .error e) : Hindrance s (.ordinal n) a e := by
    rcases bind_eq_error_iff.1 h with hgiven | ⟨v, hgiven, h⟩
    · exact .argument (hx.trans hgiven)
    · exact hindrance_of_bind (hx.trans hgiven) h
  unfold PreparedStatement.setParameter at h
  -- Whether the statement is checked before the argument is looked at makes no difference here.
  split at h
  · exact hbind rfl h
  · rcases bind_eq_error_iff.1 h with hopen | ⟨⟨⟩, -, h⟩
    · exact hindrance_of_requireOpen hopen
    · exact hbind rfl h

/-- What hinders the parameter from being set by its ordinal hinders it by its name. -/
theorem Hindrance.of_ordinal (haddresses : s.parameters.Addresses ref i)
    (h : Hindrance s (.ordinal (i + 1)) a e) : Hindrance s ref a e := by
  have hordinal := haddresses.ordinal_of
  cases h with
  | closed h => exact .closed h
  | missed h => exact absurd h hordinal.not_misses
  | output haddresses' hslot hmode =>
    cases hordinal.unique haddresses'
    exact .output haddresses hslot hmode
  | argument h => exact .argument h
  | coercion haddresses' hslot hgiven h =>
    cases hordinal.unique haddresses'
    exact .coercion haddresses hslot hgiven h

/-- A setter by ordinal or name fails for one of the hindrances. -/
theorem CallableStatement.hindrance_of_setParameter
    (h : CallableStatement.setParameter s ref a = .error e) : Hindrance s ref a e := by
  rcases bind_eq_error_iff.1 h with hordinal | ⟨n, hordinal, h⟩
  · rcases bind_eq_error_iff.1 hordinal with hopen | ⟨⟨⟩, -, hordinal⟩
    · exact hindrance_of_requireOpen hopen
    · rcases bind_eq_error_iff.1 hordinal with hmisses | ⟨found, -, hordinal⟩
      · exact .missed (ParameterBuffer.resolve_eq_error_iff.1 hmisses)
      · cases hordinal
  · obtain ⟨⟨⟩, -, hordinal⟩ := bind_eq_ok_iff.1 hordinal
    obtain ⟨⟨i, slot⟩, hfound, hordinal⟩ := bind_eq_ok_iff.1 hordinal
    cases hordinal
    -- Once the name has its ordinal, the rest is a setter by ordinal.
    have haddresses := (ParameterBuffer.resolve_eq_ok_iff.1 hfound).1
    exact .of_ordinal haddresses (SqlAccess.hindrance_of_setParameter h)

/-! ## Setters as a whole -/

/-- A change that fails leaves the statement and the connection as they were. -/
theorem change_eq_error_iff {f : PreparedStatement → Except Error PreparedStatement}
    {x : PreparedStatement × Connection} :
    StatementAction.change f (s, c) = .error e x ↔ f s = .error e ∧ x = (s, c) := by
  unfold StatementAction.change
  cases hf : f s with
  | error e' => simp [hf, eq_comm]
  | ok s' => simp [hf]

namespace Setter

variable {u : Setter} {x : PreparedStatement × Connection} {outcome : Outcome}

/-- A setter that fails is hindered and changes nothing. -/
theorem error_of_perform (h : (u.command a).perform (s, c) = .error e x) :
    x = (s, c) ∧ Hindrance s u.ref a e := by
  cases u with
  | ofPrepared n =>
    dsimp only [command, CallableCommand.perform, StatementCommand.perform] at h
    obtain ⟨he, hx⟩ := change_eq_error_iff.1 h
    exact ⟨hx, hindrance_of_setParameter he⟩
  | ofCallable ref =>
    dsimp only [command, CallableCommand.perform] at h
    obtain ⟨he, hx⟩ := change_eq_error_iff.1 h
    exact ⟨hx, CallableStatement.hindrance_of_setParameter he⟩

/-- A setter that succeeds writes what the parameter takes. -/
theorem ok_of_perform (h : (u.command a).perform (s, c) = .ok outcome x) :
    ∃ i slot v, Takes s u.ref a i slot v ∧
      x = ({ s with parameters := s.parameters.bind i v }, c) := by
  have heffect := perform_effect (u.command a) s c
  rw [role_command, h] at heffect
  cases heffect with
  | set hopen hresolve hmode hgiven hv =>
    obtain ⟨haddresses, hslot⟩ := ParameterBuffer.resolve_eq_ok_iff.1 hresolve
    exact ⟨_, _, _, ⟨hopen, haddresses, hslot, hmode, _, hgiven, hv⟩, rfl⟩

/-- A setter that fails is hindered, and it leaves the statement and the connection as they were.
One that succeeds replaces the value of the parameter that is meant by what it takes, marks it as
set, and changes nothing else. Whatever hinders it makes it fail. -/
theorem perform_atomic (u : Setter) (a : Argument) (s : PreparedStatement) (c : Connection) :
    (∀ e x, (u.command a).perform (s, c) = .error e x → x = (s, c) ∧ Hindrance s u.ref a e) ∧
    (∀ outcome x, (u.command a).perform (s, c) = .ok outcome x →
      ∃ i slot v, Takes s u.ref a i slot v ∧
        x = ({ s with parameters := { s.parameters with
                slots := s.parameters.slots.set i { slot with value := v, bound := true } } }, c)) ∧
    ((∃ e, Hindrance s u.ref a e) → ∃ e, (u.command a).perform (s, c) = .error e (s, c)) := by
  refine ⟨fun e x => error_of_perform, ?_, ?_⟩
  · intro outcome x h
    obtain ⟨i, slot, v, htakes, rfl⟩ := ok_of_perform h
    refine ⟨i, slot, v, htakes, ?_⟩
    rw [← ParameterBuffer.slots_bind htakes.slot_eq v]
    rfl
  · rintro ⟨e, hindrance⟩
    -- A setter that succeeded would not have been hindered.
    cases h : (u.command a).perform (s, c) with
    | error e' x =>
      obtain ⟨rfl, -⟩ := error_of_perform h
      exact ⟨e', rfl⟩
    | ok outcome x =>
      obtain ⟨i, slot, v, htakes, -⟩ := ok_of_perform h
      exact absurd hindrance htakes.not_hindrance

/-- A parameter set by its name in another case, to a text that is a number and to one that is
none. -/
theorem perform_atomic_named :
    let d : Description :=
      ⟨7, .call, [.described "A" .integer .input, .described "B" .integer .inOut], []⟩
    let s := PreparedStatement.ofDescription (.ofSql "CALL P(?, ?)") d default
    let c := Connection.ofConfig default ⟨fun _ _ => .error (.protocol "not expected")⟩
    let u : Setter := .ofCallable (.name "b")
    (∃ outcome x, (u.command (.value (.string "42"))).perform (s, c) = .ok outcome x ∧
      x.1.parameters.slots =
        [.blank (.described "A" .integer .input),
          ⟨.described "B" .integer .inOut, .integer 42, true⟩] ∧
      ∃ i slot v, Takes s (.name "b") (.value (.string "42")) i slot v ∧
        x = ({ s with parameters := { s.parameters with
                slots := s.parameters.slots.set i { slot with value := v, bound := true } } },
          c)) ∧
    ∃ x, (u.command (.value (.string "x"))).perform (s, c) =
        .error (.dataConversion .varChar "INTEGER" "x") x ∧
      x = (s, c) ∧
      Hindrance s (.name "b") (.value (.string "x")) (.dataConversion .varChar "INTEGER" "x") := by
  intro d s c u
  obtain ⟨-, hsets, -⟩ := perform_atomic u (.value (.string "42")) s c
  obtain ⟨hfails, -, -⟩ := perform_atomic u (.value (.string "x")) s c
  exact ⟨⟨_, _, rfl, rfl, hsets _ _ rfl⟩, _, rfl, hfails _ _ rfl⟩

end Setter

end SqlAccess
