import SqlAccess.Connection

/-!
# Laws of actions

An action leaves a state whether it fails or not (`finalState`). Two actions in a row do what the
first one does, and then what the second one does unless the first one fails (`bind_of_ok`,
`bind_of_error`, `action_bind_eq_ok_iff`); a step without a state succeeds exactly if its parts do
(`bind_eq_ok_iff`, `bind_eq_error_iff`, `map_eq_ok_iff`, `toOption_bind`). A call to the engine is logged whatever is
answered (`Connection.ask_of_ok`, `Connection.ask_of_error`).
-/

namespace SqlAccess

/-- What is left after an action, whether it failed or not. -/
def finalState {ε σ α : Type} : EStateM.Result ε σ α → σ
  | .ok _ x => x
  | .error _ x => x

@[simp]
theorem finalState_ok {ε σ α : Type} (a : α) (x : σ) :
    finalState (.ok a x : EStateM.Result ε σ α) = x := rfl

@[simp]
theorem finalState_error {ε σ α : Type} (e : ε) (x : σ) :
    finalState (.error e x : EStateM.Result ε σ α) = x := rfl

/-- A sequence of two steps succeeds if both do. -/
theorem bind_eq_ok_iff {ε α β : Type} {x : Except ε α} {f : α → Except ε β} {b : β} :
    (x >>= f) = .ok b ↔ ∃ a, x = .ok a ∧ f a = .ok b := by
  cases x with
  | error e => simp [bind, Except.bind]
  | ok a => simp [bind, Except.bind]

/-- A sequence of two steps fails if one of them does. -/
theorem bind_eq_error_iff {ε α β : Type} {x : Except ε α} {f : α → Except ε β} {e : ε} :
    (x >>= f) = .error e ↔ x = .error e ∨ ∃ a, x = .ok a ∧ f a = .error e := by
  cases x with
  | error e => simp [bind, Except.bind]
  | ok a => simp [bind, Except.bind]

/-- A result passed on is one that there was. -/
theorem map_eq_ok_iff {ε α β : Type} {x : Except ε α} {f : α → β} {b : β} :
    f <$> x = .ok b ↔ ∃ a, x = .ok a ∧ f a = b := by
  cases x with
  | error e => simp [Functor.map, Except.map]
  | ok a => simp [Functor.map, Except.map]

/-- What a sequence of two steps gives, if anything, is what the second one gives for the first. -/
theorem toOption_bind {ε α β : Type} (x : Except ε α) (f : α → Except ε β) :
    (x >>= f).toOption = x.toOption.bind fun a => (f a).toOption := by
  cases x <;> rfl

theorem toOption_bind_of_ok {ε α β : Type} {x : Except ε α} {a : α} (h : x = .ok a)
    (f : α → Except ε β) : (x >>= f).toOption = (f a).toOption := by
  rw [h]
  rfl

/-- An action after one that succeeds goes on from where that one stopped. -/
theorem bind_of_ok {ε σ α β : Type} {a : EStateM ε σ α} {f : α → EStateM ε σ β} {x y : σ} {v : α}
    (h : a x = .ok v y) : (a >>= f) x = f v y := by
  simp only [bind, EStateM.bind, h]

/-- No action comes after one that fails. -/
theorem bind_of_error {ε σ α β : Type} {a : EStateM ε σ α} {f : α → EStateM ε σ β} {x y : σ}
    {e : ε} (h : a x = .error e y) : (a >>= f) x = .error e y := by
  simp only [bind, EStateM.bind, h]

/-- Two actions in a row succeed if both do. -/
theorem action_bind_eq_ok_iff {ε σ α β : Type} {a : EStateM ε σ α} {f : α → EStateM ε σ β}
    {x z : σ} {v : β} :
    (a >>= f) x = .ok v z ↔ ∃ u y, a x = .ok u y ∧ f u y = .ok v z := by
  constructor
  · intro hboth
    -- What the first action leaves is the state that the second one starts from.
    cases h : a x with
    | ok u y =>
      rw [bind_of_ok h] at hboth
      exact ⟨u, y, rfl, hboth⟩
    | error e y =>
      rw [bind_of_error h] at hboth
      -- Nothing comes after a failure, so both together cannot have succeeded.
      cases hboth
  · intro ⟨u, y, h, hnext⟩
    rw [bind_of_ok h, hnext]

/-- Telling that an action is done leaves what the action left. -/
theorem finalState_then_return {ε σ α β : Type} (a : EStateM ε σ α) (v : β) (x : σ) :
    finalState ((do let _ ← a; return v) x) = finalState (a x) := by
  cases h : a x with
  | ok _ y => rw [bind_of_ok h]; rfl
  | error e y => rw [bind_of_error h]; rfl

namespace Connection

theorem checkOpen_of_open {c : Connection} (h : c.closed = false) : checkOpen c = .ok () c := by
  simp [checkOpen, requireOpen, h]

/-- A call that is answered is logged. -/
theorem ask_of_ok {c : Connection} {call : Call} {a : call.Answer}
    (h : c.engine.answer c.calls call = .ok a) : ask call c = .ok a (c.log call) := by
  rw [ask, h]

/-- A call that is refused is logged as well. -/
theorem ask_of_error {c : Connection} {call : Call} {e : Error}
    (h : c.engine.answer c.calls call = .error e) : ask call c = .error e (c.log call) := by
  rw [ask, h]

end Connection

end SqlAccess
