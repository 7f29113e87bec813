/-!
# Cutting a text at a separator

Cutting at the first or the last separator keeps both sides and drops the separator (`cutFirst`)
or keeps it at the head of the second side (`cutBeforeLast`).
-/

namespace SqlAccess.Text

/-- The parts before and after the first `sep`; none if there is no `sep`. -/
def cutFirst (sep : Char) : List Char → Option (List Char × List Char)
  | [] => none
  | c :: rest =>
    if c = sep then some ([], rest)
    else (cutFirst sep rest).map fun (before, after) => (c :: before, after)

/-- The part before the last character that satisfies `p`, and the rest that starts with it. -/
def cutBeforeLast (p : Char → Bool) : List Char → Option (List Char × List Char)
  | [] => none
  | c :: rest =>
    match cutBeforeLast p rest with
    | some (before, after) => some (c :: before, after)
    | none => if p c then some ([], c :: rest) else none

/-- What follows `lead`, if the text starts with it. -/
def afterLead : (lead text : List Char) → Option (List Char)
  | [], text => some text
  | _ :: _, [] => none
  | c :: lead, d :: text => if c = d then afterLead lead text else none

theorem cutFirst_eq_some {sep : Char} {s before after : List Char}
    (h : cutFirst sep s = some (before, after)) : s = before ++ sep :: after := by
  induction s generalizing before after with
  | nil => simp [cutFirst] at h
  | cons c rest ih =>
    unfold cutFirst at h
    split at h
    · next hc => cases h; simp [hc]
    · simp only [Option.map_eq_some_iff, Prod.exists] at h
      obtain ⟨b, a, hcut, heq⟩ := h
      cases heq
      simp [ih hcut]

theorem cutFirst_eq_none {sep : Char} {s : List Char} (h : sep ∉ s) : cutFirst sep s = none := by
  cases hcut : cutFirst sep s with
  | none => rfl
  | some parts =>
    rw [cutFirst_eq_some hcut] at h
    simp at h

theorem cutFirst_append {sep : Char} {before : List Char} (h : sep ∉ before) (after : List Char) :
    cutFirst sep (before ++ sep :: after) = some (before, after) := by
  induction before with
  | nil => simp [cutFirst]
  | cons c rest ih =>
    have hc : c ≠ sep := fun e => h (by simp [e])
    have hrest : sep ∉ rest := fun m => h (by simp [m])
    simp [cutFirst, hc, ih hrest]

theorem cutBeforeLast_eq_none {p : Char → Bool} {s : List Char} (h : cutBeforeLast p s = none) :
    ∀ c ∈ s, p c = false := by
  induction s with
  | nil => simp
  | cons c rest ih =>
    unfold cutBeforeLast at h
    split at h
    · cases h
    · next hrest =>
      rw [List.forall_mem_cons]
      exact ⟨by simpa using h, ih hrest⟩

/-- Behind the first of its characters, the rest has none that satisfies the condition. -/
theorem cutBeforeLast_eq_some {p : Char → Bool} {s before after : List Char}
    (h : cutBeforeLast p s = some (before, after)) :
    ∃ c rest, after = c :: rest ∧ ∀ d ∈ rest, p d = false := by
  induction s generalizing before with
  | nil => cases h
  | cons c rest ih =>
    unfold cutBeforeLast at h
    split at h
    · next hrest =>
      cases h
      exact ih hrest
    · next hrest =>
      split at h
      · cases h
        exact ⟨c, rest, rfl, cutBeforeLast_eq_none hrest⟩
      · cases h

theorem cutBeforeLast_append {p : Char → Bool} {c : Char} {rest : List Char} (hc : p c = true)
    (hrest : ∀ d ∈ rest, p d = false) (before : List Char) :
    cutBeforeLast p (before ++ c :: rest) = some (before, c :: rest) := by
  have hnone : cutBeforeLast p rest = none := by
    induction rest with
    | nil => rfl
    | cons d rest ih =>
      rw [List.forall_mem_cons] at hrest
      simp [cutBeforeLast, ih hrest.2, hrest.1]
  induction before with
  | nil => simp [cutBeforeLast, hnone, hc]
  | cons d before ih => simp [cutBeforeLast, ih]

theorem afterLead_append (lead rest : List Char) : afterLead lead (lead ++ rest) = some rest := by
  induction lead with
  | nil => rfl
  | cons c lead ih => simpa [afterLead] using ih

end SqlAccess.Text
