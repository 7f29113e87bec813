import Mathlib.Data.List.TakeWhile
import SqlAccess.Text.Blank

/-!
# Laws of trimming

A text is tight if it neither starts nor ends in a blank. Trimming leaves tight texts alone
(`Tight.trim_eq_self`), and what it leaves nothing of is blank throughout (`trim_eq_nil_iff`). On
either side it stops at the first character that is not blank (`trimStart_append_cons`,
`trimEnd_append_cons`).
-/

namespace SqlAccess.Text

/-- A text that does not end in a blank. -/
def EndsTight (s : List Char) : Prop :=
  ∀ c ∈ s.getLast?, isBlank c = false

/-- A text that neither starts nor ends in a blank. -/
structure Tight (s : List Char) : Prop where
  start : ∀ c ∈ s.head?, isBlank c = false
  stop : EndsTight s

/-- A start that is not blank is left. -/
theorem trimStart_eq_self {s : List Char} (h : ∀ c ∈ s.head?, isBlank c = false) :
    trimStart s = s := by
  cases s with
  | nil => rfl
  | cons c rest => exact List.dropWhile_cons_of_neg (by simp [h c rfl])

/-- An end that is not blank is left. Seen from the end it is a start. -/
theorem EndsTight.trimEnd_eq_self {s : List Char} (h : EndsTight s) : trimEnd s = s := by
  have hreverse : s.reverse.dropWhile isBlank = s.reverse :=
    trimStart_eq_self (by simpa [EndsTight] using h)
  rw [trimEnd, hreverse, List.reverse_reverse]

theorem Tight.trim_eq_self {s : List Char} (h : Tight s) : trim s = s := by
  rw [trim, trimStart_eq_self h.start, h.stop.trimEnd_eq_self]

theorem tight_of_forall {s : List Char} (h : ∀ c ∈ s, isBlank c = false) : Tight s where
  start c hc := h c (List.mem_of_head? hc)
  stop c hc := h c (List.mem_of_getLast? hc)

/-- Of a fixed text, this is found by looking at each character. -/
theorem tight_of_all {s : List Char} (h : s.all (fun c => !isBlank c) = true) : Tight s := by
  apply tight_of_forall
  simpa using h

/-- The end of a text is the end of its last part, if that is not empty. -/
theorem EndsTight.append {a b : List Char} (hb : EndsTight b) (ha : b = [] → EndsTight a) :
    EndsTight (a ++ b) := by
  intro c hc
  rw [List.getLast?_append] at hc
  -- The last part decides, if it has a last character.
  cases hlast : b.getLast? with
  | none =>
    rw [hlast, Option.none_or] at hc
    exact ha (List.getLast?_eq_none_iff.1 hlast) c hc
  | some d =>
    rw [hlast, Option.some_or] at hc
    exact hb c (hlast.trans hc)

theorem EndsTight.of_append {a b : List Char} (h : EndsTight (a ++ b)) : EndsTight b := by
  intro c hc
  refine h c ?_
  rw [List.getLast?_append, Option.mem_def.1 hc, Option.some_or]
  rfl

theorem EndsTight.cons {c : Char} {s : List Char} (h : EndsTight s) (hc : isBlank c = false) :
    EndsTight (c :: s) := by
  apply EndsTight.append (a := [c]) h
  rintro - _ ⟨⟩
  exact hc

/-- Blanks are all that is cut off in front. -/
theorem exists_blanks_trimStart (s : List Char) :
    ∃ blanks, (∀ c ∈ blanks, isBlank c = true) ∧ s = blanks ++ trimStart s :=
  ⟨s.takeWhile isBlank, fun _ hc => List.mem_takeWhile_imp hc, List.takeWhile_append_dropWhile.symm⟩

theorem head?_trimStart (s : List Char) : ∀ c ∈ (trimStart s).head?, isBlank c = false := by
  intro c hc
  have hfirst := List.head?_dropWhile_not isBlank s
  rw [trimStart, Option.mem_def] at hc
  rwa [hc] at hfirst

theorem endsTight_trim (s : List Char) : EndsTight (trim s) := by
  intro c hc
  rw [trim, trimEnd, List.getLast?_reverse] at hc
  exact head?_trimStart _ c hc

/-- Nothing is left of a text exactly if it is blank throughout. -/
theorem trim_eq_nil_iff {s : List Char} : trim s = [] ↔ ∀ c ∈ s, isBlank c = true := by
  have hstart : trimStart s = [] ↔ ∀ c ∈ s, isBlank c = true := List.dropWhile_eq_nil_iff
  rw [trim, trimEnd, List.reverse_eq_nil_iff, List.dropWhile_eq_nil_iff]
  constructor
  · intro h
    -- The first character that is not cut off would be one that is not blank.
    refine hstart.1 ?_
    cases hrest : trimStart s with
    | nil => rfl
    | cons c rest =>
      have hblank : isBlank c = true := h c (by simp [hrest])
      have hfirst := head?_trimStart s c (by simp [hrest])
      simp [hblank] at hfirst
  · intro h
    simp [hstart.2 h]

/-- Blanks before a text are cut off with those that it starts with. -/
theorem trimStart_append {blanks : List Char} (h : ∀ c ∈ blanks, isBlank c = true) (s : List Char) :
    trimStart (blanks ++ s) = trimStart s :=
  List.dropWhile_append_of_pos h

/-- Trimming the start stops at a character that is not blank. -/
theorem trimStart_append_cons {c : Char} (hc : isBlank c = false) (s t : List Char) :
    trimStart (s ++ c :: t) = trimStart s ++ c :: t := by
  rw [trimStart, trimStart, List.dropWhile_append]
  split
  · -- The part before the character is blank, and the character itself is kept.
    next hempty => simp [List.isEmpty_iff.1 hempty, hc]
  · rfl

/-- Trimming the end stops at a character that is not blank. -/
theorem trimEnd_append_cons {c : Char} (hc : isBlank c = false) (s t : List Char) :
    trimEnd (s ++ c :: t) = s ++ c :: trimEnd t := by
  have hstart := trimStart_append_cons hc t.reverse s.reverse
  simp only [trimStart] at hstart
  simp [trimEnd, hstart]

/-- Trimming takes away blanks only. -/
theorem mem_trim {c : Char} {s : List Char} (hc : isBlank c = false) (h : c ∈ s) : c ∈ trim s := by
  obtain ⟨before, after, rfl⟩ := List.append_of_mem h
  rw [trim, trimStart_append_cons hc, trimEnd_append_cons hc]
  simp

end SqlAccess.Text
