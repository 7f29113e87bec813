import SqlAccess.Proofs.Catalog.Literals

/-!
# What conditions on names mean

A clause of a catalog query puts a condition on a column that holds a name: the column is NULL, is
equal to a name, or is like a pattern (`NameCondition`). The condition that a clause is read as is
satisfied by just one name if it compares with this name. A pattern with a wildcard is never
satisfied by just itself (`satisfied_ofPattern_iff`): a wildcard stands for other texts too, and an
escaped one does not stand for the backslash before it.
-/

namespace SqlAccess

/-! ## LIKE -/

/-- A text is like a pattern. A percent sign stands for any text and an underscore for any
character. Behind the escape character, if there is one, they stand for themselves, as this
character does; nothing else is to come behind it. -/
inductive Like (escape : Option Char) : List Char → List Char → Prop
  | nil : Like escape [] []
  | any {p m : List Char} (skipped : List Char) :
      escape ≠ some '%' → Like escape p m → Like escape ('%' :: p) (skipped ++ m)
  | one {p m : List Char} (c : Char) :
      escape ≠ some '_' → Like escape p m → Like escape ('_' :: p) (c :: m)
  | escaped {e c : Char} {p m : List Char} :
      escape = some e → c = '%' ∨ c = '_' ∨ c = e → Like escape p m →
      Like escape (e :: c :: p) (c :: m)
  | same {c : Char} {p m : List Char} :
      c ≠ '%' → c ≠ '_' → escape ≠ some c → Like escape p m → Like escape (c :: p) (c :: m)

namespace Like

/-- A text without wildcards that is like a pattern. -/
def filled (p : List Char) : List Char :=
  p.map fun c => if c = '%' ∨ c = '_' then 'x' else c

/-- A text is like a pattern if each wildcard of it is replaced by an ordinary character. -/
theorem like_filled (p : List Char) : Like none p (filled p) := by
  induction p with
  | nil => exact .nil
  | cons c p ih =>
    by_cases hpercent : c = '%'
    · subst hpercent
      exact .any ['x'] nofun ih
    · by_cases hunderscore : c = '_'
      · subst hunderscore
        exact .one 'x' nofun ih
      · have hcons : filled (c :: p) = c :: filled p := by simp [filled, hpercent, hunderscore]
        rw [hcons]
        exact .same hpercent hunderscore nofun ih

/-- No wildcard is left once each is replaced. -/
theorem not_hasWildcard_filled (p : List Char) : ¬HasWildcard (filled p) := by
  have hfilled (c : Char) : (if c = '%' ∨ c = '_' then 'x' else c) ≠ '%' ∧
      (if c = '%' ∨ c = '_' then 'x' else c) ≠ '_' := by
    split
    · decide
    · next h => exact not_or.1 h
  rintro (hmem | hmem)
  · obtain ⟨c, -, hc⟩ := List.mem_map.1 hmem
    exact (hfilled c).1 hc
  · obtain ⟨c, -, hc⟩ := List.mem_map.1 hmem
    exact (hfilled c).2 hc

/-- If anything is like a pattern, then a text is that is no longer than the pattern, and is shorter
if the pattern holds the escape character. -/
theorem exists_shorter {e : Char} {p m : List Char} (h : Like (some e) p m) :
    ∃ s, Like (some e) p s ∧ s.length ≤ p.length ∧ (e ∈ p → s.length < p.length) := by
  -- Percent signs stand for nothing, and escaped characters are shorter than they are written.
  induction h with
  | nil => exact ⟨[], .nil, Nat.le_refl _, nofun⟩
  | any skipped hne _ ih =>
    obtain ⟨s, hs, hle, -⟩ := ih
    exact ⟨s, .any [] hne hs, Nat.le_succ_of_le hle, fun _ => Nat.lt_succ_of_le hle⟩
  | one c hne _ ih =>
    -- An underscore is not the escape character, so that this is in the rest of the pattern.
    obtain ⟨s, hs, hle, hlt⟩ := ih
    refine ⟨c :: s, .one c hne hs, Nat.succ_le_succ hle, fun hmem => ?_⟩
    have hrest : e ∈ _ := (List.mem_cons.1 hmem).resolve_left fun he => hne (congrArg some he)
    exact Nat.succ_lt_succ (hlt hrest)
  | escaped he hc _ ih =>
    obtain ⟨s, hs, hle, -⟩ := ih
    refine ⟨_ :: s, .escaped he hc hs, ?_, fun _ => ?_⟩
    · exact Nat.succ_le_succ (Nat.le_succ_of_le hle)
    · exact Nat.succ_lt_succ (Nat.lt_succ_of_le hle)
  | same hpercent hunderscore hne _ ih =>
    obtain ⟨s, hs, hle, hlt⟩ := ih
    refine ⟨_ :: s, .same hpercent hunderscore hne hs, Nat.succ_le_succ hle, fun hmem => ?_⟩
    have hrest : e ∈ _ := (List.mem_cons.1 hmem).resolve_left fun he => hne (congrArg some he)
    exact Nat.succ_lt_succ (hlt hrest)

end Like

/-! ## Conditions -/

/-- A condition on a column that holds a name. -/
inductive NameCondition
  | isNull
  | equals (name : List Char)
  | like (pattern : List Char) (escape : Option Char)

namespace NameCondition

/-- A name satisfies a condition. -/
def Satisfied : NameCondition → List Char → Prop
  | isNull, _ => False
  | equals name, m => m = name
  | like pattern escape, m => Like escape pattern m

/-- A condition on a column in SQL, as one of several. -/
def lexemes (column : String) : NameCondition → List Lexeme
  | isNull => code (Clause.condition column "IS" "NULL".toList)
  | equals name => code (Clause.condition column "=" []) ++ [.literal name]
  | like pattern none => code (Clause.condition column "LIKE" []) ++ [.literal pattern]
  | like pattern (some e) =>
    code (Clause.condition column "LIKE" []) ++
      .literal pattern :: (code " ESCAPE ".toList ++ [.literal [e]])

/-- The condition that is put on a column for a name. -/
def ofName (name : List Char) : NameCondition :=
  if name.isEmpty then isNull else equals name

/-- The condition that is put on a column for a pattern. -/
def ofPattern (pattern : List Char) : NameCondition :=
  if hasWildcard pattern then like pattern (if hasEscapedWildcard pattern then some '\\' else none)
  else ofName pattern

theorem lexemes_ofName (column : String) (name : List Char) :
    (ofName name).lexemes column = Clause.nameLexemes column name := by
  unfold ofName Clause.nameLexemes
  split <;> rfl

/-- The condition for a pattern is the one that its clause is read as. -/
theorem lexemes_ofPattern (column : String) (pattern : List Char) :
    (ofPattern pattern).lexemes column = Clause.patternLexemes column pattern := by
  unfold ofPattern Clause.patternLexemes
  split
  · split <;> rfl
  · exact lexemes_ofName column pattern

variable {d : List Char}

/-- The condition for a name is satisfied by just this name. -/
theorem satisfied_ofName (hd : d ≠ []) (m : List Char) : (ofName d).Satisfied m ↔ m = d := by
  rw [ofName, if_neg (by simpa using hd)]
  exact Iff.rfl

/-- The condition for a pattern is satisfied by just this name if there is no wildcard in it. -/
theorem satisfied_ofPattern_iff (hd : d ≠ []) :
    (∀ m, (ofPattern d).Satisfied m ↔ m = d) ↔ ¬HasWildcard d := by
  constructor
  · intro hexact hwildcard
    rw [ofPattern, if_pos (hasWildcard_iff.2 hwildcard)] at hexact
    split at hexact
    · next hescaped =>
      -- The shortest text that is like the pattern is not the pattern.
      have hself : Like (some '\\') d d := (hexact d).2 rfl
      obtain ⟨s, hs, -, hlt⟩ := hself.exists_shorter
      have hbackslash : '\\' ∈ d := by
        rcases hasEscapedWildcard_iff.1 hescaped with h | h
        · exact h.subset List.mem_cons_self
        · exact h.subset List.mem_cons_self
      have hsame : s = d := (hexact s).1 hs
      rw [hsame] at hlt
      exact Nat.lt_irrefl _ (hlt hbackslash)
    · -- Without an escape character, a text without wildcards is like the pattern too.
      have hsame : Like.filled d = d := (hexact _).1 (Like.like_filled d)
      have hnone := Like.not_hasWildcard_filled d
      rw [hsame] at hnone
      exact hnone hwildcard
  · intro hnone
    rw [ofPattern, if_neg (fun h => hnone (hasWildcard_iff.1 h))]
    exact satisfied_ofName hd

end NameCondition

end SqlAccess
