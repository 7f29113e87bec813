import SqlAccess.Proofs.Catalog.NameCondition

/-!
# Escaped names

A client that has a name where a pattern is asked for writes a backslash before its wildcards
(`escapedName`). The condition that a query gets for such a pattern compares by equality if there
was nothing to escape, and else by LIKE with an escape character. Both ways it holds for just the
name itself (`holds_escapedName`).

A condition is judged by its text: it is read by the rule for literals (`lexemes?`), and what it is
read as tells for which names it holds (`Holds`).
-/

namespace SqlAccess

/-! ## Escaping -/

/-- A text with a backslash before each wildcard. -/
def escapedWildcards (s : List Char) : List Char :=
  s.flatMap fun c => if c = '%' ∨ c = '_' then ['\\', c] else [c]

/-- The pattern for a name. -/
def escapedName (name : String) : String :=
  String.ofList (escapedWildcards name.toList)

theorem escapedWildcards_wildcard {c : Char} (h : c = '%' ∨ c = '_') (s : List Char) :
    escapedWildcards (c :: s) = '\\' :: c :: escapedWildcards s := by
  simp [escapedWildcards, h]

theorem escapedWildcards_other {c : Char} (h : ¬(c = '%' ∨ c = '_')) (s : List Char) :
    escapedWildcards (c :: s) = c :: escapedWildcards s := by
  simp [escapedWildcards, h]

theorem hasWildcard_cons {c : Char} {s : List Char} :
    HasWildcard (c :: s) ↔ (c = '%' ∨ c = '_') ∨ HasWildcard s := by
  simp only [HasWildcard, List.mem_cons, eq_comm]
  exact or_or_or_comm

/-- A name without wildcards is its own pattern. -/
theorem escapedWildcards_eq_self {s : List Char} (h : ¬HasWildcard s) : escapedWildcards s = s := by
  induction s with
  | nil => rfl
  | cons c s ih =>
    obtain ⟨hc, hs⟩ := not_or.1 (hasWildcard_cons.not.1 h)
    rw [escapedWildcards_other hc, ih hs]

/-- A wildcard of the name is an escaped one of the pattern. -/
theorem hasEscapedWildcard_escapedWildcards {s : List Char} (h : HasWildcard s) :
    hasEscapedWildcard (escapedWildcards s) = true := by
  induction s with
  | nil => rcases h with h | h <;> cases h
  | cons c s ih =>
    by_cases hc : c = '%' ∨ c = '_'
    · rw [escapedWildcards_wildcard hc]
      rcases hc with rfl | rfl <;> rfl
    · have hs : HasWildcard s := (hasWildcard_cons.1 h).resolve_left hc
      rw [escapedWildcards_other hc, hasEscapedWildcard, ih hs, Bool.or_true]

/-! ## Matching -/

/-- A wildcard behind the escape character matches itself. -/
theorem Like.cons_escaped_iff {e c : Char} {p m : List Char} (he : e ≠ '%' ∧ e ≠ '_')
    (hc : c = '%' ∨ c = '_') :
    Like (some e) (e :: c :: p) m ↔ ∃ rest, m = c :: rest ∧ Like (some e) p rest := by
  constructor
  · intro h
    cases h with
    | any => exact absurd rfl he.1
    | one => exact absurd rfl he.2
    | escaped _ _ hrest => exact ⟨_, rfl, hrest⟩
    | same _ _ hne _ => exact absurd rfl hne
  · rintro ⟨rest, rfl, hrest⟩
    exact .escaped rfl (hc.imp_right .inl) hrest

/-- A character that is neither a wildcard nor the escape matches itself. -/
theorem Like.cons_same_iff {e c : Char} {p m : List Char} (hc : ¬(c = '%' ∨ c = '_'))
    (hne : c ≠ e) :
    Like (some e) (c :: p) m ↔ ∃ rest, m = c :: rest ∧ Like (some e) p rest := by
  constructor
  · intro h
    cases h with
    | any => exact absurd (.inl rfl) hc
    | one => exact absurd (.inr rfl) hc
    | escaped he _ _ => exact absurd (Option.some.inj he).symm hne
    | same _ _ _ hrest => exact ⟨_, rfl, hrest⟩
  · rintro ⟨rest, rfl, hrest⟩
    obtain ⟨hpercent, hunderscore⟩ := not_or.1 hc
    exact .same hpercent hunderscore (fun heq => hne (Option.some.inj heq).symm) hrest

/-- Only the name itself is like its pattern. -/
theorem like_escapedWildcards_iff {s m : List Char} (h : '\\' ∉ s) :
    Like (some '\\') (escapedWildcards s) m ↔ m = s := by
  -- By induction on the name: each of its characters is matched by itself, escaped or not.
  induction s generalizing m with
  | nil =>
    constructor
    · rintro ⟨⟩
      rfl
    · rintro rfl
      exact .nil
  | cons c s ih =>
    obtain ⟨hc, hs⟩ := not_or.1 (List.mem_cons.not.1 h)
    have hstep : Like (some '\\') (escapedWildcards (c :: s)) m ↔
        ∃ rest, m = c :: rest ∧ Like (some '\\') (escapedWildcards s) rest := by
      by_cases hwildcard : c = '%' ∨ c = '_'
      · rw [escapedWildcards_wildcard hwildcard]
        exact Like.cons_escaped_iff (by decide) hwildcard
      · rw [escapedWildcards_other hwildcard]
        exact Like.cons_same_iff hwildcard (Ne.symm hc)
    rw [hstep]
    simp only [ih hs]
    constructor
    · rintro ⟨rest, rfl, rfl⟩
      rfl
    · rintro rfl
      exact ⟨s, rfl, rfl⟩

namespace NameCondition

/-- The condition that an escaped name is taken for holds for the name alone. -/
theorem satisfied_escapedWildcards {s : List Char} (hne : s ≠ []) (h : '\\' ∉ s) (m : List Char) :
    (ofPattern (escapedWildcards s)).Satisfied m ↔ m = s := by
  -- With a wildcard the pattern is compared by LIKE, without one by equality.
  by_cases hwildcard : HasWildcard s
  · have hescaped := hasEscapedWildcard_escapedWildcards hwildcard
    rw [ofPattern, if_pos (hasWildcard_of_escaped hescaped), if_pos hescaped]
    exact like_escapedWildcards_iff h
  · rw [escapedWildcards_eq_self hwildcard]
    exact (satisfied_ofPattern_iff hne).2 hwildcard m

/-! ## Conditions as texts -/

/-- What stands behind the column in a condition. -/
def comparison : NameCondition → List Lexeme
  | isNull => code " IS NULL".toList
  | equals name => code " = ".toList ++ [.literal name]
  | like pattern none => code " LIKE ".toList ++ [.literal pattern]
  | like pattern (some e) =>
    code " LIKE ".toList ++ .literal pattern :: (code " ESCAPE ".toList ++ [.literal [e]])

/-- Two conditions are not read as the same text. -/
theorem comparison_injective {P Q : NameCondition} (h : P.comparison = Q.comparison) : P = Q := by
  rcases P with _ | name | ⟨pattern, _ | e⟩ <;> rcases Q with _ | name' | ⟨pattern', _ | e'⟩ <;>
    simp_all [comparison, code]

/-- A text that is put to a query as one more condition on a column holds for a name. -/
def Holds (column text name : String) : Prop :=
  ∃ (P : NameCondition) (rest : List Char),
    text.toList = " AND ".toList ++ column.toList ++ rest ∧
      lexemes? none rest = some P.comparison ∧ P.Satisfied name.toList

/-- A text holds for the names that satisfy the condition it is read as. -/
theorem holds_iff {column text : String} {P : NameCondition} {rest : List Char}
    (htext : text.toList = " AND ".toList ++ column.toList ++ rest)
    (hrest : lexemes? none rest = some P.comparison) (name : String) :
    Holds column text name ↔ P.Satisfied name.toList := by
  constructor
  · rintro ⟨Q, rest', htext', hrest', hsatisfied⟩
    -- The text can only be read in one way.
    obtain rfl : rest = rest' := List.append_cancel_left (htext.symm.trans htext')
    obtain rfl : P = Q := comparison_injective (Option.some.inj (hrest.symm.trans hrest'))
    exact hsatisfied
  · intro hsatisfied
    exact ⟨P, rest, htext, hrest, hsatisfied⟩

/-- The condition that is written for a pattern is read as the one that it means. -/
theorem exists_readsAs_comparison (column : String) (pattern : List Char) :
    ∃ rest, Clause.patternCondition column pattern = " AND ".toList ++ column.toList ++ rest ∧
      ReadsAs rest (ofPattern pattern).comparison := by
  unfold Clause.patternCondition ofPattern
  split
  · split
    · -- An escaped wildcard is compared by LIKE with an escape character.
      refine ⟨" LIKE ".toList ++ (literal pattern ++ (" ESCAPE ".toList ++ literal ['\\'])), ?_, ?_⟩
      · simp [Clause.condition_eq, literal, doubledQuotes]
      · exact .code_append (by simp)
          ((ReadsAs.literal pattern).append (.code_append (by simp) (.literal _)) (by simp))
    · -- A wildcard alone is compared by LIKE.
      refine ⟨" LIKE ".toList ++ literal pattern, ?_, ?_⟩
      · simp [Clause.condition_eq]
      · exact .code_append (by simp) (.literal pattern)
  · unfold Clause.nameCondition ofName
    split
    · exact ⟨" IS NULL".toList, by simp [Clause.condition_eq], .code (by simp)⟩
    · refine ⟨" = ".toList ++ literal pattern, ?_, ?_⟩
      · simp [Clause.condition_eq]
      · exact .code_append (by simp) (.literal pattern)

/-- A text that is read as some lexemes in any context is read so on its own. -/
theorem lexemes?_of_readsAs {s : List Char} {ls : List Lexeme} (h : ReadsAs s ls) :
    lexemes? none s = some ls := by
  have hread := h [] nofun
  simpa [lexemes?] using hread

end NameCondition

/-- A pattern that was escaped from a name puts a condition to a query that holds for this name and
for no other one. -/
theorem holds_escapedName {name : String} (hne : name ≠ "") (h : '\\' ∉ name.toList)
    (q : CatalogQuery) (column : String) :
    ∃ text : String,
      (CatalogQuery.mk q.start (q.clauses ++ [.like column (some (escapedName name))])).text =
        q.text ++ text ∧
      ∀ m, NameCondition.Holds column text m ↔ m = name := by
  -- The clause comes last, so that its text is what the query's text gains.
  obtain ⟨rest, hcondition, hreads⟩ :=
    NameCondition.exists_readsAs_comparison column (escapedWildcards name.toList)
  have hchars : (Clause.like column (some (escapedName name))).chars =
      " AND ".toList ++ column.toList ++ rest := by
    change Clause.patternCondition column (escapedName name).toList = _
    rw [escapedName, String.toList_ofList, hcondition]
  refine ⟨String.ofList (" AND ".toList ++ column.toList ++ rest), ?_, fun m => ?_⟩
  · rw [CatalogQuery.text_append, List.flatMap_singleton, hchars]
  · have hread := NameCondition.lexemes?_of_readsAs hreads
    rw [NameCondition.holds_iff String.toList_ofList hread,
      NameCondition.satisfied_escapedWildcards (by simpa using hne) h, String.toList_inj]

/-- A name with both wildcards and a quote. -/
theorem holds_escapedName_quote :
    escapedName "O'_100%" = "O'\\_100\\%" ∧
      ∀ m, NameCondition.Holds "TABLE_NAME" " AND TABLE_NAME LIKE 'O''\\_100\\%' ESCAPE '\\'" m ↔
        m = "O'_100%" := by
  have hescaped : escapedName "O'_100%" = "O'\\_100\\%" := by decide
  have hne : "O'_100%" ≠ "" := by decide
  have hbackslash : '\\' ∉ "O'_100%".toList := by decide
  obtain ⟨text, htext, hholds⟩ :=
    holds_escapedName hne hbackslash (CatalogQuery.ofView "SYSTEM_TABLES" []) "TABLE_NAME"
  have hsent : (CatalogQuery.ofView "SYSTEM_TABLES"
      [.like "TABLE_NAME" (some (escapedName "O'_100%"))]).text =
        (CatalogQuery.ofView "SYSTEM_TABLES" []).text ++
          " AND TABLE_NAME LIKE 'O''\\_100\\%' ESCAPE '\\'" := by
    decide
  rw [(String.append_right_inj _).1 (htext.symm.trans hsent)] at hholds
  exact ⟨hescaped, hholds⟩

end SqlAccess
