import SqlAccess.Proofs.Escape.Comment
import SqlAccess.Proofs.Escape.Marker

/-!
# Comments before a statement

Blanks and comments before a statement say nothing about what it does (`Spacing`). The kind of a
statement is told from its native text, in which they are kept. Blanks are passed over there, but a
comment is not: its first character ends the first word before it has begun, and a statement with a
comment before it is of no known kind (`kind_ofSql_spacing`).
-/

namespace SqlAccess

open SqlAccess.Text SqlAccess.Escape

/-- Blanks and complete comments. -/
inductive Spacing : List Char → Prop
  | nil : Spacing []
  | blank {c : Char} {rest : List Char} : isBlank c = true → Spacing rest → Spacing (c :: rest)
  | lineComment {body rest : List Char} :
      '\n' ∉ body → Spacing rest → Spacing ('-' :: '-' :: (body ++ '\n' :: rest))
  | blockComment {body rest : List Char} :
      ¬['*', '/'] <:+: body → Spacing rest → Spacing ('/' :: '*' :: (body ++ '*' :: '/' :: rest))

/-- Spacing that is not all blank has a comment as its first part that is no blank. -/
theorem Spacing.allBlank_or {s : List Char} (h : Spacing s) :
    AllBlank s ∨ ∃ blanks c rest,
      AllBlank blanks ∧ (c = '-' ∨ c = '/') ∧ s = blanks ++ c :: rest := by
  induction h with
  | nil => exact .inl nofun
  | @blank c rest hc _ ih =>
    rcases ih with hrest | ⟨blanks, d, rest, hblanks, hd, rfl⟩
    · exact .inl (List.forall_mem_cons.2 ⟨hc, hrest⟩)
    · exact .inr ⟨c :: blanks, d, rest, List.forall_mem_cons.2 ⟨hc, hblanks⟩, hd, rfl⟩
  | lineComment _ _ _ => exact .inr ⟨[], '-', _, nofun, .inl rfl, rfl⟩
  | blockComment _ _ _ => exact .inr ⟨[], '/', _, nofun, .inr rfl, rfl⟩

namespace StatementKind

/-- Blanks before a text do not change its first word. -/
theorem firstWord_append {blanks : List Char} (h : AllBlank blanks) (s : List Char) :
    firstWord (blanks ++ s) = firstWord s := by
  have hskipped : ∀ c ∈ blanks, (isBlank c || c == '(') = true := by
    intro c hc
    rw [h c hc, Bool.true_or]
  rw [firstWord, firstWord, List.dropWhile_append_of_pos hskipped]

/-- A comment has no first word. -/
theorem firstWord_comment {c : Char} (h : c = '-' ∨ c = '/') (s : List Char) :
    firstWord (c :: s) = [] := by
  rcases h with rfl | rfl <;> rfl

end StatementKind

namespace Escape

/-- Blanks before a text are kept. -/
theorem nativeChars_pieces_append {blanks : List Char} (h : AllBlank blanks) (s : List Char) :
    nativeChars (pieces (blanks ++ s)) = blanks ++ nativeChars (pieces s) := by
  have hnone : markup.any isBlank = false := by decide
  -- No blank is markup, so that blanks are scanned as plain text.
  have htext : ∀ c ∈ blanks, c ∉ markup := by
    intro c hc hmem
    exact absurd (h c hc) (List.any_eq_false.1 hnone c hmem)
  exact (scanned_text htext s).pieces_eq.1

theorem nativeChars_pieces_comment {c : Char} (h : c = '-' ∨ c = '/') (s : List Char) :
    ∃ rest, nativeChars (pieces (c :: s)) = c :: rest := by
  have hcode : c ≠ '?' ∧ c ≠ '\x7b' ∧ c ≠ '\x7d' := by rcases h with rfl | rfl <;> decide
  obtain ⟨hmark, hopen, hclose⟩ := hcode
  exact ⟨_, by rw [pieces, scan_code_cons hmark hopen hclose]; rfl⟩

end Escape

namespace Statement

theorem kind_ofSql (sql : String) :
    (ofSql sql).kind = .ofChars (nativeChars (pieces sql.toList)) := by
  simp only [ofSql]

/-- Blanks before a statement do not change its kind. -/
theorem kind_ofSql_blanks {blanks : String} (h : AllBlank blanks.toList) (s : String) :
    (ofSql (blanks ++ s)).kind = (ofSql s).kind := by
  rw [kind_ofSql, kind_ofSql, String.toList_append, nativeChars_pieces_append h,
    StatementKind.ofChars, StatementKind.firstWord_append h]
  rfl

/-- With a comment before it, a statement is of no known kind. -/
theorem kind_ofSql_comments {c : String} (h : Spacing c.toList) (hcomment : ¬AllBlank c.toList)
    (s : String) : (ofSql (c ++ s)).kind = .other := by
  -- The first comment stands behind blanks, and no word starts with its first character.
  obtain ⟨blanks, d, rest, hblanks, hd, hc⟩ := h.allBlank_or.resolve_left hcomment
  obtain ⟨native, hnative⟩ := nativeChars_pieces_comment hd (rest ++ s.toList)
  rw [kind_ofSql, String.toList_append, hc, List.append_assoc, List.cons_append,
    nativeChars_pieces_append hblanks, hnative, StatementKind.ofChars,
    StatementKind.firstWord_append hblanks, StatementKind.firstWord_comment hd]
  rfl

/-- A statement with blanks before it is of the same kind, and one with a comment before it is of no
known kind. -/
theorem kind_ofSql_spacing {c : String} (h : Spacing c.toList) (s : String) :
    ((ofSql (c ++ s)).kind = (ofSql s).kind ↔ AllBlank c.toList ∨ (ofSql s).kind = .other) ∧
      (¬AllBlank c.toList → (ofSql (c ++ s)).kind = .other) := by
  refine ⟨?_, fun hcomment => kind_ofSql_comments h hcomment s⟩
  by_cases hblank : AllBlank c.toList
  · -- Without a comment the spacing is passed over.
    exact iff_of_true (kind_ofSql_blanks hblank s) (.inl hblank)
  · rw [kind_ofSql_comments h hblank s]
    constructor
    · intro hsame
      exact .inr hsame.symm
    · intro hother
      exact (hother.resolve_left hblank).symm

/-- Comments with quotes, a parenthesis and a keyword in them, before a query. -/
theorem kind_ofSql_spacing_query :
    (ofSql (" \n" ++ "(SELECT 1)")).kind = (ofSql "(SELECT 1)").kind ∧
      (ofSql (" /* it's (CALL */\n-- ?\n" ++ "(SELECT 1)")).kind = .other := by
  have hblank : Spacing " \n".toList := .blank (by decide) (.blank (by decide) .nil)
  have hline : Spacing "-- ?\n".toList := @Spacing.lineComment " ?".toList [] (by decide) .nil
  have hblock : Spacing "/* it's (CALL */\n-- ?\n".toList :=
    @Spacing.blockComment " it's (CALL ".toList _ (by decide) (.blank (by decide) hline)
  have hcomment : Spacing " /* it's (CALL */\n-- ?\n".toList := .blank (by decide) hblock
  exact ⟨(kind_ofSql_spacing hblank "(SELECT 1)").1.2 (.inl (by decide)),
    (kind_ofSql_spacing hcomment "(SELECT 1)").2 (by decide)⟩

/-- A comment before a query hides what it is. -/
theorem kind_ofSql_comment :
    Spacing "-- c\n".toList ∧ (ofSql ("-- c\n" ++ "SELECT 1")).kind = .other ∧
      (ofSql "SELECT 1").kind = .query :=
  ⟨@Spacing.lineComment " c".toList [] (by decide) .nil, by decide, by decide⟩

end Statement

end SqlAccess
