import SqlAccess.Proofs.Escape.Tree

/-!
# Block comments

A block comment is opaque: it is kept whatever quotes, braces and marks are in it, and the text
behind it is rewritten as if it stood alone (`nativeSql_blockComment`). Scanning to the end of the
comment is put together from the part before it and the comment itself (`Scanned`).

The star that opens a comment is not told from one that ends it, so that a comment whose body starts
with a slash ends right there, and the rest of its body is scanned as code.
-/

namespace SqlAccess

namespace Escape

/-! ## Parts of a text -/

/-- The quotes, the braces and the characters of comments. -/
def markup : List Char :=
  ['\'', '"', '\x7b', '\x7d', '-', '/', '*']

/-- A character that is neither a mark nor markup is kept. -/
theorem scanned_of_not_markup {c : Char} (hmark : c ≠ '?') (hc : c ∉ markup) (rest : List Char) :
    Scanned (c :: rest) rest [c] 0 := by
  have hplain : c ∉ ['\'', '"', '?', '\x7b', '\x7d'] := by
    simp only [markup, List.mem_cons, not_or] at hc ⊢
    exact ⟨hc.1, hc.2.1, hmark, hc.2.2.1, hc.2.2.2.1, List.not_mem_nil⟩
  -- A comment cannot start here, since the character is neither a dash nor a slash.
  have hline : ¬['-', '-'] <+: c :: rest := by
    rintro ⟨tail, heq⟩
    exact hc (by simp [markup, ← (List.cons.inj heq).1])
  have hblock : ¬['/', '*'] <+: c :: rest := by
    rintro ⟨tail, heq⟩
    exact hc (by simp [markup, ← (List.cons.inj heq).1])
  exact scanned_plain hplain hline hblock

/-- A text without markup is kept, and its marks are counted. -/
theorem scanned_text {s : List Char} (h : ∀ c ∈ s, c ∉ markup) (rest : List Char) :
    Scanned (s ++ rest) rest s (s.count '?') := by
  induction s with
  | nil => exact .refl rest
  | cons c s ih =>
    obtain ⟨hc, hs⟩ := List.forall_mem_cons.1 h
    -- A mark is kept too, and is the only character that counts.
    by_cases hmark : c = '?'
    · subst hmark
      rw [List.count_cons_self, Nat.add_comm]
      exact (Scanned.marker (s ++ rest)).trans (ih hs)
    · rw [List.count_cons_of_ne hmark, ← Nat.zero_add (s.count '?')]
      exact (scanned_of_not_markup hmark hc (s ++ rest)).trans (ih hs)

/-- A block comment is kept, and no mark in it is counted. -/
theorem scanned_blockComment {body : List Char} (h : ¬['*', '/'] <:+: body)
    (hslash : body.head? ≠ some '/') (rest : List Char) :
    Scanned ('/' :: '*' :: (body ++ '*' :: '/' :: rest)) rest
      ('/' :: '*' :: (body ++ ['*', '/'])) 0 :=
  .verbatim fun stack => scan_blockComment h hslash stack rest

/-- A slash right behind the star that opens a comment ends it. -/
theorem scanned_slashComment (rest : List Char) :
    Scanned ('/' :: '*' :: '/' :: rest) rest ['/', '*', '/'] 0 :=
  .verbatim fun _ => rfl

namespace Scanned

/-- What scanning gives for the rest of a text comes behind what it gave for its start. -/
theorem pieces_eq {start stop native : List Char} {markers : Nat}
    (h : Scanned start stop native markers) :
    nativeChars (pieces start) = native ++ nativeChars (pieces stop) ∧
      markerCount (pieces start) = markers + markerCount (pieces stop) := by
  obtain ⟨ps, rfl, rfl, hps⟩ := h
  have hpieces : pieces start = ps ++ pieces stop := hps []
  constructor
  · rw [hpieces, nativeChars_append]
  · rw [hpieces, markerCount_append]

/-- The statement of a text is that of the rest, with the native text and the markers of the start.
-/
theorem ofSql {start stop native : String} {markers : Nat}
    (h : Scanned start.toList stop.toList native.toList markers) :
    Statement.nativeSql start = native ++ Statement.nativeSql stop ∧
      (Statement.ofSql start).markers = markers + (Statement.ofSql stop).markers := by
  obtain ⟨hnative, hmarkers⟩ := h.pieces_eq
  constructor
  · rw [Statement.nativeSql, Statement.nativeSql, hnative, String.ofList_append,
      String.ofList_toList]
  · exact hmarkers

end Scanned

end Escape

/-! ## Statements with a block comment -/

namespace Statement

open SqlAccess.Escape

/-- A block comment is kept, and what stands behind it is rewritten on its own, unless its body
starts with a slash. In that case the comment ends with this slash. -/
theorem nativeSql_blockComment {p b : String} (hp : ∀ c ∈ p.toList, c ∉ markup)
    (hb : ¬['*', '/'] <:+: b.toList) (r : String) :
    (b.toList.head? ≠ some '/' →
      nativeSql (p ++ "/*" ++ b ++ "*/" ++ r) = p ++ "/*" ++ b ++ "*/" ++ nativeSql r ∧
        (ofSql (p ++ "/*" ++ b ++ "*/" ++ r)).markers =
          p.toList.count '?' + (ofSql r).markers) ∧
    ∀ b' : String, b = "/" ++ b' →
      nativeSql (p ++ "/*" ++ b ++ "*/" ++ r) = p ++ "/*/" ++ nativeSql (b' ++ "*/" ++ r) ∧
        (ofSql (p ++ "/*" ++ b ++ "*/" ++ r)).markers =
          p.toList.count '?' + (ofSql (b' ++ "*/" ++ r)).markers := by
  constructor
  · -- The text before the comment is scanned, then the comment, and what follows stands alone.
    intro hslash
    have hscanned : Scanned (p ++ "/*" ++ b ++ "*/" ++ r).toList r.toList
        (p ++ "/*" ++ b ++ "*/").toList (p.toList.count '?') := by
      simpa using (scanned_text hp _).trans (scanned_blockComment hb hslash r.toList)
    exact hscanned.ofSql
  · rintro b' rfl
    have hscanned : Scanned (p ++ "/*" ++ ("/" ++ b') ++ "*/" ++ r).toList
        (b' ++ "*/" ++ r).toList (p ++ "/*/").toList (p.toList.count '?') := by
      simpa using (scanned_text hp _).trans (scanned_slashComment (b' ++ "*/" ++ r).toList)
    exact hscanned.ofSql

/-- Quotes, a brace and marks in a comment that has stars at both ends. -/
theorem nativeSql_blockComment_stars :
    let text := "SELECT ? " ++ "/*" ++ "* it's \x7bd \"? *" ++ "*/" ++ ", \x7bfn F(?)\x7d"
    nativeSql text = "SELECT ? /** it's \x7bd \"? **/, F(?)" ∧ (ofSql text).markers = 2 := by
  have hp : ∀ c ∈ "SELECT ? ".toList, c ∉ markup := by simp [markup]
  have hb : ¬['*', '/'] <:+: "* it's \x7bd \"? *".toList := by decide
  obtain ⟨hnative, hmarkers⟩ := (nativeSql_blockComment hp hb ", \x7bfn F(?)\x7d").1 (by decide)
  constructor
  · rw [hnative]
    decide
  · rw [hmarkers]
    decide

/-- A comment that starts with a slash is not kept, and a mark in it is counted. -/
theorem nativeSql_blockComment_slash :
    let text := "SELECT " ++ "/*" ++ "/ \x7bd ?\x7d " ++ "*/" ++ " 5"
    (nativeSql text = "SELECT /*/ DATE ? */ 5" ∧
      nativeSql text ≠ "SELECT " ++ "/*" ++ "/ \x7bd ?\x7d " ++ "*/" ++ nativeSql " 5") ∧
    ((ofSql text).markers = 1 ∧ "SELECT ".toList.count '?' + (ofSql " 5").markers = 0) := by
  decide

end Statement

end SqlAccess
