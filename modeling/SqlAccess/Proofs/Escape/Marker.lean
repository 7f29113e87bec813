import SqlAccess.Proofs.Escape.Scan
import SqlAccess.Statement

/-!
# Counting markers

The client counts the markers of a statement while it scans the client text, and the engine finds
them in the native text, where quoted runs and comments are read by the rules of SQL (`bareChars`).

The two counts agree for every statement whose comments are the same in both texts
(`markers_ofSql`). Leaving out the head or the closing brace of an escape can bring two characters
together that open a comment, and a block comment that starts with a slash is taken for a whole one,
so that the counts can differ (`markers_ofSql_joined`). `KeepsComments` says that neither happens.
-/

namespace SqlAccess.Escape

/-! ## Reading native text -/

/-- What a character of native text stands in. -/
inductive Place
  | code
  | quoted (quote : Char)
  | lineComment
  | blockComment
deriving DecidableEq

/-- The characters of native text outside quoted runs and comments. A quote that is doubled in a
quoted run ends the run and starts another one, with nothing between them. -/
def bareChars : Place → List Char → List Char
  | _, [] => []
  | .quoted quote, c :: rest => bareChars (if c = quote then .code else .quoted quote) rest
  | .lineComment, c :: rest => bareChars (if c = '\n' then .code else .lineComment) rest
  | .blockComment, '*' :: '/' :: rest => bareChars .code rest
  | .blockComment, _ :: rest => bareChars .blockComment rest
  | .code, '-' :: '-' :: rest => bareChars .lineComment rest
  | .code, '/' :: '*' :: rest => bareChars .blockComment rest
  | .code, c :: rest =>
    if c = '\'' ∨ c = '"' then bareChars (.quoted c) rest else c :: bareChars .code rest

/-- A character opens a comment together with the next one. -/
def OpensComment (c : Char) (next : Option Char) : Prop :=
  c = '-' ∧ next = some '-' ∨ c = '/' ∧ next = some '*'
deriving Decidable

/-- A character that does not end a block comment stays in it. -/
theorem bareChars_blockComment_cons {c : Char} {rest : List Char}
    (h : ¬(c = '*' ∧ rest.head? = some '/')) :
    bareChars .blockComment (c :: rest) = bareChars .blockComment rest := by
  rw [bareChars]
  rintro after rfl rfl
  exact h ⟨rfl, rfl⟩

theorem bareChars_quote {quote : Char} (h : quote = '\'' ∨ quote = '"') (rest : List Char) :
    bareChars .code (quote :: rest) = bareChars (.quoted quote) rest := by
  rcases h with rfl | rfl <;> rfl

/-- Any other character of code that opens no comment is bare. -/
theorem bareChars_code_cons {c : Char} {rest : List Char} (hquote : ¬(c = '\'' ∨ c = '"'))
    (hcomment : ¬OpensComment c rest.head?) :
    bareChars .code (c :: rest) = c :: bareChars .code rest := by
  rw [bareChars, if_neg hquote]
  · rintro after rfl rfl
    exact hcomment (.inl ⟨rfl, rfl⟩)
  · rintro after rfl rfl
    exact hcomment (.inr ⟨rfl, rfl⟩)

/-! ## Comments in both texts -/

/-- The mode and the open braces behind one character of a scan. -/
def advance : Mode → List Bool → Char → List Char → Mode × List Bool
  | .escapeHead 0, braces, _, _ => (.code, braces)
  | .escapeHead (left + 1), braces, _, _ => (.escapeHead left, braces)
  | .quoted quote, braces, c, _ => (if c = quote then .code else .quoted quote, braces)
  | .lineComment, braces, c, _ => (if c = '\n' then .code else .lineComment, braces)
  | .blockComment, braces, c, rest =>
    (if c = '*' ∧ rest.head? = some '/' then .commentEnd else .blockComment, braces)
  | .commentEnd, braces, _, _ => (.code, braces)
  | .code, braces, '\x7b', rest =>
    match escapeHead? rest with
    | some (_, afterHead) => (.escapeHead (rest.length - afterHead.length - 1), true :: braces)
    | none => (.code, false :: braces)
  | .code, braces, '\x7d', _ => (.code, braces.tail)
  | .code, braces, c, rest => (modeAfter c rest.head?, braces)

/-- A character of code opens a comment of the native text only if it opens one of the client text,
and no block comment that starts with a slash. -/
def KeepsOpening (braces : List Bool) (c : Char) (rest : List Char) : Prop :=
  ¬['/', '*', '/'] <+: c :: rest ∧
    (OpensComment c (nativeChars (scan .code braces rest)).head? → OpensComment c rest.head?)

instance (braces : List Bool) (c : Char) (rest : List Char) :
    Decidable (KeepsOpening braces c rest) :=
  inferInstanceAs (Decidable (_ ∧ _))

/-- Every character of code in a text that is left to scan keeps its opening. -/
def KeepsComments : Mode → List Bool → List Char → Prop
  | _, _, [] => True
  | mode, braces, c :: rest =>
    (mode = .code → KeepsOpening braces c rest) ∧
      KeepsComments (advance mode braces c rest).1 (advance mode braces c rest).2 rest

def decideKeepsComments : (mode : Mode) → (braces : List Bool) → (s : List Char) →
    Decidable (KeepsComments mode braces s)
  | _, _, [] => .isTrue trivial
  | mode, braces, c :: rest =>
    have := decideKeepsComments (advance mode braces c rest).1 (advance mode braces c rest).2 rest
    inferInstanceAs (Decidable ((mode = .code → KeepsOpening braces c rest) ∧
      KeepsComments (advance mode braces c rest).1 (advance mode braces c rest).2 rest))

instance (mode : Mode) (braces : List Bool) (s : List Char) :
    Decidable (KeepsComments mode braces s) :=
  decideKeepsComments mode braces s

/-! ## Counting piece by piece -/

/-- The bare characters of a text that is read from where a scan is in a mode. -/
def bareFrom : Mode → List Char → List Char
  | .quoted quote, s => bareChars (.quoted quote) s
  | .lineComment, s => bareChars .lineComment s
  | .blockComment, s => bareChars .blockComment s
  -- The star that ends a block comment counts together with the slash.
  | .commentEnd, s => bareChars .blockComment ('*' :: s)
  | .code, s => bareChars .code s
  | .escapeHead _, s => bareChars .code s

/-- Pieces scanned from a mode on have as many markers as the engine finds in their native text. -/
def Counted (mode : Mode) (ps : List Piece) : Prop :=
  markerCount ps = (bareFrom mode (nativeChars ps)).count '?'

theorem markerCount_cons {p : Piece} (h : p ≠ .marker) (ps : List Piece) :
    markerCount (p :: ps) = markerCount ps :=
  List.count_cons_of_ne h

namespace Counted

variable {ps : List Piece} {c : Char}

theorem nil (mode : Mode) : Counted mode [] := by
  cases mode <;> rfl

/-- A mark of code is counted on both sides. -/
theorem marker (h : Counted .code ps) : Counted .code (.marker :: ps) := by
  have hbare : bareChars .code ('?' :: nativeChars ps) = '?' :: bareChars .code (nativeChars ps) :=
    bareChars_code_cons (by decide) (by rintro (⟨hc, -⟩ | ⟨hc, -⟩) <;> cases hc)
  calc markerCount (.marker :: ps) = markerCount ps + 1 := List.count_cons_self
    _ = (bareChars .code (nativeChars ps)).count '?' + 1 := congrArg (· + 1) h
    _ = (bareChars .code ('?' :: nativeChars ps)).count '?' := by
      rw [hbare, List.count_cons_self]

/-- A verbatim character counts for nothing where the bare characters behind it are the same. -/
theorem verbatim {mode behind : Mode} (h : Counted behind ps)
    (hbare : (bareFrom mode (c :: nativeChars ps)).count '?' =
      (bareFrom behind (nativeChars ps)).count '?') :
    Counted mode (.verbatim c :: ps) := by
  rw [Counted, markerCount_cons (by simp), h, ← hbare]
  rfl

/-- A character of code that opens nothing counts for nothing. -/
theorem plain (hmark : c ≠ '?') (hquote : ¬(c = '\'' ∨ c = '"'))
    (hcomment : ¬OpensComment c (nativeChars ps).head?) (h : Counted .code ps) :
    Counted .code (.verbatim c :: ps) := by
  refine h.verbatim ?_
  rw [bareFrom, bareFrom, bareChars_code_cons hquote hcomment, List.count_cons_of_ne hmark]

/-- A brace that is kept counts for nothing. -/
theorem brace (hbrace : c = '\x7b' ∨ c = '\x7d') (h : Counted .code ps) :
    Counted .code (.verbatim c :: ps) := by
  apply h.plain
  · rcases hbrace with rfl | rfl <;> simp
  · rcases hbrace with rfl | rfl <;> simp
  · rcases hbrace with rfl | rfl <;> simp [OpensComment]

/-- A quote counts for nothing, and the run behind it is read as a run. -/
theorem quote (hquote : c = '\'' ∨ c = '"') (h : Counted (.quoted c) ps) :
    Counted .code (.verbatim c :: ps) := by
  refine h.verbatim ?_
  rw [bareFrom, bareFrom, bareChars_quote hquote]

/-- The native word of an escape has letters only, and so no markers. -/
theorem keyword {word : String} (hword : ∀ c ∈ word.toList, c.isAlpha = true)
    (h : Counted .code ps) : Counted .code (.keyword word :: ps) := by
  have hbare (s : List Char) (hs : ∀ c ∈ s, c.isAlpha = true) :
      (bareChars .code (s ++ nativeChars ps)).count '?' =
        (bareChars .code (nativeChars ps)).count '?' := by
    induction s with
    | nil => rfl
    | cons c s ih =>
      -- No letter is a mark, starts a quoted run or opens a comment.
      have hne {d : Char} (hd : d.isAlpha = false) : c ≠ d := by
        rintro rfl
        exact absurd (hs c List.mem_cons_self) (by simp [hd])
      rw [List.cons_append, bareChars_code_cons (not_or.2 ⟨hne rfl, hne rfl⟩)
        (not_or.2 ⟨fun h => hne rfl h.1, fun h => hne rfl h.1⟩), List.count_cons_of_ne (hne rfl),
        ih fun d hd => hs d (List.mem_cons_of_mem c hd)]
  calc markerCount (.keyword word :: ps) = markerCount ps := markerCount_cons (by simp) ps
    _ = (bareChars .code (nativeChars ps)).count '?' := h
    _ = (bareChars .code (word.toList ++ nativeChars ps)).count '?' := (hbare _ hword).symm

/-- The first dash of a line comment leads into the comment. -/
theorem openLineComment (hnext : (nativeChars ps).head? = some '-')
    (h : Counted .lineComment ps) : Counted .code (.verbatim '-' :: ps) := by
  obtain ⟨s, hs⟩ := List.head?_eq_some_iff.1 hnext
  refine h.verbatim ?_
  rw [hs]
  rfl

/-- The slash of a block comment leads into the comment, unless a slash ends it at once. -/
theorem openBlockComment {s : List Char} (hnext : nativeChars ps = '*' :: s)
    (hslash : s.head? ≠ some '/') (h : Counted .blockComment ps) :
    Counted .code (.verbatim '/' :: ps) := by
  refine h.verbatim ?_
  rw [hnext, bareFrom, bareFrom, bareChars_blockComment_cons fun hend => hslash hend.2]
  rfl

theorem blockComment (hend : ¬(c = '*' ∧ (nativeChars ps).head? = some '/'))
    (h : Counted .blockComment ps) : Counted .blockComment (.verbatim c :: ps) := by
  refine h.verbatim ?_
  rw [bareFrom, bareFrom, bareChars_blockComment_cons hend]

theorem quoted {quote : Char} (h : Counted (if c = quote then .code else .quoted quote) ps) :
    Counted (.quoted quote) (.verbatim c :: ps) := by
  refine h.verbatim ?_
  simp only [bareFrom, bareChars]
  split <;> rfl

theorem lineComment (h : Counted (if c = '\n' then .code else .lineComment) ps) :
    Counted .lineComment (.verbatim c :: ps) := by
  refine h.verbatim ?_
  simp only [bareFrom, bareChars]
  split <;> rfl

end Counted

/-! ## Counting a scan -/

/-- The head of an escape gives the native word of a keyword. -/
theorem exists_keyword_of_escapeHead? {s after : List Char} {word : String}
    (h : escapeHead? s = some (word, after)) : ∃ k : Keyword, word = k.native := by
  unfold escapeHead? at h
  dsimp only at h
  split at h
  · obtain ⟨rest, -, hrest⟩ := Option.map_eq_some_iff.1 h
    cases hrest
    exact ⟨.call, rfl⟩
  · obtain ⟨r, hr, hword⟩ := Option.map_eq_some_iff.1 h
    obtain ⟨k, hk⟩ := exists_keyword_of_nativeKeyword? hr
    rw [hk, nativeKeyword?_word] at hr
    cases hr
    cases hword
    exact ⟨k, rfl⟩

theorem isAlpha_of_escapeHead? {s after : List Char} {word : String}
    (h : escapeHead? s = some (word, after)) : ∀ c ∈ word.toList, c.isAlpha = true := by
  obtain ⟨k, rfl⟩ := exists_keyword_of_escapeHead? h
  have hall : k.native.toList.all Char.isAlpha = true := by cases k <;> decide
  exact List.all_eq_true.1 hall

/-- The next native character of a quoted run or a comment is the next one of the client text. -/
theorem head?_scan_lineComment (braces : List Bool) (s : List Char) :
    (nativeChars (scan .lineComment braces s)).head? = s.head? := by
  cases s <;> rfl

theorem head?_scan_blockComment (braces : List Bool) (s : List Char) :
    (nativeChars (scan .blockComment braces s)).head? = s.head? := by
  cases s <;> rfl

theorem scan_code_cons {c : Char} (hmark : c ≠ '?') (hopen : c ≠ '\x7b') (hclose : c ≠ '\x7d')
    (braces : List Bool) (rest : List Char) :
    scan .code braces (c :: rest) =
      .verbatim c :: scan (modeAfter c rest.head?) braces rest := by
  rw [scan] <;> simp_all

/-- A character of code is counted if what is scanned behind it is. -/
theorem counted_code {braces : List Bool} {c : Char} {rest : List Char}
    (hopening : KeepsOpening braces c rest)
    (h : ((advance .code braces c rest).1 = .commentEnd → rest.head? = some '/') →
      Counted (advance .code braces c rest).1
        (scan (advance .code braces c rest).1 (advance .code braces c rest).2 rest)) :
    Counted .code (scan .code braces (c :: rest)) := by
  by_cases hmark : c = '?'
  · subst hmark
    exact (h nofun).marker
  by_cases hopen : c = '\x7b'
  · subst hopen
    rw [scan_openBrace]
    simp only [advance] at h
    cases hhead : escapeHead? rest with
    | some head =>
      rw [hhead] at h
      exact (h nofun).keyword (isAlpha_of_escapeHead? hhead)
    | none =>
      rw [hhead] at h
      exact (h nofun).brace (.inl rfl)
  by_cases hclose : c = '\x7d'
  · subst hclose
    -- A brace is left out if it closes an escape, and else kept.
    rcases braces with _ | ⟨_ | _, braces⟩
    · exact (h nofun).brace (.inr rfl)
    · exact (h nofun).brace (.inr rfl)
    · exact h nofun
  have hadvance : advance .code braces c rest = (modeAfter c rest.head?, braces) := by
    rw [advance] <;> simp_all
  rw [hadvance] at h
  rw [scan_code_cons hmark hopen hclose]
  obtain ⟨hslash, hcomment⟩ := hopening
  -- Quotes and comments open alike in both texts, by `hcomment`.
  by_cases hquote : c = '\'' ∨ c = '"'
  · rw [modeAfter, if_pos hquote] at h ⊢
    exact (h nofun).quote hquote
  by_cases hline : c = '-' ∧ rest.head? = some '-'
  · rw [modeAfter, if_neg hquote, if_pos hline] at h ⊢
    obtain ⟨rfl, hnext⟩ := hline
    exact (h nofun).openLineComment (by rwa [head?_scan_lineComment])
  by_cases hblock : c = '/' ∧ rest.head? = some '*'
  · rw [modeAfter, if_neg hquote, if_neg hline, if_pos hblock] at h ⊢
    obtain ⟨rfl, hnext⟩ := hblock
    obtain ⟨s, rfl⟩ := List.head?_eq_some_iff.1 hnext
    -- The star does not end the comment it opens, so that it is inside for the scan as well.
    have hs : s.head? ≠ some '/' := by
      intro hs
      obtain ⟨s, rfl⟩ := List.head?_eq_some_iff.1 hs
      exact hslash ⟨s, rfl⟩
    refine (h nofun).openBlockComment (s := nativeChars (scan .blockComment braces s)) ?_ ?_
    · rw [scan_blockComment_cons, if_neg fun hend => hs hend.2]
      rfl
    · rwa [head?_scan_blockComment]
  · rw [modeAfter, if_neg hquote, if_neg hline, if_neg hblock] at h ⊢
    exact (h nofun).plain hmark hquote fun hjoined => (hcomment hjoined).elim hline hblock

/-- Each scan counts the markers that the engine finds in its native text. -/
theorem counted_scan {mode : Mode} {braces : List Bool} {s : List Char}
    (hslash : mode = .commentEnd → s.head? = some '/') (h : KeepsComments mode braces s) :
    Counted mode (scan mode braces s) := by
  -- By induction on the text; modes and braces go along with `advance`, as the scan itself does.
  induction s generalizing mode braces with
  | nil =>
    rw [scan]
    exact .nil mode
  | cons c rest ih =>
    obtain ⟨hopening, hrest⟩ := h
    cases mode with
    | escapeHead left =>
      -- The head of an escape is left out of the native text.
      cases left with
      | zero => exact ih (by simp) hrest
      | succ left => exact ih (by simp) hrest
    | quoted quote =>
      refine .quoted (ih ?_ hrest)
      split <;> simp
    | lineComment =>
      refine .lineComment (ih ?_ hrest)
      split <;> simp
    | blockComment =>
      rw [scan_blockComment_cons]
      by_cases hend : c = '*' ∧ rest.head? = some '/'
      · -- The scan goes on behind the star, and the engine takes the slash along with it.
        rw [advance, if_pos hend] at hrest
        rw [if_pos hend]
        obtain ⟨rfl, hnext⟩ := hend
        have hbehind : Counted .commentEnd (scan .commentEnd braces rest) :=
          ih (fun _ => hnext) hrest
        exact hbehind.verbatim rfl
      · rw [advance, if_neg hend] at hrest
        rw [if_neg hend]
        have hbehind : Counted .blockComment (scan .blockComment braces rest) :=
          ih (by simp) hrest
        exact hbehind.blockComment (by rwa [head?_scan_blockComment])
    | commentEnd =>
      -- The star is behind the scan, and the engine still has both characters before it.
      obtain rfl : c = '/' := Option.some.inj (hslash rfl)
      have hbehind : Counted .code (scan .code braces rest) := ih (by simp) hrest
      exact hbehind.verbatim rfl
    | code => exact counted_code (hopening rfl) fun hmode => ih hmode hrest

/-- The client finds as many markers in a statement as the engine finds in its native text, if every
comment of the native text is one of the client text and no block comment starts with a slash. -/
theorem markers_ofSql (sql : String) (h : KeepsComments .code [] sql.toList) :
    (Statement.ofSql sql).markers =
      (bareChars .code (Statement.ofSql sql).native.toList).count '?' := by
  have hcount : Counted .code (scan .code [] sql.toList) := counted_scan nofun h
  simpa [Statement.ofSql, pieces, Counted, bareFrom] using hcount

/-- Marks in quotes and in comments, in an escape and in the head of one, and after a dash. -/
theorem markers_ofSql_mixed :
    let sql := "\x7b? = call f('?', \x7bfn - -?\x7d) -- ?\n/* ' ? */ - ?\x7d"
    KeepsComments .code [] sql.toList ∧
      (Statement.ofSql sql).native = "CALL f('?', - -?) -- ?\n/* ' ? */ - ?" ∧
      (Statement.ofSql sql).markers = 2 ∧
      (bareChars .code (Statement.ofSql sql).native.toList).count '?' = 2 := by
  intro sql
  have h : KeepsComments .code [] sql.toList := by decide
  have hmarkers : (Statement.ofSql sql).markers = 2 := by decide
  exact ⟨h, by decide, hmarkers, (markers_ofSql sql h).symm.trans hmarkers⟩

/-- A dash on each side of the brace of an escape makes a comment, and a block comment goes on behind
a slash, each with a mark in it that the client has counted. -/
theorem markers_ofSql_joined :
    let joined := Statement.ofSql "SELECT 5-\x7bfn -ABS(?)\x7d"
    let slashed := Statement.ofSql "SELECT /*/ ? */ 5"
    (joined.native = "SELECT 5--ABS(?)" ∧ joined.markers = 1 ∧
      (bareChars .code joined.native.toList).count '?' = 0) ∧
    (slashed.native = "SELECT /*/ ? */ 5" ∧ slashed.markers = 1 ∧
      (bareChars .code slashed.native.toList).count '?' = 0) := by
  decide

end SqlAccess.Escape
