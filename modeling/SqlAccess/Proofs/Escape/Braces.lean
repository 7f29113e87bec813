import SqlAccess.Proofs.Escape.Marker

/-!
# Braces that are no escapes

A brace names an escape if a keyword stands behind it, as a whole identifier (`NamesEscape`). The
braces that count are those in code, where quoted runs and comments are read by the rules of SQL
(`codeSuffixes`).

The scanner compares the leading letters and not the identifier. In a text without named escapes it
keeps every brace, and with them the whole text, exactly if these two words never differ in naming
an escape (`nativeSql_eq_self_iff`): a digit, an underscore or another letter right behind a keyword
goes unnoticed.
-/

namespace SqlAccess.Escape

open SqlAccess.Text

/-! ## Named escapes -/

/-- A character of an identifier. -/
def isWordChar (c : Char) : Bool :=
  isAlphanumeric c || c == '_'

/-- The identifier at the start of a text, in lower case. -/
def leadingIdentifier (s : List Char) : List Char :=
  (s.takeWhile isWordChar).map Char.toLower

/-- The words that name an escape. -/
def escapeWords : List (List Char) :=
  ["call", "d", "t", "ts", "fn", "oj", "escape"].map String.toList

/-- What follows a mark and an equals sign, with blanks left out. -/
def behindMark? (s : List Char) : Option (List Char) :=
  match trimStart s with
  | '?' :: s =>
    match trimStart s with
    | '=' :: s => some (trimStart s)
    | _ => none
  | _ => none

/-- The word behind a brace names an escape, or the one behind a mark and an equals sign names a
call. What counts as the word is left open. -/
def NamesEscape (word : List Char → List Char) (s : List Char) : Prop :=
  word (trimStart s) ∈ escapeWords ∨ ∃ after ∈ behindMark? s, word after = "call".toList

instance (word : List Char → List Char) : DecidablePred (NamesEscape word) :=
  fun _ => inferInstanceAs (Decidable (_ ∨ _))

/-- The words that name an escape are those of the keywords. -/
theorem mem_escapeWords {word : List Char} : word ∈ escapeWords ↔ ∃ k : Keyword, word = k.word := by
  constructor
  · intro h
    simp only [escapeWords, List.mem_map, List.mem_cons, List.not_mem_nil, or_false] at h
    obtain ⟨s, hs, rfl⟩ := h
    rcases hs with rfl | rfl | rfl | rfl | rfl | rfl | rfl
    · exact ⟨.call, rfl⟩
    · exact ⟨.date, rfl⟩
    · exact ⟨.time, rfl⟩
    · exact ⟨.timestamp, rfl⟩
    · exact ⟨.function, rfl⟩
    · exact ⟨.outerJoin, rfl⟩
    · exact ⟨.likeEscape, rfl⟩
  · rintro ⟨k, rfl⟩
    cases k <;> decide

/-- A word has a native one exactly if it names an escape. -/
theorem isSome_nativeKeyword?_iff {word : List Char} :
    (nativeKeyword? word).isSome = true ↔ word ∈ escapeWords := by
  rw [mem_escapeWords]
  constructor
  · intro h
    obtain ⟨r, hr⟩ := Option.isSome_iff_exists.1 h
    exact exists_keyword_of_nativeKeyword? hr
  · rintro ⟨k, rfl⟩
    rw [nativeKeyword?_word]
    rfl

/-- The scanner takes the leading letters for the word. -/
theorem namesEscape_leadingWord_iff {s : List Char} :
    NamesEscape leadingWord s ↔ StartsEscape s := by
  rw [startsEscape_iff, NamesEscape, escapeHead?]
  by_cases hmark : (trimStart s).head? = some '?'
  · -- Only a call for its result starts with a mark.
    obtain ⟨u, hu⟩ := List.head?_eq_some_iff.1 hmark
    have hword : leadingWord ('?' :: u) ∉ escapeWords := by
      rw [show leadingWord ('?' :: u) = [] from rfl]
      decide
    simp only [hu, List.head?_cons, if_true, Option.isSome_map, hword, false_or, behindMark?,
      functionCallHead?]
    generalize trimStart u = v
    cases v with
    | nil => simp
    | cons c after =>
      by_cases hequals : c = '='
      · subst hequals
        simp
      · simp [hequals]
  · have hnone : behindMark? s = none := by
      unfold behindMark?
      split
      · next u hu => exact absurd (by rw [hu]; rfl) hmark
      · rfl
    simp only [if_neg hmark, Option.isSome_map, isSome_nativeKeyword?_iff, hnone]
    simp

/-- No letter or numeral is a blank. -/
theorem isBlank_eq_false_of_isAlphanumeric {c : Char} (h : isAlphanumeric c = true) :
    isBlank c = false := by
  -- The blanks lie between the ranges of letters and numerals.
  have hranges : ∀ r ∈ alphanumericRanges,
      (r.2 < 0x85 ∨ 0x85 < r.1) ∧ (r.2 < 0xA0 ∨ 0xA0 < r.1) ∧ (r.2 < 0x1680 ∨ 0x1680 < r.1) ∧
        (r.2 < 0x2000 ∨ 0x205F < r.1) ∧ (r.2 < 0x3000 ∨ 0x3000 < r.1) := by
    decide +kernel
  unfold isAlphanumeric at h
  dsimp only at h
  split at h
  · rcases Bool.or_eq_true_iff.1 h with halpha | hdigit
    · exact isBlank_eq_false_of_isAlpha halpha
    · exact isBlank_eq_false_of_isDigit hdigit
  · next hascii =>
    obtain ⟨r, hr, hc⟩ := List.any_eq_true.1 h
    obtain ⟨hlo, hhi⟩ := Bool.and_eq_true_iff.1 hc
    have hlo : r.1 ≤ c.toNat := of_decide_eq_true hlo
    have hhi : c.toNat ≤ r.2 := of_decide_eq_true hhi
    have hout := hranges r hr
    simp only [isBlank, Bool.or_eq_false_iff, Bool.and_eq_false_iff, decide_eq_false_iff_not,
      beq_eq_false_iff_ne]
    omega

/-- No character of an identifier is a blank. -/
theorem isBlank_eq_false_of_isWordChar {c : Char} (h : isWordChar c = true) :
    isBlank c = false := by
  rcases Bool.or_eq_true_iff.1 h with h | h
  · exact isBlank_eq_false_of_isAlphanumeric h
  · rw [eq_of_beq h]
    rfl

theorem isWordChar_of_isAlpha {c : Char} (h : c.isAlpha = true) : isWordChar c = true := by
  have hrange := toNat_of_isAlpha h
  rw [isWordChar, isAlphanumeric_of_ascii (by omega), Char.isAlphanum, h]
  rfl

/-- A keyword that is no whole identifier has more of one behind it. -/
theorem exists_isWordChar {blanks spelling after : List Char} {k : Keyword} (hb : AllBlank blanks)
    (hs : k.IsSpelling spelling)
    (h : ¬NamesEscape leadingIdentifier (blanks ++ (spelling ++ after))) :
    ∃ c tail, after = c :: tail ∧ isWordChar c = true := by
  have hword : ∀ c ∈ spelling, isWordChar c = true := fun c hc =>
    isWordChar_of_isAlpha (hs.isAlpha hc)
  -- Otherwise the keyword is the whole identifier, and names an escape.
  have hidentifier : leadingIdentifier (spelling ++ after) ≠ k.word := by
    intro heq
    apply h
    left
    rw [trimStart_append hb, trimStart_spelling hs]
    exact mem_escapeWords.2 ⟨k, heq⟩
  rw [leadingIdentifier, List.takeWhile_append_of_pos hword] at hidentifier
  cases after with
  | nil =>
    rw [List.takeWhile_nil, List.append_nil] at hidentifier
    exact absurd hs hidentifier
  | cons c tail =>
    refine ⟨c, tail, rfl, ?_⟩
    by_contra hc
    rw [List.takeWhile_cons_of_neg hc, List.append_nil] at hidentifier
    exact hidentifier hs

theorem ne_of_isWordChar {c d : Char} (h : isWordChar c = true) (hd : isWordChar d = false) :
    c ≠ d := by
  rintro rfl
  rw [h] at hd
  cases hd

/-- What the scanner takes for an escape that is none does not keep its brace. -/
theorem head?_scan_unnamed {s : List Char} (hword : NamesEscape leadingWord s)
    (hidentifier : ¬NamesEscape leadingIdentifier s) (braces : List Bool) :
    (nativeChars (scan .code braces ('\x7b' :: s))).head? ≠ some '\x7b' := by
  rw [namesEscape_leadingWord_iff] at hword
  cases hword with
  | @keyword blanks spelling after k hb hs ha =>
    -- The keyword may stand for nothing. Then the next character of the identifier comes first.
    obtain ⟨c, tail, rfl, hc⟩ := exists_isWordChar hb hs hidentifier
    have hhead := escapeHead?_keyword hb hs ha
    have hkeep : (if k.dropsBlanks then trimStart (c :: tail) else c :: tail) = c :: tail := by
      rw [trimStart_cons_of_not_isBlank (isBlank_eq_false_of_isWordChar hc), ite_self]
    have hne : blanks ++ spelling ≠ [] := by
      obtain ⟨d, rest, rfl, -⟩ := hs.exists_cons
      simp
    have hopen : c ≠ '\x7b' := ne_of_isWordChar hc (by decide)
    rw [hkeep, ← List.append_assoc] at hhead
    rw [← List.append_assoc, scan_openEscape hne hhead,
      scan_code_cons (ne_of_isWordChar hc (by decide)) hopen (ne_of_isWordChar hc (by decide))]
    cases k <;> simp [nativeChars, Piece.chars, Keyword.native, hopen]
  | functionCall hm he hc hs ha =>
    rw [scan_openBrace, escapeHead?_functionCall hm he hc hs ha]
    simp [nativeChars, Piece.chars]

/-! ## Places of code -/

/-- The suffixes of a text that start in code, those included that start with the first character
of a quoted run or of a comment. -/
def codeSuffixes : Place → List Char → List (List Char)
  | _, [] => []
  | .quoted quote, c :: rest => codeSuffixes (if c = quote then .code else .quoted quote) rest
  | .lineComment, c :: rest => codeSuffixes (if c = '\n' then .code else .lineComment) rest
  | .blockComment, '*' :: '/' :: rest => codeSuffixes .code rest
  | .blockComment, _ :: rest => codeSuffixes .blockComment rest
  | .code, '-' :: '-' :: rest => ('-' :: '-' :: rest) :: codeSuffixes .lineComment rest
  | .code, '/' :: '*' :: rest => ('/' :: '*' :: rest) :: codeSuffixes .blockComment rest
  | .code, c :: rest =>
    (c :: rest) :: codeSuffixes (if c = '\'' ∨ c = '"' then .quoted c else .code) rest

/-- What stands behind the open braces of a text that are code. -/
def behindBraces (s : List Char) : List (List Char) :=
  (codeSuffixes .code s).filterMap fun
    | '\x7b' :: after => some after
    | _ => none

/-- An open brace of code is one with which a suffix of code starts. -/
theorem mem_behindBraces {s after : List Char} :
    after ∈ behindBraces s ↔ '\x7b' :: after ∈ codeSuffixes .code s := by
  rw [behindBraces, List.mem_filterMap]
  constructor
  · rintro ⟨t, ht, heq⟩
    split at heq
    · cases heq
      exact ht
    · cases heq
  · intro h
    exact ⟨_, h, rfl⟩

/-- The suffixes that start in code, of a text that is scanned from a mode on. -/
def suffixesFrom : Mode → List Char → List (List Char)
  | .quoted quote, s => codeSuffixes (.quoted quote) s
  | .lineComment, s => codeSuffixes .lineComment s
  | .blockComment, s => codeSuffixes .blockComment s
  -- The star that ends a block comment counts together with the slash.
  | .commentEnd, s => codeSuffixes .blockComment ('*' :: s)
  | .code, s => codeSuffixes .code s
  | .escapeHead _, s => codeSuffixes .code s

theorem mem_codeSuffixes_self (c : Char) (rest : List Char) :
    c :: rest ∈ codeSuffixes .code (c :: rest) := by
  unfold codeSuffixes
  split <;> simp_all

/-- A character that does not end a block comment is passed over. -/
theorem codeSuffixes_blockComment_cons {c : Char} {rest : List Char}
    (h : ¬(c = '*' ∧ rest.head? = some '/')) :
    codeSuffixes .blockComment (c :: rest) = codeSuffixes .blockComment rest := by
  rw [codeSuffixes]
  rintro after rfl rfl
  exact h ⟨rfl, rfl⟩

/-- The scanner goes on from a character of code as SQL does, if no comment starts with a slash. -/
theorem codeSuffixes_code_cons {c : Char} {rest : List Char}
    (hslash : ¬['/', '*', '/'] <+: c :: rest) :
    codeSuffixes .code (c :: rest) = (c :: rest) :: suffixesFrom (modeAfter c rest.head?) rest := by
  by_cases hquote : c = '\'' ∨ c = '"'
  · rw [modeAfter, if_pos hquote]
    rcases hquote with rfl | rfl <;> rfl
  by_cases hline : c = '-' ∧ rest.head? = some '-'
  · rw [modeAfter, if_neg hquote, if_pos hline]
    obtain ⟨rfl, hnext⟩ := hline
    obtain ⟨rest, rfl⟩ := List.head?_eq_some_iff.1 hnext
    rfl
  by_cases hblock : c = '/' ∧ rest.head? = some '*'
  · rw [modeAfter, if_neg hquote, if_neg hline, if_pos hblock]
    obtain ⟨rfl, hnext⟩ := hblock
    obtain ⟨rest, rfl⟩ := List.head?_eq_some_iff.1 hnext
    -- The star that opens the comment ends it only before a slash, which is ruled out.
    have hstay : ¬('*' = '*' ∧ rest.head? = some '/') := by
      rintro ⟨-, hhead⟩
      obtain ⟨rest, rfl⟩ := List.head?_eq_some_iff.1 hhead
      exact hslash ⟨rest, rfl⟩
    rw [suffixesFrom, codeSuffixes_blockComment_cons hstay]
    rfl
  · rw [modeAfter, if_neg hquote, if_neg hline, if_neg hblock, codeSuffixes, if_neg hquote]
    · rfl
    · rintro after rfl rfl
      exact hline ⟨rfl, rfl⟩
    · rintro after rfl rfl
      exact hblock ⟨rfl, rfl⟩

/-! ## Keeping braces -/

/-- No suffix starts with a comment whose body starts with a slash, or with a brace that names an
escape. -/
def Unnamed (suffixes : List (List Char)) : Prop :=
  ∀ t ∈ suffixes, ¬['/', '*', '/'] <+: t ∧
    ∀ after, t = '\x7b' :: after → ¬NamesEscape leadingIdentifier after

/-- A text is kept by a scan exactly if its braces are. -/
def KeptWithBraces (mode : Mode) (braces : List Bool) (s : List Char) : Prop :=
  nativeChars (scan mode braces s) = s ↔
    ∀ after, '\x7b' :: after ∈ suffixesFrom mode s → ¬NamesEscape leadingWord after

/-- A character that is kept and is no open brace of code adds nothing to what has to be kept. -/
theorem KeptWithBraces.cons {mode behind : Mode} {braces stack : List Bool} {c : Char}
    {rest : List Char} (h : KeptWithBraces behind stack rest)
    (hscan : nativeChars (scan mode braces (c :: rest)) = c :: nativeChars (scan behind stack rest))
    (hsuffixes : ∀ after, '\x7b' :: after ∈ suffixesFrom mode (c :: rest) ↔
      '\x7b' :: after ∈ suffixesFrom behind rest) : KeptWithBraces mode braces (c :: rest) := by
  rw [KeptWithBraces, hscan, List.cons_inj_right]
  simp only [hsuffixes]
  exact h

/-- A character of code that opens no brace is kept where no escape is open. -/
theorem exists_nativeChars_scan_cons {braces : List Bool} {c : Char} (hbraces : true ∉ braces)
    (hopen : c ≠ '\x7b') (rest : List Char) :
    ∃ stack, true ∉ stack ∧ nativeChars (scan .code braces (c :: rest)) =
      c :: nativeChars (scan (modeAfter c rest.head?) stack rest) := by
  by_cases hmark : c = '?'
  · subst hmark
    exact ⟨braces, hbraces, rfl⟩
  by_cases hclose : c = '\x7d'
  · subst hclose
    -- A closing brace is only left out if the innermost open brace belongs to an escape.
    rcases braces with _ | ⟨_ | _, braces⟩
    · exact ⟨[], hbraces, rfl⟩
    · exact ⟨braces, List.not_mem_of_not_mem_cons hbraces, rfl⟩
    · exact absurd List.mem_cons_self hbraces
  · refine ⟨braces, hbraces, ?_⟩
    rw [scan_code_cons hmark hopen hclose]
    rfl

/-- If what stands behind a character of code is kept with its braces, the text from that character
on is. -/
theorem keptWithBraces_code {braces : List Bool} {c : Char} {rest : List Char}
    (hbraces : true ∉ braces) (hunnamed : Unnamed (codeSuffixes .code (c :: rest)))
    (ih : ∀ stack, true ∉ stack → Unnamed (suffixesFrom (modeAfter c rest.head?) rest) →
      KeptWithBraces (modeAfter c rest.head?) stack rest) :
    KeptWithBraces .code braces (c :: rest) := by
  have hslash : ¬['/', '*', '/'] <+: c :: rest := (hunnamed _ (mem_codeSuffixes_self c rest)).1
  have hsuffixes : suffixesFrom .code (c :: rest) =
      (c :: rest) :: suffixesFrom (modeAfter c rest.head?) rest := codeSuffixes_code_cons hslash
  rw [Unnamed, codeSuffixes_code_cons hslash, List.forall_mem_cons] at hunnamed
  obtain ⟨⟨-, hname⟩, hrest⟩ := hunnamed
  by_cases hopen : c = '\x7b'
  · subst hopen
    have hmode : modeAfter '\x7b' rest.head? = .code := by simp [modeAfter]
    rw [hmode] at ih hsuffixes hrest
    rw [KeptWithBraces, hsuffixes]
    -- Here the two words may differ: the identifier names no escape, and the letters may name one.
    by_cases hword : NamesEscape leadingWord rest
    · -- The brace is taken for the one of an escape and left out.
      have hhead := head?_scan_unnamed hword (hname rest rfl) braces
      constructor
      · intro heq
        rw [heq] at hhead
        exact absurd rfl hhead
      · intro hkept
        exact absurd hword (hkept rest List.mem_cons_self)
    · have hkept : nativeChars (scan .code (false :: braces) rest) = rest ↔ _ :=
        ih (false :: braces) (by simpa using hbraces) hrest
      have hscan : nativeChars (scan .code braces ('\x7b' :: rest)) =
          '\x7b' :: nativeChars (scan .code (false :: braces) rest) := by
        rw [scan_openOther (mt namesEscape_leadingWord_iff.2 hword)]
        rfl
      rw [hscan, List.cons_inj_right, hkept]
      simp [hword]
  · obtain ⟨stack, hstack, hscan⟩ := exists_nativeChars_scan_cons hbraces hopen rest
    refine (ih stack hstack hrest).cons hscan fun after => ?_
    rw [hsuffixes, List.mem_cons]
    exact or_iff_right fun heq => hopen (List.cons.inj heq).1.symm

/-- A scan in this mode stands where SQL stands: in no head of an escape, and at the end of a
comment only before its slash. -/
def InStep : Mode → List Char → Prop
  | .escapeHead _, _ => False
  | .commentEnd, s => s.head? = some '/'
  | _, _ => True

/-- Behind a character of code, the scan stands where SQL stands. -/
theorem inStep_modeAfter (c : Char) (next : Option Char) (s : List Char) :
    InStep (modeAfter c next) s := by
  unfold modeAfter
  split
  · trivial
  split
  · trivial
  split <;> trivial

/-- A text without named escapes is kept exactly if its braces are. -/
theorem keptWithBraces {mode : Mode} {braces : List Bool} {s : List Char} (hstep : InStep mode s)
    (hbraces : true ∉ braces) (hunnamed : Unnamed (suffixesFrom mode s)) :
    KeptWithBraces mode braces s := by
  -- By induction on the text; no brace is open that belongs to an escape.
  induction s generalizing mode braces with
  | nil =>
    have hnone : suffixesFrom mode [] = [] := by cases mode <;> rfl
    simp [KeptWithBraces, scan, nativeChars, hnone]
  | cons c rest ih =>
    cases mode with
    | escapeHead left => exact hstep.elim
    | quoted quote =>
      -- No suffix of code starts inside a quoted run.
      have hsuffixes : suffixesFrom (.quoted quote) (c :: rest) =
          suffixesFrom (if c = quote then .code else .quoted quote) rest := by
        rw [suffixesFrom, codeSuffixes]
        split <;> rfl
      have hbehind : KeptWithBraces (if c = quote then .code else .quoted quote) braces rest :=
        ih (by split <;> trivial) hbraces (hsuffixes ▸ hunnamed)
      exact hbehind.cons rfl fun _ => by rw [hsuffixes]
    | lineComment =>
      have hsuffixes : suffixesFrom .lineComment (c :: rest) =
          suffixesFrom (if c = '\n' then .code else .lineComment) rest := by
        rw [suffixesFrom, codeSuffixes]
        split <;> rfl
      have hbehind : KeptWithBraces (if c = '\n' then .code else .lineComment) braces rest :=
        ih (by split <;> trivial) hbraces (hsuffixes ▸ hunnamed)
      exact hbehind.cons rfl fun _ => by rw [hsuffixes]
    | blockComment =>
      -- SQL ends a comment with both characters at once, and the scanner with one after the other.
      by_cases hstop : c = '*' ∧ rest.head? = some '/'
      · obtain ⟨rfl, hnext⟩ := hstop
        have hscan : nativeChars (scan .blockComment braces ('*' :: rest)) =
            '*' :: nativeChars (scan .commentEnd braces rest) := by
          rw [scan_blockComment_cons, if_pos ⟨rfl, hnext⟩]
          rfl
        have hbehind : KeptWithBraces .commentEnd braces rest :=
          ih hnext hbraces hunnamed
        exact hbehind.cons hscan fun _ => Iff.rfl
      · have hscan : nativeChars (scan .blockComment braces (c :: rest)) =
            c :: nativeChars (scan .blockComment braces rest) := by
          rw [scan_blockComment_cons, if_neg hstop]
          rfl
        have hsuffixes : suffixesFrom .blockComment (c :: rest) = suffixesFrom .blockComment rest :=
          codeSuffixes_blockComment_cons hstop
        have hbehind : KeptWithBraces .blockComment braces rest :=
          ih trivial hbraces (hsuffixes ▸ hunnamed)
        exact hbehind.cons hscan fun _ => by rw [hsuffixes]
    | commentEnd =>
      obtain rfl : c = '/' := Option.some.inj hstep
      have hbehind : KeptWithBraces .code braces rest := ih trivial hbraces hunnamed
      exact hbehind.cons rfl fun _ => Iff.rfl
    | code =>
      exact keptWithBraces_code hbraces hunnamed fun stack hstack hrest =>
        ih (inStep_modeAfter c rest.head? rest) hstack hrest

/-- A text without named escapes, none of whose block comments starts with a slash, is unchanged
exactly if behind no brace the leading letters name an escape. -/
theorem nativeSql_eq_self_iff {sql : String}
    (hname : ∀ after ∈ behindBraces sql.toList, ¬NamesEscape leadingIdentifier after)
    (hslash : ∀ t ∈ codeSuffixes .code sql.toList, ¬['/', '*', '/'] <+: t) :
    Statement.nativeSql sql = sql ↔
      ∀ after ∈ behindBraces sql.toList, ¬NamesEscape leadingWord after := by
  -- Both conditions are put together for each suffix.
  have hunnamed : Unnamed (suffixesFrom .code sql.toList) := by
    intro t ht
    refine ⟨hslash t ht, ?_⟩
    rintro after rfl
    exact hname after (mem_behindBraces.2 ht)
  have hkept : KeptWithBraces .code [] sql.toList :=
    keptWithBraces trivial List.not_mem_nil hunnamed
  simp only [mem_behindBraces]
  rw [← String.toList_inj, Statement.nativeSql, String.toList_ofList]
  exact hkept

/-- Braces in braces and braces without a partner, one behind a longer word than a keyword, and
keywords in a quoted run and in a comment. -/
theorem nativeSql_eq_self_nested :
    let sql := "SELECT \x7bx \x7b dx\x7d, \x7b? = callx\x7d\x7d \x7d '\x7bd' /* \x7bt\x7d */ \x7b"
    (∀ after ∈ behindBraces sql.toList, ¬NamesEscape leadingIdentifier after) ∧
      (∀ t ∈ codeSuffixes .code sql.toList, ¬['/', '*', '/'] <+: t) ∧
      Statement.nativeSql sql = sql := by
  intro sql
  have hname : ∀ after ∈ behindBraces sql.toList, ¬NamesEscape leadingIdentifier after := by decide
  have hslash : ∀ t ∈ codeSuffixes .code sql.toList, ¬['/', '*', '/'] <+: t := by decide
  exact ⟨hname, hslash, (nativeSql_eq_self_iff hname hslash).2 (by decide)⟩

/-- A digit behind a keyword makes another word of it, but the scanner rewrites it. -/
theorem nativeSql_digit_behind_keyword :
    let sql := "SELECT \x7bt1\x7d FROM t"
    (∀ after ∈ behindBraces sql.toList, ¬NamesEscape leadingIdentifier after) ∧
      (∀ t ∈ codeSuffixes .code sql.toList, ¬['/', '*', '/'] <+: t) ∧
      Statement.nativeSql sql = "SELECT TIME1 FROM t" ∧ Statement.nativeSql sql ≠ sql := by
  decide

end SqlAccess.Escape
