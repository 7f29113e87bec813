import Mathlib.Data.List.TakeWhile
import SqlAccess.Proofs.Text.Digits
import SqlAccess.Statement.Escape

/-!
# Laws of the scanner

What scanning gives on each kind of text that may stand at one place of a statement, whatever text
follows it and whatever braces are open around it: quoted runs, comments, heads of escapes, braces
and all other characters.

`StartsEscape` says on its own which texts start an escape, and `startsEscape_iff` says that the
scanner takes exactly these for one.
-/

namespace SqlAccess.Escape

open SqlAccess.Text

/-! ## Heads of escapes -/

/-- The keyword of an escape. -/
inductive Keyword
  | call
  | date
  | time
  | timestamp
  | likeEscape
  | function
  | outerJoin
deriving DecidableEq

namespace Keyword

/-- The keyword as clients write it, in lower case. -/
def word : Keyword → List Char
  | call => "call".toList
  | date => "d".toList
  | time => "t".toList
  | timestamp => "ts".toList
  | likeEscape => "escape".toList
  | function => "fn".toList
  | outerJoin => "oj".toList

/-- What the engine reads in place of the keyword. -/
def native : Keyword → String
  | call => "CALL"
  | date => "DATE"
  | time => "TIME"
  | timestamp => "TIMESTAMP"
  | likeEscape => "ESCAPE"
  | function => ""
  | outerJoin => ""

/-- The blanks after the keyword go with it. -/
def dropsBlanks : Keyword → Bool
  | function => true
  | outerJoin => true
  | _ => false

/-- A word is spelled in some letter case. -/
def IsSpelling (k : Keyword) (spelling : List Char) : Prop :=
  spelling.map Char.toLower = k.word
deriving Decidable

end Keyword

/-- All characters of a text are blanks. -/
def AllBlank (s : List Char) : Prop :=
  ∀ c ∈ s, isBlank c = true

instance (s : List Char) : Decidable (AllBlank s) :=
  decidable_of_iff (s.all isBlank = true) List.all_eq_true

/-- The text starts with an ASCII letter. -/
def StartsWithLetter (s : List Char) : Prop :=
  ∃ c ∈ s.head?, c.isAlpha = true

instance (s : List Char) : Decidable (StartsWithLetter s) :=
  decidable_of_iff (s.head?.any Char.isAlpha = true) (Option.any_eq_true ..)

/-- The text starts, maybe after blanks, with the head of an escape. -/
inductive StartsEscape : List Char → Prop
  | keyword {blanks spelling after : List Char} (k : Keyword) :
      AllBlank blanks → k.IsSpelling spelling → ¬StartsWithLetter after →
      StartsEscape (blanks ++ (spelling ++ after))
  | functionCall {beforeMark beforeEquals beforeCall spelling after : List Char} :
      AllBlank beforeMark → AllBlank beforeEquals → AllBlank beforeCall →
      Keyword.call.IsSpelling spelling → ¬StartsWithLetter after →
      StartsEscape
        (beforeMark ++ '?' :: (beforeEquals ++ '=' :: (beforeCall ++ (spelling ++ after))))

/-! ## Blanks and words -/

/-- What is a small letter in lower case is a letter. -/
theorem isAlpha_of_isLower_toLower {c : Char} (h : c.toLower.isLower = true) :
    c.isAlpha = true := by
  have halpha (h : c.isUpper = true ∨ c.isLower = true) : c.isAlpha = true :=
    Bool.or_eq_true_iff.2 h
  -- Lower case only changes upper-case letters.
  unfold Char.toLower at h
  split at h
  · next hc => exact halpha (.inl (decide_eq_true hc))
  · exact halpha (.inr h)

theorem Keyword.isLower_of_mem_word {k : Keyword} {c : Char} (h : c ∈ k.word) :
    c.isLower = true := by
  have hall : k.word.all Char.isLower = true := by cases k <;> decide
  exact List.all_eq_true.1 hall c h

/-- A keyword is spelled with letters only. -/
theorem Keyword.IsSpelling.isAlpha {k : Keyword} {spelling : List Char} (h : k.IsSpelling spelling)
    {c : Char} (hc : c ∈ spelling) : c.isAlpha = true := by
  apply isAlpha_of_isLower_toLower
  apply k.isLower_of_mem_word
  rw [← h]
  exact List.mem_map_of_mem hc

/-- A text that does not start with a letter has no leading word. -/
theorem takeWhile_isAlpha_eq_nil {s : List Char} (h : ¬StartsWithLetter s) :
    s.takeWhile Char.isAlpha = [] ∧ s.dropWhile Char.isAlpha = s := by
  cases s with
  | nil => exact ⟨rfl, rfl⟩
  | cons c rest =>
    have hc : ¬c.isAlpha = true := fun hc => h ⟨c, rfl, hc⟩
    simp [hc]

/-- Behind the leading word there is no letter. -/
theorem not_startsWithLetter_afterWord (s : List Char) : ¬StartsWithLetter (afterWord s) := by
  rintro ⟨c, heq, hc⟩
  -- The first character that is left is the one that stopped the word.
  have h := List.head?_dropWhile_not Char.isAlpha s
  rw [show (s.dropWhile Char.isAlpha).head? = some c from heq] at h
  simp [hc] at h

/-- A spelled keyword is the leading word. -/
theorem leadingWord_append {k : Keyword} {spelling after : List Char} (h : k.IsSpelling spelling)
    (ha : ¬StartsWithLetter after) :
    leadingWord (spelling ++ after) = k.word ∧ afterWord (spelling ++ after) = after := by
  have hall : ∀ c ∈ spelling, c.isAlpha = true := fun c hc => h.isAlpha hc
  obtain ⟨htake, hdrop⟩ := takeWhile_isAlpha_eq_nil ha
  constructor
  · rw [leadingWord, List.takeWhile_append_of_pos hall, htake, List.append_nil]
    exact h
  · rw [afterWord, List.dropWhile_append_of_pos hall, hdrop]

/-- A keyword that is the leading word stands there in some spelling. -/
theorem exists_spelling_leadingWord {k : Keyword} {s : List Char} (h : leadingWord s = k.word) :
    ∃ spelling, k.IsSpelling spelling ∧ s = spelling ++ afterWord s :=
  ⟨s.takeWhile Char.isAlpha, h, List.takeWhile_append_dropWhile.symm⟩

/-! ## Recognising heads -/

theorem nativeKeyword?_word (k : Keyword) :
    nativeKeyword? k.word = some (k.native, k.dropsBlanks) := by
  cases k <;> decide

/-- Only keywords have native words. -/
theorem exists_keyword_of_nativeKeyword? {word : List Char} {r : String × Bool}
    (h : nativeKeyword? word = some r) : ∃ k : Keyword, word = k.word := by
  have hword (s : String) (hs : String.ofList word = s) : word = s.toList := by
    rw [← hs, String.toList_ofList]
  unfold nativeKeyword? at h
  split at h
  · next hs => exact ⟨.call, hword _ hs⟩
  · next hs => exact ⟨.date, hword _ hs⟩
  · next hs => exact ⟨.time, hword _ hs⟩
  · next hs => exact ⟨.timestamp, hword _ hs⟩
  · next hs => exact ⟨.likeEscape, hword _ hs⟩
  · next hs => exact ⟨.function, hword _ hs⟩
  · next hs => exact ⟨.outerJoin, hword _ hs⟩
  · cases h

theorem toNat_of_isAlpha {c : Char} (h : c.isAlpha = true) :
    65 ≤ c.toNat ∧ c.toNat ≤ 90 ∨ 97 ≤ c.toNat ∧ c.toNat ≤ 122 := by
  rcases Bool.or_eq_true_iff.1 h with hupper | hlower
  · obtain ⟨hleast, hgreatest⟩ := of_decide_eq_true hupper
    exact .inl ⟨UInt32.le_iff_toNat_le.1 hleast, UInt32.le_iff_toNat_le.1 hgreatest⟩
  · obtain ⟨hleast, hgreatest⟩ := Bool.and_eq_true_iff.1 hlower
    exact .inr ⟨UInt32.le_iff_toNat_le.1 (of_decide_eq_true hleast),
      UInt32.le_iff_toNat_le.1 (of_decide_eq_true hgreatest)⟩

theorem isBlank_eq_false_of_isAlpha {c : Char} (h : c.isAlpha = true) : isBlank c = false := by
  have hrange := toNat_of_isAlpha h
  simp only [isBlank, Bool.or_eq_false_iff, Bool.and_eq_false_iff, decide_eq_false_iff_not,
    beq_eq_false_iff_ne]
  omega

theorem Keyword.IsSpelling.exists_cons {k : Keyword} {spelling : List Char}
    (h : k.IsSpelling spelling) : ∃ c rest, spelling = c :: rest ∧ c.isAlpha = true := by
  cases spelling with
  | nil =>
    have hword : k.word = [] := h.symm
    cases k <;> cases hword
  | cons c rest => exact ⟨c, rest, rfl, h.isAlpha List.mem_cons_self⟩

theorem trimStart_spelling {k : Keyword} {spelling : List Char} (h : k.IsSpelling spelling)
    (after : List Char) : trimStart (spelling ++ after) = spelling ++ after := by
  obtain ⟨c, rest, rfl, hc⟩ := h.exists_cons
  exact trimStart_cons_of_not_isBlank (isBlank_eq_false_of_isAlpha hc) _

/-- A keyword after blanks is the head of an escape. -/
theorem escapeHead?_keyword {blanks spelling after : List Char} {k : Keyword}
    (hb : AllBlank blanks) (hs : k.IsSpelling spelling) (ha : ¬StartsWithLetter after) :
    escapeHead? (blanks ++ (spelling ++ after)) =
      some (k.native, if k.dropsBlanks then trimStart after else after) := by
  have htrim : trimStart (blanks ++ (spelling ++ after)) = spelling ++ after := by
    rw [trimStart_append hb, trimStart_spelling hs]
  -- The text starts with a letter, so that it is not taken for a function call.
  have hmark : (spelling ++ after).head? ≠ some '?' := by
    obtain ⟨c, rest, rfl, hc⟩ := hs.exists_cons
    rintro ⟨⟩
    exact absurd hc (by decide)
  obtain ⟨hword, hafter⟩ := leadingWord_append hs ha
  simp only [escapeHead?, htrim, if_neg hmark, hword, hafter, nativeKeyword?_word, Option.map_some]

/-- A marker, an equals sign and the keyword `call` are the head of an escape. -/
theorem escapeHead?_functionCall {beforeMark beforeEquals beforeCall spelling after : List Char}
    (hm : AllBlank beforeMark) (he : AllBlank beforeEquals) (hc : AllBlank beforeCall)
    (hs : Keyword.call.IsSpelling spelling) (ha : ¬StartsWithLetter after) :
    escapeHead?
        (beforeMark ++ '?' :: (beforeEquals ++ '=' :: (beforeCall ++ (spelling ++ after)))) =
      some ("CALL", after) := by
  obtain ⟨hword, hafter⟩ := leadingWord_append hs ha
  have hcall : leadingWord (spelling ++ after) = "call".toList := hword
  have hhead : functionCallHead?
      ('?' :: (beforeEquals ++ '=' :: (beforeCall ++ (spelling ++ after)))) = some after := by
    simp only [functionCallHead?, trimStart_append he, trimStart_append hc, trimStart_spelling hs,
      trimStart_cons_of_not_isBlank (show isBlank '=' = false by decide), hcall, if_true, hafter]
  simp only [escapeHead?, trimStart_append hm,
    trimStart_cons_of_not_isBlank (show isBlank '?' = false by decide), List.head?_cons, if_true,
    hhead, Option.map_some]

/-- What is taken for the head of a function call is one. -/
theorem startsEscape_of_functionCallHead? {blanks s after : List Char} (hb : AllBlank blanks)
    (h : functionCallHead? s = some after) : StartsEscape (blanks ++ s) := by
  -- Each test that succeeds gives the next part of the head.
  unfold functionCallHead? at h
  split at h
  · next s₁ =>
    obtain ⟨beforeEquals, he, hs₁⟩ := exists_blanks_trimStart s₁
    split at h
    · next s₂ heq =>
      obtain ⟨beforeCall, hc, hs₂⟩ := exists_blanks_trimStart s₂
      dsimp only at h
      split at h
      · next hword =>
        obtain ⟨spelling, hsp, hs₃⟩ := exists_spelling_leadingWord (k := .call) hword
        rw [hs₁, heq, hs₂, hs₃]
        exact .functionCall hb he hc hsp (not_startsWithLetter_afterWord _)
      · cases h
    · cases h
  · cases h

/-- What is taken for the head of an escape is one. -/
theorem startsEscape_of_escapeHead? {s after : List Char} {word : String}
    (h : escapeHead? s = some (word, after)) : StartsEscape s := by
  obtain ⟨blanks, hb, hs⟩ := exists_blanks_trimStart s
  rw [hs]
  unfold escapeHead? at h
  dsimp only at h
  split at h
  · -- A mark can only start the head of a function call.
    obtain ⟨rest, hrest, -⟩ := Option.map_eq_some_iff.1 h
    exact startsEscape_of_functionCallHead? hb hrest
  · -- Any other head starts with a word that names an escape.
    obtain ⟨r, hr, -⟩ := Option.map_eq_some_iff.1 h
    obtain ⟨k, hk⟩ := exists_keyword_of_nativeKeyword? hr
    obtain ⟨spelling, hsp, hs'⟩ := exists_spelling_leadingWord hk
    rw [hs']
    exact .keyword k hb hsp (not_startsWithLetter_afterWord _)

/-- The scanner recognises the heads of escapes exactly. -/
theorem startsEscape_iff {s : List Char} : StartsEscape s ↔ (escapeHead? s).isSome = true := by
  constructor
  · rintro (⟨k, hb, hs, ha⟩ | ⟨hm, he, hc, hs, ha⟩)
    · rw [escapeHead?_keyword hb hs ha]
      rfl
    · rw [escapeHead?_functionCall hm he hc hs ha]
      rfl
  · intro h
    obtain ⟨⟨word, after⟩, hhead⟩ := Option.isSome_iff_exists.1 h
    exact startsEscape_of_escapeHead? hhead

instance : DecidablePred StartsEscape :=
  fun _ => decidable_of_iff _ startsEscape_iff.symm

/-! ## One step -/

theorem scan_marker (braces : List Bool) (rest : List Char) :
    scan .code braces ('?' :: rest) = .marker :: scan .code braces rest := rfl

theorem scan_quoted_cons (quote c : Char) (braces : List Bool) (rest : List Char) :
    scan (.quoted quote) braces (c :: rest) =
      .verbatim c :: scan (if c = quote then .code else .quoted quote) braces rest := rfl

theorem scan_lineComment_cons (c : Char) (braces : List Bool) (rest : List Char) :
    scan .lineComment braces (c :: rest) =
      .verbatim c :: scan (if c = '\n' then .code else .lineComment) braces rest := rfl

theorem scan_blockComment_cons (c : Char) (braces : List Bool) (rest : List Char) :
    scan .blockComment braces (c :: rest) =
      .verbatim c ::
        scan (if c = '*' ∧ rest.head? = some '/' then .commentEnd else .blockComment) braces
          rest := rfl

theorem scan_openBrace (braces : List Bool) (rest : List Char) :
    scan .code braces ('\x7b' :: rest) =
      match escapeHead? rest with
      | some (word, afterHead) =>
        .keyword word ::
          scan (.escapeHead (rest.length - afterHead.length - 1)) (true :: braces) rest
      | none => .verbatim '\x7b' :: scan .code (false :: braces) rest := rfl

theorem scan_closeEscape (braces : List Bool) (rest : List Char) :
    scan .code (true :: braces) ('\x7d' :: rest) = scan .code braces rest := rfl

theorem scan_closeBrace (braces : List Bool) (rest : List Char) :
    scan .code (false :: braces) ('\x7d' :: rest) =
      .verbatim '\x7d' :: scan .code braces rest := rfl

theorem scan_plain {c : Char} {rest : List Char} (hmark : c ≠ '?') (hopen : c ≠ '\x7b')
    (hclose : c ≠ '\x7d') (hmode : modeAfter c rest.head? = .code) (braces : List Bool) :
    scan .code braces (c :: rest) = .verbatim c :: scan .code braces rest := by
  rw [scan, hmode] <;> simp_all

/-! ## Quoted runs and comments -/

/-- The body of a quoted run, with its quotes written twice. -/
def doubled (quote : Char) (body : List Char) : List Char :=
  body.flatMap fun c => if c = quote then [quote, quote] else [c]

/-- A quote opens a run that ends at the same quote. -/
theorem scan_quote {quote : Char} (hquote : quote = '\'' ∨ quote = '"') (braces : List Bool)
    (rest : List Char) :
    scan .code braces (quote :: rest) = .verbatim quote :: scan (.quoted quote) braces rest := by
  rcases hquote with rfl | rfl <;> rfl

/-- A quoted run is kept up to its last quote. -/
theorem scan_quoted_body {quote : Char} (hquote : quote = '\'' ∨ quote = '"') (body : List Char)
    (braces : List Bool) (rest : List Char) :
    scan (.quoted quote) braces (doubled quote body ++ quote :: rest) =
      (doubled quote body ++ [quote]).map .verbatim ++ scan .code braces rest := by
  induction body with
  | nil =>
    rw [show doubled quote [] = [] from rfl, List.nil_append, scan_quoted_cons, if_pos rfl]
    rfl
  | cons c body ih =>
    by_cases hc : c = quote
    · -- The first of two quotes ends the run, and the second one opens it again.
      have hdoubled : doubled quote (c :: body) = quote :: quote :: doubled quote body := by
        simp [doubled, hc]
      rw [hdoubled, List.cons_append, scan_quoted_cons, if_pos rfl, List.cons_append,
        scan_quote hquote, ih]
      rfl
    · have hdoubled : doubled quote (c :: body) = c :: doubled quote body := by
        simp [doubled, hc]
      rw [hdoubled, List.cons_append, scan_quoted_cons, if_neg hc, ih]
      rfl

/-- A quoted run is kept, whatever is in it. -/
theorem scan_quoted {quote : Char} (hquote : quote = '\'' ∨ quote = '"') (body : List Char)
    (braces : List Bool) (rest : List Char) :
    scan .code braces (quote :: (doubled quote body ++ quote :: rest)) =
      (quote :: (doubled quote body ++ [quote])).map .verbatim ++ scan .code braces rest := by
  rw [scan_quote hquote, scan_quoted_body hquote]
  rfl

/-- A line comment is kept up to the end of its line. -/
theorem scan_lineComment_body {body : List Char} (h : '\n' ∉ body) (braces : List Bool)
    (rest : List Char) :
    scan .lineComment braces (body ++ '\n' :: rest) =
      (body ++ ['\n']).map .verbatim ++ scan .code braces rest := by
  induction body with
  | nil =>
    rw [List.nil_append, scan_lineComment_cons, if_pos rfl]
    rfl
  | cons c body ih =>
    -- No character of the body ends the line.
    obtain ⟨hc, hbody⟩ := not_or.1 (List.mem_cons.not.1 h)
    rw [List.cons_append, scan_lineComment_cons, if_neg (Ne.symm hc), ih hbody]
    rfl

/-- A line comment is kept, whatever is in it. -/
theorem scan_lineComment {body : List Char} (h : '\n' ∉ body) (braces : List Bool)
    (rest : List Char) :
    scan .code braces ('-' :: '-' :: (body ++ '\n' :: rest)) =
      ('-' :: '-' :: (body ++ ['\n'])).map .verbatim ++ scan .code braces rest := by
  have hopen : scan .code braces ('-' :: '-' :: (body ++ '\n' :: rest)) =
      .verbatim '-' :: .verbatim '-' :: scan .lineComment braces (body ++ '\n' :: rest) := rfl
  rw [hopen, scan_lineComment_body h]
  rfl

/-- A block comment is kept up to the first star before a slash. -/
theorem scan_blockComment_body {body : List Char} (h : ¬['*', '/'] <:+: body) (braces : List Bool)
    (rest : List Char) :
    scan .blockComment braces (body ++ '*' :: '/' :: rest) =
      (body ++ ['*', '/']).map .verbatim ++ scan .code braces rest := by
  induction body with
  | nil =>
    rw [List.nil_append, scan_blockComment_cons, if_pos ⟨rfl, rfl⟩]
    rfl
  | cons c body ih =>
    have hbody : ¬['*', '/'] <:+: body := fun hin => h (List.infix_cons hin)
    -- No star of the body stands before a slash, not even the last one.
    have hend : ¬(c = '*' ∧ (body ++ '*' :: '/' :: rest).head? = some '/') := by
      rintro ⟨rfl, hslash⟩
      cases body with
      | nil => simp at hslash
      | cons d body =>
        obtain rfl : d = '/' := by simpa using hslash
        exact h ⟨[], body, rfl⟩
    rw [List.cons_append, scan_blockComment_cons, if_neg hend, ih hbody]
    rfl

/-- A block comment is kept. The star that opens it does not end it. -/
theorem scan_blockComment {body : List Char} (h : ¬['*', '/'] <:+: body)
    (hslash : body.head? ≠ some '/') (braces : List Bool) (rest : List Char) :
    scan .code braces ('/' :: '*' :: (body ++ '*' :: '/' :: rest)) =
      ('/' :: '*' :: (body ++ ['*', '/'])).map .verbatim ++ scan .code braces rest := by
  -- The opening star is scanned as part of the comment, and a slash right after it would end it.
  have hstay : ¬('*' = '*' ∧ (body ++ '*' :: '/' :: rest).head? = some '/') := by
    rintro ⟨-, hhead⟩
    cases body with
    | nil => simp at hhead
    | cons c body => exact hslash hhead
  have hopen (text : List Char) :
      scan .code braces ('/' :: '*' :: text) =
        .verbatim '/' :: scan .blockComment braces ('*' :: text) := rfl
  rw [hopen, scan_blockComment_cons, if_neg hstay, scan_blockComment_body h]
  rfl

/-! ## Braces -/

/-- The characters of a head are passed over, and nothing is given for them. -/
theorem scan_escapeHead {head : List Char} {left : Nat} (h : head.length = left + 1)
    (braces : List Bool) (rest : List Char) :
    scan (.escapeHead left) braces (head ++ rest) = scan .code braces rest := by
  induction left generalizing head with
  | zero =>
    obtain ⟨c, rfl⟩ := List.length_eq_one_iff.1 h
    rfl
  | succ left ih =>
    cases head with
    | nil => cases h
    | cons c head => exact ih (Nat.succ.inj h)

/-- A brace with the head of an escape gives the keyword, and the brace is remembered as one to
drop. -/
theorem scan_openEscape {head rest : List Char} {word : String} (hne : head ≠ [])
    (h : escapeHead? (head ++ rest) = some (word, rest)) (braces : List Bool) :
    scan .code braces ('\x7b' :: (head ++ rest)) =
      .keyword word :: scan .code (true :: braces) rest := by
  -- The scanner counts the characters of the head by what is left after it.
  have hlength : head.length = (head ++ rest).length - rest.length - 1 + 1 := by
    have := List.length_pos_iff.2 hne
    simp only [List.length_append]
    omega
  rw [scan_openBrace, h]
  dsimp only
  rw [scan_escapeHead hlength]

/-- Any other brace is kept, and remembered as one to keep. -/
theorem scan_openOther {rest : List Char} (h : ¬StartsEscape rest) (braces : List Bool) :
    scan .code braces ('\x7b' :: rest) = .verbatim '\x7b' :: scan .code (false :: braces) rest := by
  have hnone : escapeHead? rest = none := by
    simpa using mt startsEscape_iff.2 h
  rw [scan_openBrace, hnone]

end SqlAccess.Escape
