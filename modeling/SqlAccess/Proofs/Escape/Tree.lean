import Mathlib.Data.List.Infix
import SqlAccess.Proofs.Escape.Scan
import SqlAccess.Statement

/-!
# Statement trees

A statement tree is what a client means by a statement with escapes: characters, markers, quoted
runs, comments, escapes and other pairs of braces, where escapes and pairs hold trees again. A tree
has a text that the client writes (`Tree.client`) and a text that the engine is meant to get
(`Tree.native`), and neither definition looks at the scanner.

The main result is that scanning is compositional: the native text of the client text of a tree is
the native text of the tree, at any nesting (`nativeSql_client`). It comes from one law for each
kind of piece (`Scanned`), put together by induction on the tree.
-/

namespace SqlAccess.Escape

open SqlAccess.Text

/-- A statement as a tree: a list of pieces, each held with the pieces after it. -/
inductive Tree
  /-- No further piece. -/
  | done
  /-- A character of code, other than a quote, a marker or a brace. -/
  | plain (c : Char) (rest : Tree)
  | marker (rest : Tree)
  /-- A quoted run, of which this is the body before its quotes are written twice. -/
  | quoted (quote : Char) (body : List Char) (rest : Tree)
  | lineComment (body : List Char) (rest : Tree)
  | blockComment (body : List Char) (rest : Tree)
  | escape (blanks : List Char) (k : Keyword) (spelling : List Char) (inner rest : Tree)
  /-- An escape that calls a function for its result. -/
  | functionCall (beforeMark beforeEquals beforeCall spelling : List Char) (inner rest : Tree)
  /-- A pair of braces that is no escape. -/
  | braces (inner rest : Tree)

namespace Tree

/-- The text that the client writes. -/
def client : Tree → List Char
  | done => []
  | plain c rest => c :: rest.client
  | marker rest => '?' :: rest.client
  | quoted quote body rest => quote :: (doubled quote body ++ quote :: rest.client)
  | lineComment body rest => '-' :: '-' :: (body ++ '\n' :: rest.client)
  | blockComment body rest => '/' :: '*' :: (body ++ '*' :: '/' :: rest.client)
  | escape blanks _ spelling inner rest =>
    '\x7b' :: (blanks ++ (spelling ++ (inner.client ++ '\x7d' :: rest.client)))
  | functionCall beforeMark beforeEquals beforeCall spelling inner rest =>
    '\x7b' :: (beforeMark ++ '?' :: (beforeEquals ++ '=' ::
      (beforeCall ++ (spelling ++ (inner.client ++ '\x7d' :: rest.client)))))
  | braces inner rest => '\x7b' :: (inner.client ++ '\x7d' :: rest.client)

/-- The text that the engine is meant to get. Blanks at the start are left out if they are to be
dropped. -/
def native (dropBlanks : Bool) : Tree → List Char
  | done => []
  | plain c rest =>
    if dropBlanks && isBlank c then rest.native true else c :: rest.native false
  | marker rest => '?' :: rest.native false
  | quoted quote body rest => quote :: (doubled quote body ++ quote :: rest.native false)
  | lineComment body rest => '-' :: '-' :: (body ++ '\n' :: rest.native false)
  | blockComment body rest => '/' :: '*' :: (body ++ '*' :: '/' :: rest.native false)
  | escape _ k _ inner rest =>
    k.native.toList ++ (inner.native k.dropsBlanks ++ rest.native false)
  | functionCall _ _ _ _ inner rest => "CALL".toList ++ (inner.native false ++ rest.native false)
  | braces inner rest => '\x7b' :: (inner.native false ++ '\x7d' :: rest.native false)

/-- The number of parameter markers. The mark in the head of a function call is none. -/
def markers : Tree → Nat
  | done => 0
  | plain _ rest => rest.markers
  | marker rest => 1 + rest.markers
  | quoted _ _ rest => rest.markers
  | lineComment _ rest => rest.markers
  | blockComment _ rest => rest.markers
  | escape _ _ _ inner rest => inner.markers + rest.markers
  | functionCall _ _ _ _ inner rest => inner.markers + rest.markers
  | braces inner rest => inner.markers + rest.markers

/-- The client text means the tree when some text follows it: no plain character starts a comment
there, comments and quoted runs end where they should, and an escape and another pair of braces
are not taken for each other. -/
def Readable (after : List Char) : Tree → Prop
  | done => True
  | plain c rest =>
    c ∉ ['\'', '"', '?', '\x7b', '\x7d'] ∧
      ¬['-', '-'] <+: c :: (rest.client ++ after) ∧ ¬['/', '*'] <+: c :: (rest.client ++ after) ∧
      rest.Readable after
  | marker rest => rest.Readable after
  | quoted quote _ rest => (quote = '\'' ∨ quote = '"') ∧ rest.Readable after
  | lineComment body rest => '\n' ∉ body ∧ rest.Readable after
  | blockComment body rest =>
    ¬['*', '/'] <:+: body ∧ body.head? ≠ some '/' ∧ rest.Readable after
  | escape blanks k spelling inner rest =>
    AllBlank blanks ∧ k.IsSpelling spelling ∧ ¬StartsWithLetter inner.client ∧
      inner.Readable ('\x7d' :: (rest.client ++ after)) ∧ rest.Readable after
  | functionCall beforeMark beforeEquals beforeCall spelling inner rest =>
    AllBlank beforeMark ∧ AllBlank beforeEquals ∧ AllBlank beforeCall ∧
      Keyword.call.IsSpelling spelling ∧ ¬StartsWithLetter inner.client ∧
      inner.Readable ('\x7d' :: (rest.client ++ after)) ∧ rest.Readable after
  | braces inner rest =>
    ¬StartsEscape inner.client ∧
      inner.Readable ('\x7d' :: (rest.client ++ after)) ∧ rest.Readable after

def decideReadable : (t : Tree) → (after : List Char) → Decidable (t.Readable after)
  | done, _ => .isTrue trivial
  | plain _ rest, after =>
    have := rest.decideReadable after
    inferInstanceAs (Decidable (_ ∧ _ ∧ _ ∧ rest.Readable after))
  | marker rest, after => rest.decideReadable after
  | quoted _ _ rest, after =>
    have := rest.decideReadable after
    inferInstanceAs (Decidable (_ ∧ rest.Readable after))
  | lineComment _ rest, after =>
    have := rest.decideReadable after
    inferInstanceAs (Decidable (_ ∧ rest.Readable after))
  | blockComment _ rest, after =>
    have := rest.decideReadable after
    inferInstanceAs (Decidable (_ ∧ _ ∧ rest.Readable after))
  | escape _ _ _ inner rest, after =>
    have := inner.decideReadable ('\x7d' :: (rest.client ++ after))
    have := rest.decideReadable after
    inferInstanceAs (Decidable (_ ∧ _ ∧ _ ∧ inner.Readable _ ∧ rest.Readable after))
  | functionCall _ _ _ _ inner rest, after =>
    have := inner.decideReadable ('\x7d' :: (rest.client ++ after))
    have := rest.decideReadable after
    inferInstanceAs (Decidable (_ ∧ _ ∧ _ ∧ _ ∧ _ ∧ inner.Readable _ ∧ rest.Readable after))
  | braces inner rest, after =>
    have := inner.decideReadable ('\x7d' :: (rest.client ++ after))
    have := rest.decideReadable after
    inferInstanceAs (Decidable (_ ∧ inner.Readable _ ∧ rest.Readable after))

instance (t : Tree) (after : List Char) : Decidable (t.Readable after) :=
  t.decideReadable after

end Tree

/-! ## Texts before a closing brace -/

/-- A text without a closing brace that starts another text before a closing brace is part of it. -/
theorem exists_append_of_append_eq {head tail s after : List Char} (hhead : '\x7d' ∉ head)
    (h : head ++ tail = s ++ '\x7d' :: after) :
    ∃ t, s = head ++ t ∧ tail = t ++ '\x7d' :: after := by
  -- Either the text ends inside the tail, or the head reaches to its end or past it.
  rcases List.append_eq_append_iff.1 h with ⟨t, hs, htail⟩ | ⟨t, hs, htail⟩
  · exact ⟨t, hs, htail⟩
  · cases t with
    | nil => exact ⟨[], by simpa using hs.symm, by simpa using htail.symm⟩
    | cons c t =>
      obtain rfl : '\x7d' = c := (List.cons.inj htail).1
      exact absurd (hs ▸ by simp) hhead

/-- A text starts with a letter if its front does. -/
theorem not_startsWithLetter_of_append {s after : List Char}
    (h : ¬StartsWithLetter (s ++ after)) : ¬StartsWithLetter s := by
  rintro ⟨c, heq, hc⟩
  exact h ⟨c, by simp [List.head?_append, show s.head? = some c from heq], hc⟩

/-- A closing brace behind a text is no letter either. -/
theorem not_startsWithLetter_append_brace {s : List Char} (h : ¬StartsWithLetter s)
    (after : List Char) : ¬StartsWithLetter (s ++ '\x7d' :: after) := by
  rintro ⟨c, heq, hc⟩
  cases s with
  | nil =>
    cases heq
    exact absurd hc (by decide)
  | cons d s => exact h ⟨c, heq, hc⟩

theorem AllBlank.brace_not_mem {s : List Char} (h : AllBlank s) : '\x7d' ∉ s :=
  fun hm => absurd (h _ hm) (by decide)

theorem Keyword.IsSpelling.brace_not_mem {k : Keyword} {s : List Char} (h : k.IsSpelling s) :
    '\x7d' ∉ s :=
  fun hm => absurd (h.isAlpha hm) (by decide)

/-- No head of an escape reaches past a closing brace. -/
theorem StartsEscape.of_append_brace {s after : List Char}
    (h : StartsEscape (s ++ '\x7d' :: after)) : StartsEscape s := by
  -- The fixed part of a head has no brace, so that it ends before the one here, and what is left of
  -- the text has to follow it.
  generalize htext : s ++ '\x7d' :: after = text at h
  cases h with
  | @keyword blanks spelling tail k hb hs ha =>
    rw [← List.append_assoc] at htext
    have hhead : '\x7d' ∉ blanks ++ spelling := by
      simp [hb.brace_not_mem, hs.brace_not_mem]
    obtain ⟨t, rfl, rfl⟩ := exists_append_of_append_eq hhead htext.symm
    rw [List.append_assoc]
    exact .keyword k hb hs (not_startsWithLetter_of_append ha)
  | @functionCall beforeMark beforeEquals beforeCall spelling tail hm he hc hs ha =>
    have hsplit : beforeMark ++ '?' :: (beforeEquals ++ '=' :: (beforeCall ++ (spelling ++ tail))) =
        (beforeMark ++ '?' :: (beforeEquals ++ '=' :: (beforeCall ++ spelling))) ++ tail := by
      simp
    have hhead :
        '\x7d' ∉ beforeMark ++ '?' :: (beforeEquals ++ '=' :: (beforeCall ++ spelling)) := by
      simp [hm.brace_not_mem, he.brace_not_mem, hc.brace_not_mem, hs.brace_not_mem]
    rw [hsplit] at htext
    obtain ⟨t, rfl, rfl⟩ := exists_append_of_append_eq hhead htext.symm
    have hjoin : (beforeMark ++ '?' :: (beforeEquals ++ '=' :: (beforeCall ++ spelling))) ++ t =
        beforeMark ++ '?' :: (beforeEquals ++ '=' :: (beforeCall ++ (spelling ++ t))) := by
      simp
    rw [hjoin]
    exact .functionCall hm he hc hs (not_startsWithLetter_of_append ha)

/-! ## Scanning a part of a text -/

/-- Scanning code from one place of a text to another one gives this native text and so many
markers, whatever braces are open. -/
def Scanned (start stop native : List Char) (markers : Nat) : Prop :=
  ∃ ps, nativeChars ps = native ∧ markerCount ps = markers ∧
    ∀ stack, scan .code stack start = ps ++ scan .code stack stop

/-- Verbatim pieces give the text that they are. -/
theorem nativeChars_map_verbatim (s : List Char) : nativeChars (s.map .verbatim) = s := by
  induction s with
  | nil => rfl
  | cons c s ih =>
    calc nativeChars ((c :: s).map .verbatim)
        = c :: nativeChars (s.map .verbatim) := rfl
      _ = c :: s := by rw [ih]

theorem markerCount_map_verbatim (s : List Char) : markerCount (s.map .verbatim) = 0 := by
  apply List.count_eq_zero.2
  intro hm
  obtain ⟨c, -, hc⟩ := List.mem_map.1 hm
  cases hc

theorem markerCount_append (a b : List Piece) :
    markerCount (a ++ b) = markerCount a + markerCount b :=
  List.count_append

namespace Scanned

theorem refl (s : List Char) : Scanned s s [] 0 :=
  ⟨[], rfl, rfl, fun _ => rfl⟩

/-- Parts that follow each other are scanned as one. -/
theorem trans {a b c m n : List Char} {i j : Nat} (h₁ : Scanned a b m i) (h₂ : Scanned b c n j) :
    Scanned a c (m ++ n) (i + j) := by
  obtain ⟨ps, rfl, rfl, hps⟩ := h₁
  obtain ⟨qs, rfl, rfl, hqs⟩ := h₂
  refine ⟨ps ++ qs, nativeChars_append ps qs, markerCount_append ps qs, fun stack => ?_⟩
  rw [hps, hqs, List.append_assoc]

theorem verbatim {start stop text : List Char}
    (h : ∀ stack, scan .code stack start = text.map .verbatim ++ scan .code stack stop) :
    Scanned start stop text 0 :=
  ⟨text.map .verbatim, nativeChars_map_verbatim text, markerCount_map_verbatim text, h⟩

theorem marker (rest : List Char) : Scanned ('?' :: rest) rest ['?'] 1 :=
  ⟨[.marker], rfl, rfl, fun stack => scan_marker stack rest⟩

/-- An escape gives its native word and what its inner text gives, without the braces. -/
theorem escape {head inner rest text : List Char} {word : String} {markers : Nat}
    (hne : head ≠ []) (hhead : escapeHead? (head ++ inner) = some (word, inner))
    (h : Scanned inner ('\x7d' :: rest) text markers) :
    Scanned ('\x7b' :: (head ++ inner)) rest (word.toList ++ text) markers := by
  obtain ⟨ps, rfl, rfl, hps⟩ := h
  refine ⟨.keyword word :: ps, rfl, by simp [markerCount], fun stack => ?_⟩
  rw [scan_openEscape hne hhead, hps, scan_closeEscape]
  rfl

/-- A pair of braces that is no escape is kept around what its inner text gives. -/
theorem braces {inner rest text : List Char} {markers : Nat} (hinner : ¬StartsEscape inner)
    (h : Scanned inner ('\x7d' :: rest) text markers) :
    Scanned ('\x7b' :: inner) rest ('\x7b' :: (text ++ ['\x7d'])) markers := by
  obtain ⟨ps, rfl, rfl, hps⟩ := h
  refine ⟨.verbatim '\x7b' :: (ps ++ [.verbatim '\x7d']), ?_, ?_, fun stack => ?_⟩
  · simp [nativeChars, Piece.chars]
  · simp [markerCount]
  · rw [scan_openOther hinner, hps, scan_closeBrace]
    simp

end Scanned

/-! ## Scanning a tree -/

/-- The text without its leading blanks, if they are to be dropped. -/
def skipBlanks (drop : Bool) (s : List Char) : List Char :=
  if drop then trimStart s else s

theorem skipBlanks_cons {c : Char} (h : isBlank c = false) (drop : Bool) (s : List Char) :
    skipBlanks drop (c :: s) = c :: s := by
  cases drop
  · rfl
  · exact trimStart_cons_of_not_isBlank h s

/-- A character that opens nothing is kept. -/
theorem scanned_plain {c : Char} {rest : List Char} (hc : c ∉ ['\'', '"', '?', '\x7b', '\x7d'])
    (hline : ¬['-', '-'] <+: c :: rest) (hblock : ¬['/', '*'] <+: c :: rest) :
    Scanned (c :: rest) rest [c] 0 := by
  simp only [List.mem_cons, List.not_mem_nil, or_false, not_or] at hc
  obtain ⟨hsingle, hdouble, hmark, hopen, hclose⟩ := hc
  -- The scanner looks at the next character, and a comment is told from its first two.
  have hstart {a b : Char} (h : ¬[a, b] <+: c :: rest) : ¬(c = a ∧ rest.head? = some b) := by
    rintro ⟨rfl, hb⟩
    obtain ⟨tail, rfl⟩ := List.head?_eq_some_iff.1 hb
    exact h ⟨tail, rfl⟩
  have hmode : modeAfter c rest.head? = .code := by
    rw [modeAfter, if_neg (by simp [hsingle, hdouble]), if_neg (hstart hline),
      if_neg (hstart hblock)]
  exact .verbatim fun stack => scan_plain hmark hopen hclose hmode stack

/-- An escape with a keyword drops the blanks after some keywords. -/
theorem scanned_escape {blanks spelling inner rest text : List Char} {k : Keyword}
    {markers : Nat} (hb : AllBlank blanks) (hs : k.IsSpelling spelling)
    (hinner : ¬StartsWithLetter inner)
    (h : Scanned (skipBlanks k.dropsBlanks inner) ('\x7d' :: rest) text markers) :
    Scanned ('\x7b' :: (blanks ++ (spelling ++ inner))) rest (k.native.toList ++ text) markers := by
  obtain ⟨dropped, hdropped⟩ :
      ∃ dropped, inner = dropped ++ skipBlanks k.dropsBlanks inner := by
    cases hk : k.dropsBlanks with
    | false => exact ⟨[], rfl⟩
    | true =>
      obtain ⟨dropped, -, heq⟩ := exists_blanks_trimStart inner
      exact ⟨dropped, heq⟩
  -- The head is everything up to the first character of the inner text that is kept.
  have htext : blanks ++ (spelling ++ inner) =
      (blanks ++ (spelling ++ dropped)) ++ skipBlanks k.dropsBlanks inner :=
    calc blanks ++ (spelling ++ inner)
        = blanks ++ (spelling ++ (dropped ++ skipBlanks k.dropsBlanks inner)) := by rw [← hdropped]
      _ = (blanks ++ (spelling ++ dropped)) ++ skipBlanks k.dropsBlanks inner := by simp
  have hhead := escapeHead?_keyword hb hs hinner
  have hne : blanks ++ (spelling ++ dropped) ≠ [] := by
    obtain ⟨c, tail, rfl, -⟩ := hs.exists_cons
    simp
  rw [htext] at hhead ⊢
  exact .escape hne hhead h

/-- A call for its result gives the word for a call, and the mark of its head is not counted. -/
theorem scanned_functionCall {beforeMark beforeEquals beforeCall spelling inner rest text :
      List Char} {markers : Nat} (hm : AllBlank beforeMark) (he : AllBlank beforeEquals)
    (hc : AllBlank beforeCall) (hs : Keyword.call.IsSpelling spelling)
    (hinner : ¬StartsWithLetter inner) (h : Scanned inner ('\x7d' :: rest) text markers) :
    Scanned
      ('\x7b' :: (beforeMark ++ '?' :: (beforeEquals ++ '=' ::
        (beforeCall ++ (spelling ++ inner))))) rest ("CALL".toList ++ text) markers := by
  have hhead := escapeHead?_functionCall hm he hc hs hinner
  -- The head reaches up to the inner text, as it is.
  have htext : beforeMark ++ '?' :: (beforeEquals ++ '=' :: (beforeCall ++ (spelling ++ inner))) =
      (beforeMark ++ '?' :: (beforeEquals ++ '=' :: (beforeCall ++ spelling))) ++ inner := by
    simp
  rw [htext] at hhead ⊢
  exact .escape (by simp) hhead h

/-- Scanning the client text of a tree gives its native text and its markers, whatever follows. -/
theorem Tree.scanned {t : Tree} {after : List Char} (h : t.Readable after) (drop : Bool)
    (hafter : skipBlanks drop after = after) :
    Scanned (skipBlanks drop (t.client ++ after)) after (t.native drop) t.markers := by
  -- The text after the tree is arbitrary, since the inner trees stand before a closing brace.
  induction t generalizing after drop with
  | done => rw [show skipBlanks drop (done.client ++ after) = after from hafter]; exact .refl after
  | plain c rest ih =>
    obtain ⟨hc, hline, hblock, hrest⟩ := h
    by_cases hdrop : drop = true ∧ isBlank c = true
    · -- A blank that is dropped leaves the rest to be skipped to its first other character.
      obtain ⟨rfl, hblank⟩ := hdrop
      have hskip : skipBlanks true ((plain c rest).client ++ after) =
          skipBlanks true (rest.client ++ after) := by
        simp [skipBlanks, client, trimStart, hblank]
      rw [hskip, native, if_pos (by simp [hblank])]
      exact ih hrest true hafter
    · have hskip : skipBlanks drop ((plain c rest).client ++ after) =
          c :: (rest.client ++ after) := by
        cases drop with
        | false => rfl
        | true => exact skipBlanks_cons (by simpa using hdrop) true _
      rw [hskip, native, if_neg (by simpa using hdrop)]
      simpa [markers] using (scanned_plain hc hline hblock).trans (ih hrest false rfl)
  | marker rest ih =>
    -- A mark is no blank, so that nothing is dropped before it.
    have hskip := skipBlanks_cons (show isBlank '?' = false by decide) drop (rest.client ++ after)
    rw [client, List.cons_append, hskip]
    exact (Scanned.marker _).trans (ih h false rfl)
  -- Quoted runs and comments are kept as one part, whatever is in them.
  | quoted quote body rest ih =>
    obtain ⟨hquote, hrest⟩ := h
    have hblank : isBlank quote = false := by rcases hquote with rfl | rfl <;> decide
    have hskip := skipBlanks_cons hblank drop
      (doubled quote body ++ quote :: (rest.client ++ after))
    have hrun : Scanned (quote :: (doubled quote body ++ quote :: (rest.client ++ after)))
        (rest.client ++ after) (quote :: (doubled quote body ++ [quote])) 0 :=
      .verbatim fun stack => scan_quoted hquote body stack _
    simpa [client, native, markers, hskip] using hrun.trans (ih hrest false rfl)
  | lineComment body rest ih =>
    obtain ⟨hbody, hrest⟩ := h
    have hskip := skipBlanks_cons (show isBlank '-' = false by decide) drop
      ('-' :: (body ++ '\n' :: (rest.client ++ after)))
    have hrun : Scanned ('-' :: '-' :: (body ++ '\n' :: (rest.client ++ after)))
        (rest.client ++ after) ('-' :: '-' :: (body ++ ['\n'])) 0 :=
      .verbatim fun stack => scan_lineComment hbody stack _
    simpa [client, native, markers, hskip] using hrun.trans (ih hrest false rfl)
  | blockComment body rest ih =>
    obtain ⟨hbody, hslash, hrest⟩ := h
    have hskip := skipBlanks_cons (show isBlank '/' = false by decide) drop
      ('*' :: (body ++ '*' :: '/' :: (rest.client ++ after)))
    have hrun : Scanned ('/' :: '*' :: (body ++ '*' :: '/' :: (rest.client ++ after)))
        (rest.client ++ after) ('/' :: '*' :: (body ++ ['*', '/'])) 0 :=
      .verbatim fun stack => scan_blockComment hbody hslash stack _
    simpa [client, native, markers, hskip] using hrun.trans (ih hrest false rfl)
  | escape blanks k spelling inner rest ihInner ihRest =>
    obtain ⟨hb, hs, hletter, hinner, hrest⟩ := h
    -- The inner tree ends at the closing brace, which no blank that is dropped can pass.
    have hbrace : isBlank '\x7d' = false := by decide
    have hrun := scanned_escape hb hs
      (not_startsWithLetter_append_brace hletter (rest.client ++ after))
      (ihInner hinner k.dropsBlanks (skipBlanks_cons hbrace _ _))
    have hskip := skipBlanks_cons (show isBlank '\x7b' = false by decide) drop
      (blanks ++ (spelling ++ (inner.client ++ '\x7d' :: (rest.client ++ after))))
    simpa [client, native, markers, hskip] using hrun.trans (ihRest hrest false rfl)
  | functionCall beforeMark beforeEquals beforeCall spelling inner rest ihInner ihRest =>
    obtain ⟨hm, he, hc, hs, hletter, hinner, hrest⟩ := h
    have hrun := scanned_functionCall hm he hc hs
      (not_startsWithLetter_append_brace hletter (rest.client ++ after))
      (ihInner hinner false rfl)
    have hskip := skipBlanks_cons (show isBlank '\x7b' = false by decide) drop
      (beforeMark ++ '?' :: (beforeEquals ++ '=' :: (beforeCall ++
        (spelling ++ (inner.client ++ '\x7d' :: (rest.client ++ after))))))
    simpa [client, native, markers, hskip] using hrun.trans (ihRest hrest false rfl)
  | braces inner rest ihInner ihRest =>
    obtain ⟨hstart, hinner, hrest⟩ := h
    have hrun := Scanned.braces (fun hs => hstart (StartsEscape.of_append_brace hs))
      (ihInner hinner false rfl)
    have hskip := skipBlanks_cons (show isBlank '\x7b' = false by decide) drop
      (inner.client ++ '\x7d' :: (rest.client ++ after))
    simpa [client, native, markers, hskip] using hrun.trans (ihRest hrest false rfl)

/-- Rewriting escapes is compositional: the native text of the client text of a tree is the native
text of the tree, with the markers of the tree. -/
theorem nativeSql_client (t : Tree) (h : t.Readable []) :
    Statement.nativeSql (String.ofList t.client) = String.ofList (t.native false) ∧
      (Statement.ofSql (String.ofList t.client)).markers = t.markers := by
  obtain ⟨ps, hnative, hmarkers, hscan⟩ := Tree.scanned h false rfl
  -- A whole text is scanned with no brace open and nothing behind it.
  have hpieces : pieces t.client = ps := by
    have htext := hscan []
    simpa [skipBlanks, pieces, scan] using htext
  constructor
  · rw [Statement.nativeSql, String.toList_ofList, hpieces, hnative]
  · rw [← hmarkers, ← hpieces]
    simp [Statement.ofSql]

/-- A call with a timestamp and a function in it, whose text has marks in and out of quotes. -/
theorem nativeSql_client_nested :
    let t : Tree := .functionCall [] [] [' '] "Call".toList
      (.plain ' ' (.plain 'f' (.plain '(' (.escape [' '] .timestamp "TS".toList
        (.plain ' ' (.quoted '\'' "a'?".toList .done))
        (.marker (.escape [] .function "fn".toList
          (.plain ' ' (.braces (.plain 'x' .done) .done)) (.plain ')' .done))))))) .done
    t.Readable [] ∧
      String.ofList t.client = "\x7b?= Call f(\x7b TS 'a''?'\x7d?\x7bfn \x7bx\x7d\x7d)\x7d" ∧
      Statement.nativeSql (String.ofList t.client) = "CALL f(TIMESTAMP 'a''?'?\x7bx\x7d)" := by
  intro t
  have h : t.Readable [] := by decide
  exact ⟨h, by decide, (nativeSql_client t h).1⟩

end SqlAccess.Escape
