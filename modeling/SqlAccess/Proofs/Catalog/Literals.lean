import Mathlib.Data.List.Forall2
import SqlAccess.Catalog.Query

/-!
# Literals of catalog queries

A catalog query takes names and patterns that anybody may have chosen. Here its text is read by the
rule for literals of SQL (`lexemes?`), and the main result is that no name or pattern gets out of
its literal (`text_literals`): the literals stand for what was asked for, and the text around them
is the same for all names and patterns that look alike (`Clause.Alike`).

How a clause is read is said clause by clause (`Clause.lexemes`), and the reading of a text is put
together from the readings of its parts (`ReadsAs.append`). Two literals that touch would be read as
one, so a part can only be followed by a text that does not start with a quote.
-/

namespace SqlAccess

open SqlAccess.Text

/-! ## Reading literals -/

/-- A character outside of literals, or a literal and what it stands for. -/
inductive Lexeme
  | code (c : Char)
  | literal (s : List Char)
deriving DecidableEq

/-- Reads a text outside of literals, or in one of which a part was read. In a literal, two quotes
are one, and the first quote that stands alone is the end. A text that ends in a literal cannot be
read. -/
def lexemes? : Option (List Char) → List Char → Option (List Lexeme)
  | none, [] => some []
  | none, c :: rest =>
    if c = '\'' then lexemes? (some []) rest else (lexemes? none rest).map (.code c :: ·)
  | some _, [] => none
  | some body, '\'' :: '\'' :: rest => lexemes? (some (body ++ ['\''])) rest
  | some body, '\'' :: rest => (lexemes? none rest).map (.literal body :: ·)
  | some body, c :: rest => lexemes? (some (body ++ [c])) rest

/-- What the literals stand for, in their order. -/
def literals (ls : List Lexeme) : List (List Char) :=
  ls.filterMap fun
    | .code _ => none
    | .literal s => some s

/-- The text around the literals, with a gap for each of them. -/
def outside (ls : List Lexeme) : List (Option Char) :=
  ls.map fun
    | .code c => some c
    | .literal _ => none

/-- Text outside of literals. -/
def code (s : List Char) : List Lexeme :=
  s.map .code

@[simp]
theorem literals_append (a b : List Lexeme) : literals (a ++ b) = literals a ++ literals b :=
  List.filterMap_append

@[simp]
theorem literals_cons_code (c : Char) (ls : List Lexeme) :
    literals (.code c :: ls) = literals ls := rfl

@[simp]
theorem literals_cons_literal (s : List Char) (ls : List Lexeme) :
    literals (.literal s :: ls) = s :: literals ls := rfl

@[simp]
theorem literals_nil : literals [] = [] := rfl

@[simp]
theorem literals_code (s : List Char) : literals (code s) = [] := by
  induction s with
  | nil => rfl
  | cons c s ih => exact ih

@[simp]
theorem outside_append (a b : List Lexeme) : outside (a ++ b) = outside a ++ outside b :=
  List.map_append

@[simp]
theorem outside_cons_code (c : Char) (ls : List Lexeme) :
    outside (.code c :: ls) = some c :: outside ls := rfl

@[simp]
theorem outside_cons_literal (s : List Char) (ls : List Lexeme) :
    outside (.literal s :: ls) = none :: outside ls := rfl

/-- A text without quotes is read as it is, and the reading goes on behind it. -/
theorem lexemes?_code_append {s : List Char} (h : '\'' ∉ s) (rest : List Char) :
    lexemes? none (s ++ rest) = (lexemes? none rest).map (code s ++ ·) := by
  induction s with
  | nil => simp [code]
  | cons c s ih =>
    obtain ⟨hc, hs⟩ : c ≠ '\'' ∧ '\'' ∉ s := by simpa [eq_comm] using h
    rw [List.cons_append, lexemes?, if_neg hc, ih hs, Option.map_map]
    rfl

/-- The end of a literal is not doubled by what comes behind it. -/
theorem lexemes?_quote {body rest : List Char} (h : rest.head? ≠ some '\'') :
    lexemes? (some body) ('\'' :: rest) = (lexemes? none rest).map (.literal body :: ·) := by
  rw [lexemes?]
  rintro after rfl
  exact h rfl

/-- What was written with its quotes doubled is read back up to the quote that stands alone, and
joins the part of the literal that was read before it. -/
theorem lexemes?_doubledQuotes (body s : List Char) {rest : List Char}
    (h : rest.head? ≠ some '\'') :
    lexemes? (some body) (doubledQuotes s ++ '\'' :: rest) =
      (lexemes? none rest).map (.literal (body ++ s) :: ·) := by
  induction s generalizing body with
  | nil => rw [List.append_nil, ← lexemes?_quote h]; rfl
  | cons c s ih =>
    by_cases hc : c = '\''
    · subst hc
      -- Its two quotes are read as one, and the reading stays in the literal.
      change lexemes? (some body) ('\'' :: '\'' :: (doubledQuotes s ++ '\'' :: rest)) = _
      rw [lexemes?, ih]
      simp
    · have hcons : doubledQuotes (c :: s) = c :: doubledQuotes s := by simp [doubledQuotes, hc]
      -- The two ways in which a quote is read do not apply.
      rw [hcons, List.cons_append, lexemes?, ih, List.append_assoc]
      · rfl
      · intro after hafter
        exact absurd hafter hc
      · exact hc

/-! ## Readings of parts -/

/-- A text is read as some lexemes, whatever comes behind it but another quote. -/
def ReadsAs (s : List Char) (ls : List Lexeme) : Prop :=
  ∀ rest, rest.head? ≠ some '\'' → lexemes? none (s ++ rest) = (lexemes? none rest).map (ls ++ ·)

namespace ReadsAs

variable {a b : List Char} {la lb : List Lexeme}

/-- A literal is read as one literal that stands for the text it was made of. -/
theorem literal (s : List Char) : ReadsAs (literal s) [.literal s] := by
  intro rest hrest
  change lexemes? (some []) (doubledQuotes s ++ ['\''] ++ rest) = _
  rw [List.append_assoc]
  exact lexemes?_doubledQuotes [] s hrest

/-- A text without quotes may come before any part, also before one that starts with a quote. -/
theorem code_append (h : '\'' ∉ a) (hb : ReadsAs b lb) : ReadsAs (a ++ b) (code a ++ lb) := by
  intro rest hrest
  rw [List.append_assoc, lexemes?_code_append h, hb rest hrest, Option.map_map]
  simp only [Function.comp_def, List.append_assoc]

theorem nil : ReadsAs [] [] := by
  intro rest _
  simp

theorem code (h : '\'' ∉ a) : ReadsAs a (code a) := by
  simpa using code_append h nil

/-- Two parts are read one after the other, if their quotes do not touch. -/
theorem append (ha : ReadsAs a la) (hb : ReadsAs b lb) (h : b.head? ≠ some '\'') :
    ReadsAs (a ++ b) (la ++ lb) := by
  intro rest hrest
  -- What comes behind `a` starts as `b` does, or as the rest if `b` is empty.
  have hhead : (b ++ rest).head? ≠ some '\'' := by
    cases b with
    | nil => exact hrest
    | cons c b => exact h
  rw [List.append_assoc, ha _ hhead, hb rest hrest, Option.map_map]
  simp only [Function.comp_def, List.append_assoc]

end ReadsAs

/-! ## Clauses -/

/-- A pattern holds a wildcard. -/
def HasWildcard (s : List Char) : Prop :=
  '%' ∈ s ∨ '_' ∈ s
deriving Decidable

/-- A pattern holds a wildcard with a backslash before it. -/
def EscapesWildcard (s : List Char) : Prop :=
  ['\\', '%'] <:+: s ∨ ['\\', '_'] <:+: s
deriving Decidable

/-- The search for wildcards finds the patterns that hold one. -/
theorem hasWildcard_iff {s : List Char} : hasWildcard s = true ↔ HasWildcard s := by
  simp [hasWildcard, HasWildcard, and_or_left, exists_or]

/-- The search for escaped wildcards finds the patterns that hold one. -/
theorem hasEscapedWildcard_iff {s : List Char} :
    hasEscapedWildcard s = true ↔ EscapesWildcard s := by
  -- A backslash and a wildcard are at the front only if they are the first two characters.
  have hprefix (c d : Char) (rest : List Char) :
      ['\\', d] <+: c :: rest ↔ c = '\\' ∧ rest.head? = some d := by
    cases rest with
    | nil => simp
    | cons e rest => simp only [List.cons_prefix_cons, List.nil_prefix, List.head?_cons,
        Option.some.injEq, and_true, eq_comm]
  unfold EscapesWildcard
  induction s with
  | nil => simp [hasEscapedWildcard]
  | cons c rest ih =>
    -- The wildcard stands behind the first character, or further back.
    simp only [hasEscapedWildcard, Bool.or_eq_true, Bool.and_eq_true, beq_iff_eq, ih,
      List.infix_cons_iff, hprefix]
    grind

namespace Clause

/-- The names of columns in a clause. -/
def columns : Clause → List String
  | equals column _ => [column]
  | like column _ => [column]
  | equalsInt column _ => [column]
  | equalsBool column _ => [column]
  | oneOf column _ => [column]
  | oneOfInts column _ => [column]
  | orderBy columns => columns

/-- What the literals of a clause have to stand for. -/
def literals : Clause → List (List Char)
  | equals _ (some name) => if name = "" then [] else [name.toList]
  | like _ (some pattern) =>
    if pattern = "" then []
    else pattern.toList :: if EscapesWildcard pattern.toList then [['\\']] else []
  | oneOf _ (some names) => names.map String.toList
  | _ => []

/-- All that may be told about a pattern from the text around its literal. -/
def look (pattern : String) : Bool × Bool × Bool :=
  (decide (pattern = ""), decide (HasWildcard pattern.toList),
    decide (EscapesWildcard pattern.toList))

/-- Two clauses differ at most in their names and patterns, and these look alike. -/
inductive Alike : Clause → Clause → Prop
  | equals {column : String} {a b : Option String} :
      a.map (fun s => decide (s = "")) = b.map (fun s => decide (s = "")) →
      Alike (.equals column a) (.equals column b)
  | like {column : String} {a b : Option String} :
      a.map look = b.map look → Alike (.like column a) (.like column b)
  | oneOf {column : String} {a b : Option (List String)} :
      a.map List.length = b.map List.length → Alike (.oneOf column a) (.oneOf column b)
  | same (clause : Clause) : Alike clause clause

/-! ## Readings of clauses -/

/-- How a condition on a name is read: the empty name is compared with `NULL` and has no literal. -/
def nameLexemes (column : String) (name : List Char) : List Lexeme :=
  if name.isEmpty then code (condition column "IS" "NULL".toList)
  else code (condition column "=" []) ++ [.literal name]

/-- How a condition on a pattern is read: without a wildcard it is one on a name. -/
def patternLexemes (column : String) (pattern : List Char) : List Lexeme :=
  if hasWildcard pattern then
    code (condition column "LIKE" []) ++ .literal pattern ::
      if hasEscapedWildcard pattern then code " ESCAPE ".toList ++ [.literal ['\\']] else []
  else nameLexemes column pattern

/-- Literals with commas between them. -/
def listLexemes : List (List Char) → List Lexeme
  | [] => []
  | [s] => [.literal s]
  | s :: t :: rest => .literal s :: .code ',' :: listLexemes (t :: rest)

/-- How a condition on a list is read: nothing is a member of an empty list. -/
def memberLexemes (column : String) (names : List (List Char)) : List Lexeme :=
  if names.isEmpty then code " AND FALSE".toList
  else code (condition column "IN" ['(']) ++ (listLexemes names ++ [.code ')'])

/-- How a clause is read. -/
def lexemes : Clause → List Lexeme
  | equals column (some name) => nameLexemes column name.toList
  | like column (some pattern) => patternLexemes column pattern.toList
  | oneOf column (some names) => memberLexemes column (names.map String.toList)
  | clause => code clause.chars

theorem condition_eq (column operator : String) (operand : List Char) :
    condition column operator operand =
      " AND ".toList ++ column.toList ++ ' ' :: operator.toList ++ ' ' :: operand := by
  -- `unfold` would first evaluate the characters of the texts.
  delta condition
  rfl

/-- A condition with a longer operand is that with the front of it and the rest behind. -/
theorem condition_append (column operator : String) (a b : List Char) :
    condition column operator (a ++ b) = condition column operator a ++ b := by
  simp [condition_eq]

/-- A condition has no quotes but those of its operand. -/
theorem quote_not_mem_condition {column operator : String} {operand : List Char}
    (hcolumn : '\'' ∉ column.toList) (hoperator : '\'' ∉ operator.toList)
    (hoperand : '\'' ∉ operand) : '\'' ∉ condition column operator operand := by
  simp [condition_eq, hcolumn, hoperator, hoperand]

/-- No name gets out of the literal of its condition. -/
theorem readsAs_nameCondition {column : String} (h : '\'' ∉ column.toList) (name : List Char) :
    ReadsAs (nameCondition column name) (nameLexemes column name) := by
  unfold nameCondition nameLexemes
  split
  · exact .code (quote_not_mem_condition h (by simp) (by simp))
  · -- All of the condition but its literal is code.
    have hcondition : condition column "=" (literal name) =
        condition column "=" [] ++ literal name := condition_append column "=" [] _
    rw [hcondition]
    exact .code_append (quote_not_mem_condition h (by simp) (by simp)) (.literal name)

/-- No pattern gets out of the literal of its condition, and the escape character is a literal of
its own. -/
theorem readsAs_patternCondition {column : String} (h : '\'' ∉ column.toList)
    (pattern : List Char) :
    ReadsAs (patternCondition column pattern) (patternLexemes column pattern) := by
  unfold patternCondition patternLexemes
  split
  · have hcondition : condition column "LIKE" (literal pattern) =
        condition column "LIKE" [] ++ literal pattern := condition_append column "LIKE" [] _
    rw [hcondition, List.append_assoc]
    refine .code_append (quote_not_mem_condition h (by simp) (by simp)) ?_
    split
    · -- Code keeps the quotes of the two literals apart.
      have hescape : " ESCAPE '\\'".toList = " ESCAPE ".toList ++ literal ['\\'] := rfl
      rw [hescape]
      exact (ReadsAs.literal pattern).append (.code_append (by simp) (.literal _)) (by simp)
    · rw [List.append_nil]
      exact .literal pattern
  · -- Without a wildcard it is compared as a name.
    exact readsAs_nameCondition h pattern

/-- A list of literals is read as these literals: the commas keep their quotes apart. -/
theorem readsAs_list (names : List (List Char)) :
    ReadsAs ([','].intercalate (names.map literal)) (listLexemes names) := by
  induction names with
  | nil => exact .nil
  | cons s rest ih =>
    cases rest with
    | nil =>
      rw [List.map_singleton, List.intercalate_singleton]
      exact .literal s
    | cons t rest =>
      rw [List.map_cons, List.map_cons, List.intercalate_cons_cons, List.append_assoc,
        ← List.map_cons]
      -- The comma behind a literal is code, and no quote.
      exact (ReadsAs.literal s).append (.code_append (by simp) ih) (by simp)

/-- No member of a list gets out of its literal. -/
theorem readsAs_memberCondition {column : String} (h : '\'' ∉ column.toList)
    (names : List (List Char)) :
    ReadsAs (memberCondition column (names.map literal)) (memberLexemes column names) := by
  unfold memberCondition memberLexemes
  rw [List.isEmpty_map]
  split
  · exact .code (by simp)
  · have hcondition (list : List Char) : condition column "IN" ('(' :: list ++ [')']) =
        condition column "IN" ['('] ++ (list ++ [')']) := condition_append column "IN" ['('] _
    rw [hcondition]
    exact .code_append (quote_not_mem_condition h (by simp) (by simp))
      ((readsAs_list names).append (.code (by simp)) (by simp))

/-- A number is written without quotes. -/
theorem quote_not_mem_intDigits (n : Int) : '\'' ∉ intDigits n := by
  -- The digits of its absolute value are digits, and a quote is none.
  have hnat : '\'' ∉ natDigits n.natAbs := by
    intro hmem
    exact absurd (Nat.isDigit_of_mem_toDigits (by decide) (by decide) hmem) (by decide)
  unfold intDigits
  split <;> simp [hnat]

theorem not_mem_intercalate {c : Char} {separator : List Char} (hseparator : c ∉ separator)
    {parts : List (List Char)} (h : ∀ part ∈ parts, c ∉ part) :
    c ∉ separator.intercalate parts := by
  induction parts with
  | nil => simp [List.intercalate]
  | cons a rest ih =>
    cases rest with
    | nil => simpa using h
    | cons b rest =>
      rw [List.forall_mem_cons] at h
      simp [List.intercalate_cons_cons, h.1, hseparator, ih h.2]

/-- Every clause on columns without quotes is read as its lexemes. -/
theorem readsAs (clause : Clause) (h : ∀ column ∈ clause.columns, '\'' ∉ column.toList) :
    ReadsAs clause.chars clause.lexemes := by
  -- A clause without names and patterns is all code: its numbers and words have no quotes.
  cases clause with
  | equals column name =>
    cases name with
    | none => exact .nil
    | some name => exact readsAs_nameCondition (h column (by simp [columns])) name.toList
  | like column pattern =>
    cases pattern with
    | none => exact .nil
    | some pattern => exact readsAs_patternCondition (h column (by simp [columns])) pattern.toList
  | equalsInt column n =>
    apply ReadsAs.code
    cases n with
    | none => exact List.not_mem_nil
    | some n =>
      change '\'' ∉ condition column "=" (intDigits n)
      apply quote_not_mem_condition (h column (by simp [columns])) (by simp)
      exact quote_not_mem_intDigits n
  | equalsBool column b =>
    apply ReadsAs.code
    cases b with
    | none => exact List.not_mem_nil
    | some b =>
      change '\'' ∉ condition column "=" (if b then "TRUE" else "FALSE").toList
      apply quote_not_mem_condition (h column (by simp [columns])) (by simp)
      cases b <;> simp
  | oneOf column names =>
    cases names with
    | none => exact .nil
    | some names =>
      change ReadsAs (memberCondition column (names.map (literal ∘ String.toList))) _
      rw [← List.map_map]
      exact readsAs_memberCondition (h column (by simp [columns])) _
  | oneOfInts column ns =>
    apply ReadsAs.code
    cases ns with
    | none => exact List.not_mem_nil
    | some ns =>
      have hlist : '\'' ∉ [','].intercalate (ns.map intDigits) := by
        apply not_mem_intercalate (by simp)
        simpa using fun n _ => quote_not_mem_intDigits n
      change '\'' ∉ memberCondition column (ns.map intDigits)
      rw [memberCondition]
      split
      · simp
      · apply quote_not_mem_condition (h column (by simp [columns])) (by simp)
        simp [hlist]
  | orderBy cs =>
    apply ReadsAs.code
    cases cs with
    | nil => exact List.not_mem_nil
    | cons column cs =>
      have hlist : '\'' ∉ ", ".toList.intercalate ((column :: cs).map String.toList) := by
        apply not_mem_intercalate (by simp)
        simpa [columns] using h
      change '\'' ∉ " ORDER BY ".toList ++ _
      rw [List.mem_append, not_or]
      exact ⟨by simp, hlist⟩

/-! ## What readings say -/

theorem literals_nameLexemes (column : String) (name : List Char) :
    SqlAccess.literals (nameLexemes column name) = if name = [] then [] else [name] := by
  cases name <;> simp [nameLexemes]

/-- The literals of a pattern's condition are the pattern and, if it escapes a wildcard, the escape
character. -/
theorem literals_patternLexemes (column : String) (pattern : List Char) :
    SqlAccess.literals (patternLexemes column pattern) =
      if pattern = [] then [] else pattern :: if EscapesWildcard pattern then [['\\']] else [] := by
  simp only [← hasEscapedWildcard_iff]
  unfold patternLexemes
  split
  case isTrue hwildcard =>
    have hne : pattern ≠ [] := by
      rintro rfl
      cases hwildcard
    rw [if_neg hne]
    split <;> simp
  case isFalse hwildcard =>
    -- An escaped wildcard is a wildcard, so that no escape character is asked for.
    have hescaped : ¬hasEscapedWildcard pattern = true := fun h =>
      hwildcard (hasWildcard_of_escaped h)
    rw [literals_nameLexemes, if_neg hescaped]

/-- The literals of a list are its members, in their order. -/
theorem literals_listLexemes (names : List (List Char)) :
    SqlAccess.literals (listLexemes names) = names := by
  induction names using listLexemes.induct with
  | case1 => rfl
  | case2 s => rfl
  | case3 s t rest ih => simp [listLexemes, ih]

theorem literals_memberLexemes (column : String) (names : List (List Char)) :
    SqlAccess.literals (memberLexemes column names) = names := by
  cases names <;> simp [memberLexemes, literals_listLexemes]

/-- The literals that are read of a clause stand for the names and patterns in it. -/
theorem literals_lexemes (clause : Clause) :
    SqlAccess.literals clause.lexemes = clause.literals := by
  fun_cases lexemes clause with
  | case1 column name => simp [literals, literals_nameLexemes]
  | case2 column pattern => simp [literals, literals_patternLexemes]
  | case3 column names => exact literals_memberLexemes column _
  | case4 clause hequals hlike honeOf =>
    -- A clause without names and patterns, which are those of the three cases before.
    rw [literals_code]
    unfold literals
    split
    · exact absurd rfl (hequals _ _)
    · exact absurd rfl (hlike _ _)
    · exact absurd rfl (honeOf _ _)
    · rfl

/-- Around a name, the text only tells whether the name is empty. -/
theorem outside_nameLexemes (column : String) {a b : List Char} (h : a = [] ↔ b = []) :
    outside (nameLexemes column a) = outside (nameLexemes column b) := by
  simp only [nameLexemes, List.isEmpty_iff, h]
  split <;> simp

/-- Around a pattern, the text tells no more than whether the pattern is empty, has a wildcard or
escapes one. -/
theorem outside_patternLexemes (column : String) {a b : List Char} (h : a = [] ↔ b = [])
    (hwildcard : HasWildcard a ↔ HasWildcard b) (hescaped : EscapesWildcard a ↔ EscapesWildcard b) :
    outside (patternLexemes column a) = outside (patternLexemes column b) := by
  simp only [patternLexemes, hasWildcard_iff, hasEscapedWildcard_iff, hwildcard, hescaped]
  split
  · split <;> simp
  · exact outside_nameLexemes column h

/-- Around the members of a list, the text only tells how many there are. -/
theorem outside_listLexemes {a b : List (List Char)} (h : a.length = b.length) :
    outside (listLexemes a) = outside (listLexemes b) := by
  induction a using listLexemes.induct generalizing b with
  | case1 =>
    obtain rfl := List.length_eq_zero_iff.mp h.symm
    rfl
  | case2 s =>
    obtain ⟨u, rfl⟩ := List.length_eq_one_iff.mp h.symm
    rfl
  | case3 s t rest ih =>
    -- The other list has two members in front as well.
    obtain ⟨u, v, rest', rfl⟩ : ∃ u v rest', b = u :: v :: rest' := by
      match b, h with
      | u :: v :: rest', _ => exact ⟨u, v, rest', rfl⟩
    simp [listLexemes, ih (b := v :: rest') (by simpa using h)]

theorem outside_memberLexemes (column : String) {a b : List (List Char)}
    (h : a.length = b.length) :
    outside (memberLexemes column a) = outside (memberLexemes column b) := by
  have hempty : a.isEmpty = b.isEmpty := by
    rw [Bool.eq_iff_iff, List.isEmpty_iff_length_eq_zero, List.isEmpty_iff_length_eq_zero, h]
  simp only [memberLexemes, hempty]
  split
  · rfl
  · simp [outside_listLexemes h]

/-- Around the literals of clauses that look alike, the text is the same. -/
theorem outside_lexemes {a b : Clause} (h : a.Alike b) :
    outside a.lexemes = outside b.lexemes := by
  cases h with
  | @equals column a b h =>
    match a, b, h with
    | none, none, _ => rfl
    | some a, some b, h =>
      exact outside_nameLexemes column (by simpa using h)
  | @like column a b h =>
    match a, b, h with
    | none, none, _ => rfl
    | some a, some b, h =>
      -- Patterns that look alike agree on all that the text around them depends on.
      obtain ⟨hempty, hwildcard, hescaped⟩ : (a = "" ↔ b = "") ∧
          (HasWildcard a.toList ↔ HasWildcard b.toList) ∧
          (EscapesWildcard a.toList ↔ EscapesWildcard b.toList) := by
        simpa [look] using h
      exact outside_patternLexemes column (by simpa using hempty) hwildcard hescaped
  | @oneOf column a b h =>
    match a, b, h with
    | none, none, _ => rfl
    | some a, some b, h =>
      exact outside_memberLexemes column (by simpa using h)
  | same => rfl

/-! ## Readings of queries -/

@[simp]
theorem head?_condition (column operator : String) (operand : List Char) :
    (condition column operator operand).head? = some ' ' := by
  simp [condition_eq]

theorem head?_nameCondition (column : String) (name : List Char) :
    (nameCondition column name).head? = some ' ' := by
  unfold nameCondition
  split <;> simp

theorem head?_patternCondition (column : String) (pattern : List Char) :
    (patternCondition column pattern).head? = some ' ' := by
  unfold patternCondition
  split
  · rw [List.head?_append, head?_condition]
    rfl
  · exact head?_nameCondition column pattern

theorem head?_memberCondition (column : String) (operands : List (List Char)) :
    (memberCondition column operands).head? = some ' ' := by
  unfold memberCondition
  split <;> simp

/-- No clause starts with a quote, so that the clauses of a query can follow each other. -/
theorem head?_chars (clause : Clause) : clause.chars.head? ≠ some '\'' := by
  have hblank {s : List Char} (h : s.head? = some ' ') : s.head? ≠ some '\'' := by simp [h]
  -- Each condition starts with the blank before its `AND`.
  fun_cases chars clause with
  | case1 => exact hblank (head?_nameCondition _ _)
  | case2 => exact hblank (head?_patternCondition _ _)
  | case3 => exact hblank (head?_condition _ _ _)
  | case4 => exact hblank (head?_condition _ _ _)
  | case5 => exact hblank (head?_memberCondition _ _)
  | case6 => exact hblank (head?_memberCondition _ _)
  | case7 => exact hblank rfl
  | case8 => exact nofun

theorem head?_flatMap_chars (clauses : List Clause) :
    (clauses.flatMap chars).head? ≠ some '\'' := by
  rw [List.head?_flatMap]
  intro hhead
  -- The text starts as the first clause does that is not empty.
  obtain ⟨clause, -, hclause⟩ := List.exists_of_findSome?_eq_some hhead
  exact head?_chars clause hclause

/-- The clauses of a query are read one after the other. -/
theorem readsAs_flatMap {clauses : List Clause}
    (h : ∀ clause ∈ clauses, ∀ column ∈ clause.columns, '\'' ∉ column.toList) :
    ReadsAs (clauses.flatMap chars) (clauses.flatMap lexemes) := by
  induction clauses with
  | nil => exact .nil
  | cons clause rest ih =>
    rw [List.forall_mem_cons] at h
    rw [List.flatMap_cons, List.flatMap_cons]
    exact (clause.readsAs h.1).append (ih h.2) (head?_flatMap_chars rest)

theorem literals_flatMap (clauses : List Clause) :
    SqlAccess.literals (clauses.flatMap lexemes) = clauses.flatMap literals := by
  induction clauses with
  | nil => rfl
  | cons clause rest ih =>
    rw [List.flatMap_cons, List.flatMap_cons, literals_append, literals_lexemes, ih]

/-- Around the literals of queries that look alike clause by clause, the text is the same. -/
theorem outside_flatMap {clauses others : List Clause} (h : List.Forall₂ Alike clauses others) :
    outside (clauses.flatMap lexemes) = outside (others.flatMap lexemes) := by
  induction h with
  | nil => rfl
  | cons halike _ ih =>
    rw [List.flatMap_cons, List.flatMap_cons, outside_append, outside_append,
      outside_lexemes halike, ih]

theorem Alike.columns_eq {a b : Clause} (h : a.Alike b) : b.columns = a.columns := by
  cases h <;> rfl

end Clause

namespace CatalogQuery

/-- Queries that select from a view, with columns and a view that have no quotes in their names. -/
inductive Plain : (List Clause → CatalogQuery) → Prop
  | ofView {view : String} : '\'' ∉ view.toList → Plain (ofView view)
  | select {columns view : String} :
      '\'' ∉ columns.toList → '\'' ∉ view.toList → Plain (select columns view)

theorem quote_not_mem_start {columns view : String} (hcolumns : '\'' ∉ columns.toList)
    (hview : '\'' ∉ view.toList) (clauses : List Clause) :
    '\'' ∉ (select columns view clauses).start.toList := by
  simp [select, informationSchema, toString, hcolumns, hview]

theorem toList_text (q : CatalogQuery) :
    q.text.toList = q.start.toList ++ q.clauses.flatMap Clause.chars := by
  simp [text]

theorem text_eq_of_plain {query : List Clause → CatalogQuery} (h : Plain query) :
    ∃ start, '\'' ∉ start ∧
      ∀ clauses, (query clauses).text.toList = start ++ clauses.flatMap Clause.chars := by
  cases h with
  | ofView hview => exact ⟨_, quote_not_mem_start (by simp) hview [], fun _ => toList_text _⟩
  | select hcolumns hview =>
    exact ⟨_, quote_not_mem_start hcolumns hview [], fun _ => toList_text _⟩

end CatalogQuery

/-- No name and no pattern gets out of its literal, and the text around the literals says no more
about them than how they look. -/
theorem text_literals {query : List Clause → CatalogQuery} (hquery : CatalogQuery.Plain query)
    (clauses : List Clause)
    (hcolumns : ∀ clause ∈ clauses, ∀ column ∈ clause.columns, '\'' ∉ column.toList) :
    ∃ ls, lexemes? none (query clauses).text.toList = some ls ∧
      literals ls = clauses.flatMap Clause.literals ∧
      ∀ others, List.Forall₂ Clause.Alike clauses others →
        ∃ ls', lexemes? none (query others).text.toList = some ls' ∧ outside ls' = outside ls := by
  obtain ⟨start, hstart, htext⟩ := CatalogQuery.text_eq_of_plain hquery
  -- The start of the query is code, and its clauses are read behind it.
  have hread (clauses : List Clause)
      (h : ∀ clause ∈ clauses, ∀ column ∈ clause.columns, '\'' ∉ column.toList) :
      lexemes? none (query clauses).text.toList =
        some (code start ++ clauses.flatMap Clause.lexemes) := by
    have hreads := ReadsAs.code_append hstart (Clause.readsAs_flatMap h) [] nofun
    rw [List.append_nil] at hreads
    rw [htext, hreads]
    simp [lexemes?]
  refine ⟨_, hread clauses hcolumns, ?_, ?_⟩
  · rw [literals_append, literals_code, Clause.literals_flatMap, List.nil_append]
  · intro others halike
    -- Clauses that look alike are about the same columns, so they can be read as well.
    have hothers : ∀ clause ∈ others, ∀ column ∈ clause.columns, '\'' ∉ column.toList := by
      induction halike with
      | nil => exact nofun
      | cons h _ ih =>
        rw [List.forall_mem_cons] at hcolumns ⊢
        rw [h.columns_eq]
        exact ⟨hcolumns.1, ih hcolumns.2⟩
    refine ⟨_, hread others hothers, ?_⟩
    rw [outside_append, outside_append, Clause.outside_flatMap halike]

/-- A name that ends its literal and a list that ends the query are names like any others. -/
theorem text_literals_tables :
    ∃ ls,
      lexemes? none (CatalogQuery.ofView "SYSTEM_TABLES"
        [.equals "TABLE_SCHEM" (some "O'BRIEN' OR 'A' = 'A"), .like "TABLE_NAME" (some "MY\\_%"),
          .oneOf "TABLE_TYPE" (some ["TABLE", "'); --"]),
          .orderBy ["TABLE_TYPE"]]).text.toList = some ls ∧
      literals ls = ["O'BRIEN' OR 'A' = 'A".toList, "MY\\_%".toList, "\\".toList, "TABLE".toList,
        "'); --".toList] ∧
      ∃ ls',
        lexemes? none (CatalogQuery.ofView "SYSTEM_TABLES"
          [.equals "TABLE_SCHEM" (some "PUBLIC"), .like "TABLE_NAME" (some "A\\_B"),
            .oneOf "TABLE_TYPE" (some ["TABLE", "VIEW"]),
            .orderBy ["TABLE_TYPE"]]).text.toList = some ls' ∧
        outside ls' = outside ls := by
  have hview : CatalogQuery.Plain (CatalogQuery.ofView "SYSTEM_TABLES") := .ofView (by decide)
  obtain ⟨ls, hread, hliterals, halike⟩ := text_literals hview
    [.equals "TABLE_SCHEM" (some "O'BRIEN' OR 'A' = 'A"), .like "TABLE_NAME" (some "MY\\_%"),
      .oneOf "TABLE_TYPE" (some ["TABLE", "'); --"]), .orderBy ["TABLE_TYPE"]] (by decide)
  refine ⟨ls, hread, ?_, halike _ ?_⟩
  · rw [hliterals]
    decide
  · exact .cons (.equals (by decide)) (.cons (.like (by decide))
      (.cons (.oneOf rfl) (.cons (.same _) .nil)))

end SqlAccess
