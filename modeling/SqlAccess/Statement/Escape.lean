import SqlAccess.Text.Blank

/-!
# Escape syntax

Client statements may hold escapes in braces, such as a call or a date literal. Scanning a
statement turns its text into pieces: characters that are kept, parameter markers, and the native
keyword that an escape starts with. Quoted runs and comments are kept as they are. A brace that
starts no escape is kept, together with the brace that closes it.

The scanner reads one character at a time. Its mode tells what the character belongs to, and a
stack tells for each open brace whether it was an escape.
-/

namespace SqlAccess.Escape

open SqlAccess.Text

/-- A piece of a scanned statement. -/
inductive Piece
  | verbatim (c : Char)
  /-- A parameter marker. -/
  | marker
  /-- The native keyword of an escape. -/
  | keyword (word : String)
deriving DecidableEq

/-- The native text of a piece. -/
def Piece.chars : Piece → List Char
  | verbatim c => [c]
  | marker => ['?']
  | keyword word => word.toList

/-- What the next character belongs to. -/
inductive Mode
  | code
  | quoted (quote : Char)
  | lineComment
  | blockComment
  /-- The slash that ends a block comment. -/
  | commentEnd
  /-- The head of an escape, of which so many characters are left after this one. -/
  | escapeHead (left : Nat)
deriving DecidableEq

/-- The native keyword for an escape keyword, and whether blanks after it are dropped. -/
def nativeKeyword? (word : List Char) : Option (String × Bool) :=
  match String.ofList word with
  | "call" => some ("CALL", false)
  | "d" => some ("DATE", false)
  | "t" => some ("TIME", false)
  | "ts" => some ("TIMESTAMP", false)
  | "escape" => some ("ESCAPE", false)
  | "fn" => some ("", true)
  | "oj" => some ("", true)
  | _ => none

/-- The letters at the start of a text, in lower case. -/
def leadingWord (s : List Char) : List Char :=
  (s.takeWhile Char.isAlpha).map Char.toLower

/-- The text after its leading letters. -/
def afterWord (s : List Char) : List Char :=
  s.dropWhile Char.isAlpha

/-- The text after the head of an escape that calls a function for its result: a marker, an equals
sign and the keyword `call`. -/
def functionCallHead? (s : List Char) : Option (List Char) :=
  match s with
  | '?' :: s =>
    match trimStart s with
    | '=' :: s =>
      let s := trimStart s
      if leadingWord s = "call".toList then some (afterWord s) else none
    | _ => none
  | _ => none

/-- The native keyword of the escape that a text after an open brace starts, and what follows its
head; none if it starts no escape. -/
def escapeHead? (s : List Char) : Option (String × List Char) :=
  let s := trimStart s
  if s.head? = some '?' then (functionCallHead? s).map fun rest => ("CALL", rest)
  else
    (nativeKeyword? (leadingWord s)).map fun (word, dropBlanks) =>
      (word, if dropBlanks then trimStart (afterWord s) else afterWord s)

/-- The mode after a character of code, with the next one in sight. -/
def modeAfter (c : Char) (next : Option Char) : Mode :=
  if c = '\'' ∨ c = '"' then .quoted c
  else if c = '-' ∧ next = some '-' then .lineComment
  else if c = '/' ∧ next = some '*' then .blockComment
  else .code

/-- The pieces of a text, scanned in a mode with a stack of open braces. A quote that is doubled
inside a quoted run ends the run and starts the next one, with the same effect. -/
def scan : Mode → List Bool → List Char → List Piece
  | _, _, [] => []
  -- The keyword stands for the whole head of an escape.
  | .escapeHead 0, braces, _ :: rest => scan .code braces rest
  | .escapeHead (left + 1), braces, _ :: rest => scan (.escapeHead left) braces rest
  -- Quoted runs and comments are kept as they are.
  | .quoted quote, braces, c :: rest =>
    .verbatim c :: scan (if c = quote then .code else .quoted quote) braces rest
  | .lineComment, braces, c :: rest =>
    .verbatim c :: scan (if c = '\n' then .code else .lineComment) braces rest
  | .blockComment, braces, c :: rest =>
    .verbatim c ::
      scan (if c = '*' ∧ rest.head? = some '/' then .commentEnd else .blockComment) braces rest
  | .commentEnd, braces, c :: rest => .verbatim c :: scan .code braces rest
  -- Code. A closing brace belongs to the innermost brace that is open.
  | .code, braces, '?' :: rest => .marker :: scan .code braces rest
  | .code, braces, '\x7b' :: rest =>
    match escapeHead? rest with
    | some (word, afterHead) =>
      .keyword word :: scan (.escapeHead (rest.length - afterHead.length - 1)) (true :: braces) rest
    | none => .verbatim '\x7b' :: scan .code (false :: braces) rest
  | .code, true :: braces, '\x7d' :: rest => scan .code braces rest
  | .code, braces, '\x7d' :: rest => .verbatim '\x7d' :: scan .code braces.tail rest
  | .code, braces, c :: rest => .verbatim c :: scan (modeAfter c rest.head?) braces rest

/-- The pieces of a statement. -/
def pieces (sql : List Char) : List Piece :=
  scan .code [] sql

/-- The native text of pieces. -/
def nativeChars (pieces : List Piece) : List Char :=
  pieces.flatMap Piece.chars

/-- The number of parameter markers. -/
def markerCount (pieces : List Piece) : Nat :=
  pieces.count .marker

theorem nativeChars_append (a b : List Piece) :
    nativeChars (a ++ b) = nativeChars a ++ nativeChars b := by
  simp [nativeChars]

end SqlAccess.Escape
