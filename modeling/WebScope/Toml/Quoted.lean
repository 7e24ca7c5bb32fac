import WebScope.Text.Blank

/-!
# Quoted texts of TOML

A text is written between quotes of one of four kinds: basic or literal, on one line or on several. Basic texts have
escapes behind a backslash, literal ones none. Texts on several lines stand between three quotes, and a line break right
behind the opening quotes does not belong to them.

`Quoted.write` chooses the plainest kind that can hold a text; `Quoted.read?` reads any kind.
-/

namespace WebScope
namespace Toml
namespace Quoted

/-- The characters that can stand in quotes, in comments and between other tokens as they are, quotes and backslashes
apart: the tab, and everything but controls. -/
def isPlain (c : Char) : Bool := c == '\t' || (0x20 ≤ c.toNat && c.toNat != 0x7F)

/-- Spaces and tabs. -/
def isMargin (c : Char) : Bool := c == ' ' || c == '\t'

/-- The text behind the line break at the start of a text. -/
def afterBreak? : Text → Option Text
  | '\n' :: s => some s
  | '\r' :: '\n' :: s => some s
  | _ => none

/-- The text without the line break at its start, if there is one. -/
def dropBreak (s : Text) : Text := (afterBreak? s).getD s

/-! ## Reading -/

/-- The character of a point in base sixteen. -/
def scalar? (digits : Text) : Option Char :=
  (Text.number? 16 digits).bind fun n => if n.isValidChar then some (Char.ofNat n) else none

/-- What a character behind a backslash stands for. -/
def escaped? (c : Char) : Option Char :=
  if c = 'b' then some '\x08'
  else if c = 't' then some '\t'
  else if c = 'n' then some '\n'
  else if c = 'f' then some '\x0c'
  else if c = 'r' then some '\r'
  else if c = '"' ∨ c = '\\' then some c
  else none

/-- The character that the text behind a backslash starts with, and how much of the text says so. -/
def escape? : Text → Option (Char × Nat)
  | 'u' :: s => if s.length < 4 then none else (scalar? (s.take 4)).map fun c => (c, 5)
  | 'U' :: s => if s.length < 8 then none else (scalar? (s.take 8)).map fun c => (c, 9)
  | e :: _ => (escaped? e).map fun c => (c, 1)
  | [] => none

/-- Puts a character before what is read. -/
def consTo (c : Char) : Option (Text × Text) → Option (Text × Text) := Option.map fun (t, rest) => (c :: t, rest)

/-- **Reads a basic text on one line** behind its opening quote, after the first `skip` characters. -/
def basic? : Nat → Text → Option (Text × Text)
  | _, [] => none
  | skip + 1, _ :: s => basic? skip s
  | 0, c :: s =>
    if c = '"' then some ([], s)
    else if c = '\\' then (escape? s).bind fun (e, n) => consTo e (basic? n s)
    else if isPlain c then consTo c (basic? 0 s)
    else none

/-- **Reads a literal text on one line** behind its opening quote. -/
def literal? : Text → Option (Text × Text)
  | [] => none
  | c :: s =>
    if c = '\'' then some ([], s)
    else if isPlain c then consTo c (literal? s)
    else none

/-- The text behind the quotes `q` that close a text on several lines, with those before them that belong to it: of a
row of quotes the last three close, and at most two more are there. -/
def closing? (q : Char) (s : Text) : Option (Text × Text) :=
  match Text.after? [q, q, q] s with
  | none => none
  | some r =>
    match Text.after? [q, q] r with
    | some r => some ([q, q], r)
    | none =>
      match Text.after? [q] r with
      | some r => some ([q], r)
      | none => some ([], r)

/-- Whether a line break follows behind spaces and tabs. -/
def endsLine (s : Text) : Bool := (afterBreak? (s.dropWhile isMargin)).isSome

/-- How many spaces, tabs and line breaks a text starts with. -/
def blanksBefore : Text → Nat
  | '\r' :: '\n' :: s => blanksBefore s + 2
  | c :: s => if isMargin c || c == '\n' then blanksBefore s + 1 else 0
  | [] => 0

/-- **Reads a basic text on several lines** behind its opening quotes, after the first `skip` characters. A backslash at
the end of a line takes all blanks and line breaks behind it away. -/
def basicLines? : Nat → Text → Option (Text × Text)
  | _, [] => none
  | skip + 1, _ :: s => basicLines? skip s
  | 0, c :: s =>
    match closing? '"' (c :: s) with
    | some r => some r
    | none =>
      if c = '\\' then
        if endsLine s then basicLines? (blanksBefore s) s
        else (escape? s).bind fun (e, n) => consTo e (basicLines? n s)
      else if c = '\r' then (if s.head? = some '\n' then basicLines? 0 s else none)
      else if c = '\n' || isPlain c then consTo c (basicLines? 0 s)
      else none

/-- **Reads a literal text on several lines** behind its opening quotes. -/
def literalLines? : Text → Option (Text × Text)
  | [] => none
  | c :: s =>
    match closing? '\'' (c :: s) with
    | some r => some r
    | none =>
      if c = '\r' then (if s.head? = some '\n' then literalLines? s else none)
      else if c = '\n' || isPlain c then consTo c (literalLines? s)
      else none

/-- **Reads a quoted text** of any kind. -/
def read? (s : Text) : Option (Text × Text) :=
  match Text.after? ['"', '"', '"'] s, Text.after? ['\'', '\'', '\''] s, s with
  | some s, _, _ => basicLines? 0 (dropBreak s)
  | none, some s, _ => literalLines? (dropBreak s)
  | none, none, '"' :: s => basic? 0 s
  | none, none, '\'' :: s => literal? s
  | none, none, _ => none

/-! ## Writing -/

/-- A character of a basic text as it is written, quotes and line feeds apart. -/
def escape (c : Char) : Text :=
  if c = '\\' then ['\\', '\\']
  else if c = '\x08' then ['\\', 'b']
  else if c = '\t' then ['\\', 't']
  else if c = '\x0c' then ['\\', 'f']
  else if c = '\r' then ['\\', 'r']
  else if c.toNat < 0x20 ∨ c.toNat = 0x7F then
    ['\\', 'u', '0', '0', Text.hexDigit 'A' (c.toNat / 16), Text.hexDigit 'A' (c.toNat % 16)]
  else [c]

/-- The inside of a basic text on one line. -/
def basicText (s : Text) : Text :=
  s.flatMap fun c => if c = '"' then ['\\', '"'] else if c = '\n' then ['\\', 'n'] else escape c

/-- The inside of a basic text on several lines, behind `quotes` quotes in a row: each third one is escaped. -/
def basicLinesText (quotes : Nat) : Text → Text
  | [] => []
  | c :: s =>
    if c = '"' then
      if quotes = 2 then '\\' :: '"' :: basicLinesText 0 s else '"' :: basicLinesText (quotes + 1) s
    else if c = '\n' then '\n' :: basicLinesText 0 s
    else escape c ++ basicLinesText 0 s

/-- Whether a text holds a control that no literal text can hold. -/
def hasControl (s : Text) : Bool := s.any fun c => c != '\n' && !isPlain c

/-- Whether a text holds a mark. -/
def holds (mark s : Text) : Bool := (Text.cutMark? mark s).isSome

/-- A line break at the start of a text on several lines that needs several lines. -/
def leadingBreak (s : Text) : Text := if s.contains '\n' then ['\n'] else []

/-- **Writes a quoted text** of the plainest kind that can hold it. -/
def write (s : Text) : Text :=
  if !hasControl s && !s.contains '\\' && !s.contains '"' && !s.contains '\n' then '"' :: basicText s ++ ['"']
  else if !hasControl s && !s.contains '\'' && !s.contains '\n' then '\'' :: s ++ ['\'']
  else if !hasControl s && !s.contains '\\' && !holds ['"', '"', '"'] s then
    ['"', '"', '"'] ++ leadingBreak s ++ basicLinesText 0 s ++ ['"', '"', '"']
  else if !hasControl s && !holds ['\'', '\'', '\''] s then
    ['\'', '\'', '\''] ++ leadingBreak s ++ s ++ ['\'', '\'', '\'']
  else if s.contains '\n' then ['"', '"', '"'] ++ leadingBreak s ++ basicLinesText 0 s ++ ['"', '"', '"']
  else '"' :: basicText s ++ ['"']

end Quoted
end Toml
end WebScope
