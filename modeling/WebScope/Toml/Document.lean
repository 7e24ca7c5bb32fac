import WebScope.Toml.Quoted
import WebScope.Toml.Scalar
import WebScope.Toml.Table

/-!
# TOML documents

A document is a list of lines: assignments of a value to a key, headers of tables and of arrays of tables, comments and
blank lines. Values go over several lines only in arrays and in texts that say so.

`Document.statements?` reads the lines, `Document.ofStatements?` builds the table that they describe, and
`Document.ofText?` is both together.
-/

namespace WebScope
namespace Toml

/-- A dotted key: the parts before the last one, and the last one. -/
abbrev Key := List Text × Text

/-- **A line of a document** that says something. -/
inductive Statement
  | assignment (key : Key) (value : Value)
  /-- The header of a table, or of a table in an array. -/
  | header (isItem : Bool) (key : Key)

namespace Document

/-! ## Tokens -/

/-- The text behind spaces and tabs. -/
def dropMargin (s : Text) : Text := s.dropWhile Quoted.isMargin

/-- The text behind a comment, if it starts with one. -/
def dropComment (s : Text) : Text := if s.head? = some '#' then s.dropWhile Quoted.isPlain else s

/-- The text of the next line, if only a comment is left in this one. -/
def nextLine? (s : Text) : Option Text :=
  match dropComment (dropMargin s) with
  | [] => some []
  | s => Quoted.afterBreak? s

/-- The characters of keys that need no quotes. -/
def isKeyChar (c : Char) : Bool := c.isAlphanum || c == '-' || c == '_'

/-- One part of a key. -/
def keyPart? : Text → Option (Text × Text)
  | '"' :: s => Quoted.basic? 0 s
  | '\'' :: s => Quoted.literal? s
  | s => if s.takeWhile isKeyChar = [] then none else some (s.takeWhile isKeyChar, s.dropWhile isKeyChar)

/-- How deep values and keys can nest. -/
def depth : Nat := 79

/-- **Reads a key** of at most `room + 1` parts, with spaces and tabs around it. -/
def key? : Nat → Text → Option (Key × Text)
  | 0, s => do
    let (part, s) ← keyPart? (dropMargin s)
    match dropMargin s with
    | '.' :: _ => none
    | s => return (([], part), s)
  | room + 1, s => do
    let (part, s) ← keyPart? (dropMargin s)
    match dropMargin s with
    | '.' :: s =>
      let ((path, last), s) ← key? room s
      return ((part :: path, last), s)
    | s => return (([], part), s)

/-- The text behind spaces, tabs, line breaks and comments, from inside a comment or from outside. -/
def dropLines (inComment : Bool) : Text → Text
  | [] => []
  | c :: s =>
    if c = '\n' then dropLines false s
    else if c = '\r' then (if s.head? = some '\n' then dropLines false s else c :: s)
    else if inComment then (if Quoted.isPlain c then dropLines true s else c :: s)
    else if Quoted.isMargin c then dropLines false s
    else if c = '#' then dropLines true s
    else c :: s

/-! ## Values -/

mutual

/-- **Reads a value**, in which brackets can still nest to the depth `room`. -/
def value? : Nat → Nat → Text → Option (Value × Text)
  | 0, _, _ => none
  | fuel + 1, room, s =>
    match s with
    | '[' :: s =>
      match room with
      | 0 => none
      | room + 1 => (items? fuel room s).map fun (vs, rest) => (.array false vs, rest)
    | '\x7b' :: s =>
      match room with
      | 0 => none
      | room + 1 => (entries? fuel room s).map fun (es, rest) => (.table .braces es, rest)
    | '"' :: _ => (Quoted.read? s).map fun (t, rest) => (.string t, rest)
    | '\'' :: _ => (Quoted.read? s).map fun (t, rest) => (.string t, rest)
    | s => Scalar.read? s

/-- Reads the items of an array up to its closing bracket; a comma can stand behind the last one. -/
def items? : Nat → Nat → Text → Option (List Value × Text)
  | 0, _, _ => none
  | fuel + 1, room, s =>
    match dropLines false s with
    | ']' :: s => some ([], s)
    | s => do
      let (v, s) ← value? fuel room s
      match dropLines false s with
      | ',' :: s =>
        let (vs, s) ← items? fuel room s
        return (v :: vs, s)
      | ']' :: s => return ([v], s)
      | _ => none

/-- Reads the entries of a table in braces. -/
def entries? : Nat → Nat → Text → Option (Entries × Text)
  | 0, _, _ => none
  | fuel + 1, room, s =>
    match dropMargin s with
    | '\x7d' :: s => some ([], s)
    | s => moreEntries? fuel room [] s

/-- Reads entries up to the closing brace, and adds them to the entries `es`. -/
def moreEntries? : Nat → Nat → Entries → Text → Option (Entries × Text)
  | 0, _, _, _ => none
  | fuel + 1, room, es, s => do
    let ((path, last), s) ← key? depth.pred s
    match s with
    | '=' :: s =>
      let (v, s) ← value? fuel room (dropMargin s)
      let es ← Table.assign path last v es
      match dropMargin s with
      | ',' :: s => moreEntries? fuel room es s
      | '\x7d' :: s => return (es, s)
      | _ => none
    | _ => none

end

/-! ## Lines -/

/-- Reads the header of a table behind its first bracket. -/
def header? (s : Text) : Option (Statement × Text) := do
  match s with
  | '[' :: s =>
    let (key, s) ← key? depth.pred s
    let s ← Text.after? [']', ']'] s
    return (.header true key, s)
  | s =>
    let (key, s) ← key? depth.pred s
    let s ← Text.after? [']'] s
    return (.header false key, s)

/-- Reads an assignment. -/
def assignment? (s : Text) : Option (Statement × Text) := do
  let (key, s) ← key? depth.pred s
  match s with
  | '=' :: s =>
    let s := dropMargin s
    let (v, s) ← value? (3 * s.length + 3) depth s
    return (.assignment key v, s)
  | _ => none

/-- Reads a statement. -/
def statement? (s : Text) : Option (Statement × Text) :=
  match s with
  | '[' :: s => header? s
  | s => assignment? s

/-- Reads the statements of all lines. -/
def lines? : Nat → Text → Option (List Statement)
  | 0, _ => none
  | fuel + 1, s =>
    match dropMargin s with
    | [] => some []
    | c :: s =>
      if c = '#' ∨ c = '\n' ∨ c = '\r' then (nextLine? (c :: s)).bind (lines? fuel)
      else do
        let (st, s) ← statement? (c :: s)
        let s ← nextLine? s
        return st :: (← lines? fuel s)

/-- The text behind the mark of byte order at its start, if there is one. -/
def dropOrderMark : Text → Text
  | '\ufeff' :: s => s
  | s => s

/-- **The statements of a text.** -/
def statements? (s : Text) : Option (List Statement) := lines? (s.length + 1) (dropOrderMark s)

/-! ## The table of a document -/

/-- Carries out the assignments up to the next header. -/
def assignAll (es : Entries) : List Statement → Option Entries
  | .assignment (path, last) v :: rest => do assignAll (← Table.assign path last v es) rest
  | _ => some es

/-- Fills the tables of all headers, each with the assignments behind it. -/
def fillAll (es : Entries) : List Statement → Option Entries
  | [] => some es
  | .assignment _ _ :: rest => fillAll es rest
  | .header isItem (path, last) :: rest => do
    fillAll (← Table.fill isItem path last (fun inner => assignAll inner rest) es) rest

/-- **The table that statements describe.** Assignments before the first header are its own. -/
def ofStatements? (sts : List Statement) : Option Entries := do fillAll (← assignAll [] sts) sts

/-- **Reads a document** as its table. -/
def ofText? (s : Text) : Option Entries := (statements? s).bind ofStatements?

end Document
end Toml
end WebScope
