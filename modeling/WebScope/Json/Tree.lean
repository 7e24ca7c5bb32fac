import WebScope.Json.Basic
import WebScope.Json.Token

/-!
# JSON texts as trees

What is wrong with a JSON text depends on what is expected of it: a reader that expects a string stops at a bracket
without looking into the array, and a reader that steps over a value does not mind what another one refuses. So a text
is first read as a tree without regard to expectations, up to the first place that nobody can pass. Such a place is a
hole of the tree: a value that is `broken`, or the end of an array or object that is not closed.

`Tree.ofText` reads the tree of a text, in one pass from the left. `Tree.ofJson` is the tree of a value.
-/

namespace WebScope
namespace Json

/-- **A JSON text as it is written.** -/
inductive Tree
  | null
  | bool (value : Bool)
  | number (value : Number)
  /-- A string; it has no text if a surrogate is alone in it. -/
  | string (value : Option Text)
  /-- The items, and the hole at which they end if the array is not closed. -/
  | array (items : List Tree) (hole : Option Hole)
  /-- The members with their names, and the hole at which they end if the object is not closed. -/
  | object (members : List (Option Text × Tree)) (hole : Option Hole)
  | broken (hole : Hole)

namespace Tree

/-- A value that is faulty in the same way to every reader, with nothing behind it. -/
def stop (f : Fault) : Tree × Option Text := (.broken (.plain f), none)

/-- The end of an unclosed list at a text that does not go on. -/
def unclosed (s : Text) : Hole := .plain (if s = [] then .ended else .malformed)

/-- Reads the rest of the word that writes the value `t`. -/
def ofWord (t : Tree) (w : String) (s : Text) : Tree × Option Text :=
  match Token.word w.toList s with
  | .ok rest => (t, some rest)
  | .error h => (.broken h, none)

/-- A string behind its opening quote. -/
def ofString (s : Text) : Tree × Option Text :=
  match Token.string s with
  | .ok (value, rest) => (.string value, some rest)
  | .error h => (.broken h, none)

/-- A number behind its minus, if it has one. -/
def ofNumber (negative : Bool) (s : Text) : Tree × Option Text :=
  match Token.number negative s with
  | .ok (n, rest) => (.number n, some rest)
  | .error h => (.broken h, none)

mutual

/-- **Reads a value** and gives the text behind it; there is none behind a hole. -/
def value : Nat → Text → Tree × Option Text
  | 0, _ => stop .ended
  | fuel + 1, s =>
    match dropBlanks s with
    | [] => stop .ended
    | '[' :: s =>
      match dropBlanks s with
      | ']' :: s => (.array [] none, some s)
      | s => let (ts, hole, rest) := items fuel s; (.array ts hole, rest)
    | '\x7b' :: s =>
      match dropBlanks s with
      | '\x7d' :: s => (.object [] none, some s)
      | s => let (ms, hole, rest) := members fuel s; (.object ms hole, rest)
    | '"' :: s => ofString s
    | 'n' :: s => ofWord .null "ull" s
    | 't' :: s => ofWord (.bool true) "rue" s
    | 'f' :: s => ofWord (.bool false) "alse" s
    | '-' :: s => ofNumber true s
    | c :: s => if c.isDigit then ofNumber false (c :: s) else stop .malformed

/-- Reads the items of an array up to its closing bracket. -/
def items : Nat → Text → List Tree × Option Hole × Option Text
  | 0, _ => ([], some (.plain .ended), none)
  | fuel + 1, s =>
    match value fuel s with
    | (t, none) => ([t], none, none)
    | (t, some s) =>
      match dropBlanks s with
      | ']' :: s => ([t], none, some s)
      | ',' :: s => let (ts, hole, rest) := items fuel s; (t :: ts, hole, rest)
      | s => ([t], some (unclosed s), none)

/-- Reads the members of an object up to its closing bracket. -/
def members : Nat → Text → List (Option Text × Tree) × Option Hole × Option Text
  | 0, _ => ([], some (.plain .ended), none)
  | fuel + 1, s =>
    match dropBlanks s with
    | '"' :: s =>
      match Token.string s with
      | .error hole => ([], some hole, none)
      | .ok (name, s) =>
        match dropBlanks s with
        | ':' :: s =>
          match value fuel s with
          | (t, none) => ([(name, t)], none, none)
          | (t, some s) =>
            match dropBlanks s with
            | '\x7d' :: s => ([(name, t)], none, some s)
            | ',' :: s => let (ms, hole, rest) := members fuel s; ((name, t) :: ms, hole, rest)
            | s => ([(name, t)], some (unclosed s), none)
        | s => ([(name, .broken (unclosed s))], none, none)
    | s => ([], some (unclosed s), none)

end

/-- **Reads a text**: its tree, and whether more than blanks stand behind it. Two steps for each character are more than
any text needs. -/
def ofText (s : Text) : Tree × Bool :=
  let (t, rest) := value (2 * s.length + 2) s
  (t, rest.any fun r => dropBlanks r != [])

/-! ## The tree of a value -/

mutual

/-- **The tree of a value.** -/
def ofJson : Json → Tree
  | .null => .null
  | .bool b => .bool b
  | .number n => .number n
  | .string s => .string (some s)
  | .array vs => .array (ofItems vs) none
  | .object ms => .object (ofMembers ms) none

/-- The trees of the items of an array. -/
def ofItems : List Json → List Tree
  | [] => []
  | v :: vs => ofJson v :: ofItems vs

/-- The trees of the members of an object. -/
def ofMembers : List (Text × Json) → List (Option Text × Tree)
  | [] => []
  | (name, v) :: ms => (some name, ofJson v) :: ofMembers ms

end

end Tree
end Json
end WebScope
