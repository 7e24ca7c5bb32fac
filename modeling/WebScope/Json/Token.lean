import WebScope.Json.Number
import WebScope.Text.Utf8

/-!
# Tokens of JSON

Reading of the scalars of JSON from the front of a text. A text can be faulty in three ways (`Fault`), and a reader that
only steps over a value sees fewer faults, or others, than one that wants to know it: it does not mind surrogates
without a partner, nor numbers of any size, and a number that breaks off is malformed to it, not ended. A faulty place
therefore says what either of them sees (`Hole`).

Main statement: the points of a text are read back as the text (`textOf?_points`).
-/

namespace WebScope
namespace Json

/-- **What is wrong with a JSON text.** -/
inductive Fault
  /-- It ends too early. -/
  | ended
  /-- It is no JSON. -/
  | malformed
  /-- It is JSON, but not of the kind that is expected. -/
  | mismatch
  deriving DecidableEq, Repr

/-- A faulty place of a text. -/
structure Hole where
  /-- What a reader sees that steps over the place. -/
  skipped : Fault
  /-- What a reader sees that wants the value. -/
  read : Fault
  deriving DecidableEq, Repr

/-- A place that is faulty in the same way to every reader. -/
def Hole.plain (f : Fault) : Hole := ⟨f, f⟩

/-- The blanks of JSON. -/
def isBlank (c : Char) : Bool := c == ' ' || c == '\t' || c == '\n' || c == '\r'

/-- The text from its first character that is no blank. -/
def dropBlanks (s : Text) : Text := s.dropWhile isBlank

namespace Token

/-! ## Strings -/

/-- What a string says, as numbers: code points, and surrogates where these are written as escapes. -/
abbrev Points := List Nat

/-- The points of a text. -/
def points (s : Text) : Points := s.map Char.toNat

/-- Whether a point is the first half of a pair. -/
def isLeading (n : Nat) : Bool := 0xD800 ≤ n && n < 0xDC00

/-- Whether a point is the second half of a pair. -/
def isTrailing (n : Nat) : Bool := 0xDC00 ≤ n && n < 0xE000

/-- The text of points; nothing if a surrogate has no partner. -/
def textOf? : Points → Option Text
  | [] => some []
  | n :: ps =>
    if isLeading n then
      match ps with
      | [] => none
      | m :: ps =>
        if isTrailing m then
          (textOf? ps).map (Char.ofNat (0x10000 + (n - 0xD800) * 0x400 + (m - 0xDC00)) :: ·)
        else none
    else if isTrailing n then none
    else (textOf? ps).map (Char.ofNat n :: ·)

/-- Whether a surrogate among the points of an unfinished string can no longer find its partner; one at the very end
still can. -/
def hasLone : Points → Bool
  | [] => false
  | n :: ps =>
    if isLeading n then
      match ps with
      | [] => false
      | m :: ps => !isTrailing m || hasLone ps
    else isTrailing n || hasLone ps

/-- What a character behind a backslash stands for. -/
def escaped? (c : Char) : Option Nat :=
  if c = '"' ∨ c = '\\' ∨ c = '/' then some c.toNat
  else if c = 'b' then some 8
  else if c = 'f' then some 12
  else if c = 'n' then some 10
  else if c = 'r' then some 13
  else if c = 't' then some 9
  else none

/-- The point of four hexadecimal digits. -/
def point? (a b c d : Char) : Option Nat := Text.number? 16 [a, b, c, d]

/-- **Scans a string behind its opening quote**: the points, and the text behind the closing quote. Escapes of points
need four more octets of text. -/
def scanString : Text → Points × Except Fault Text
  | [] => ([], .error .ended)
  | c :: s =>
    if c = '"' then ([], .ok s)
    else if c = '\\' then
      match s with
      | [] => ([], .error .ended)
      | 'u' :: a :: b :: c :: d :: s =>
        match point? a b c d with
        | none => ([], .error .malformed)
        | some n => let (ps, rest) := scanString s; (n :: ps, rest)
      | 'u' :: s => ([], .error (if Utf8.size s < 4 then .ended else .malformed))
      | e :: s =>
        match escaped? e with
        | none => ([], .error .malformed)
        | some n => let (ps, rest) := scanString s; (n :: ps, rest)
    else if c.toNat < 0x20 then ([], .error .malformed)
    else let (ps, rest) := scanString s; (c.toNat :: ps, rest)

/-- **Reads a string behind its opening quote.** A closed string has its text, unless a surrogate is alone in it. -/
def string (s : Text) : Except Hole (Option Text × Text) :=
  match scanString s with
  | (ps, .ok rest) => .ok (textOf? ps, rest)
  | (ps, .error f) => .error ⟨f, if hasLone ps then .malformed else f⟩

/-! ## Numbers -/

/-- The place where a number breaks off. -/
def halted (s : Text) : Hole := ⟨.malformed, if s = [] then .ended else .malformed⟩

/-- The digits behind a point, if there is one. -/
def fraction : Text → Except Hole (Text × Text)
  | '.' :: s =>
    if s.takeWhile Char.isDigit = [] then .error (halted s)
    else .ok (s.takeWhile Char.isDigit, s.dropWhile Char.isDigit)
  | s => .ok ([], s)

/-- Whether a sign is a minus, and the text behind it. -/
def sign : Text → Bool × Text
  | '-' :: s => (true, s)
  | '+' :: s => (false, s)
  | s => (false, s)

/-- The exponent behind `e`, if there is one. -/
def exponent : Text → Except Hole (Int × Text)
  | [] => .ok (0, [])
  | c :: s =>
    if c = 'e' ∨ c = 'E' then
      let (negative, s) := sign s
      let digits := s.takeWhile Char.isDigit
      if digits = [] then .error (halted s)
      else
        let size : Int := ((Text.number? 10 digits).getD 0 : Nat)
        .ok (if negative then -size else size, s.dropWhile Char.isDigit)
    else .ok (0, c :: s)

/-- **Reads a number** behind its minus, if it has one. Digits before the point start with zero only if zero is the
only one. -/
def number (negative : Bool) (s : Text) : Except Hole (Number × Text) :=
  match s.takeWhile Char.isDigit with
  | [] => .error (halted s)
  | '0' :: _ :: _ => .error (.plain .malformed)
  | whole => do
    let (fraction, s) ← fraction (s.dropWhile Char.isDigit)
    let (exponent, s) ← exponent s
    return (⟨negative, whole, fraction, exponent⟩, s)

/-! ## Words -/

/-- Reads the rest of a word. -/
def word (w s : Text) : Except Hole Text :=
  match w, s with
  | [], s => .ok s
  | _ :: _, [] => .error (.plain .ended)
  | a :: w, c :: s => if a = c then word w s else .error (.plain .malformed)

/-! ## Reading back -/

/-- No character is a surrogate. -/
theorem not_surrogate (c : Char) : isLeading c.toNat = false ∧ isTrailing c.toNat = false := by
  have h := c.valid
  simp only [UInt32.isValidChar, Nat.isValidChar] at h
  have hc : c.toNat = c.val.toNat := rfl
  simp only [isLeading, isTrailing, hc, Bool.and_eq_false_imp, decide_eq_true_eq, decide_eq_false_iff_not]
  omega

/-- **The points of a text are read back as the text.** -/
theorem textOf?_points : ∀ s : Text, textOf? (points s) = some s
  | [] => rfl
  | c :: s => by
    have h := not_surrogate c
    have ih := textOf?_points s
    simp only [points] at ih
    rw [points, List.map_cons, textOf?.eq_def]
    simp [h.1, h.2, ih, Char.ofNat_toNat]

/-- A word is read back from its text. -/
theorem word_append : ∀ w s : Text, word w (w ++ s) = .ok s
  | [], s => by cases s <;> rfl
  | a :: w, s => by simp [word, word_append w s]

end Token
end Json
end WebScope
