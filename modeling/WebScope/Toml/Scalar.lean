import WebScope.Toml.Value

/-!
# Scalars of TOML without quotes

Truth values, integers, floats and dates. All are made of the same few characters (`isBare`), so a scalar is the longest
run of these, which then has to be one of the forms; only a date can go on behind a space with its time.
-/

namespace WebScope
namespace Toml
namespace Scalar

/-! ## Integers -/

/-- Digits without the underscores between them. -/
def digits? (isDigit : Char → Bool) (s : Text) : Option Text :=
  let parts := Text.fields (· == '_') s
  if parts.all fun p => p != [] && p.all isDigit then some parts.flatten else none

/-- Decimal digits that start with zero only if zero is the only one. -/
def decimal? (s : Text) : Option Text :=
  match s with
  | '0' :: _ :: _ => none
  | s => digits? Char.isDigit s

/-- Whether a sign is a minus, and the text behind it. -/
def signed (s : Text) : Bool × Text :=
  match s with
  | '-' :: s => (true, s)
  | '+' :: s => (false, s)
  | s => (false, s)

/-- How many integers there are of either sign. -/
def integerBound : Nat := Nat.pow 2 63

/-- The number of digits of a base, if it is an integer. -/
def based? (base : Nat) (s : Text) : Option Int := do
  let digits ← digits? (fun c => (Text.hexDigit? c).any (· < base)) s
  let n ← Text.number? base digits
  if n < integerBound then some n else none

/-- **Reads an integer.** -/
def integer? (s : Text) : Option Int :=
  match s with
  | '0' :: 'x' :: s => based? 16 s
  | '0' :: 'o' :: s => based? 8 s
  | '0' :: 'b' :: s => based? 2 s
  | s => do
    let (negative, s) := signed s
    let n ← Text.number? 10 (← decimal? s)
    if negative then (if n ≤ integerBound then some (-(n : Int)) else none)
    else if n < integerBound then some n else none

/-! ## Floats -/

/-- The text up to the first character of a class, and the rest from it on. -/
def splitAt (p : Char → Bool) (s : Text) : Text × Text := (s.takeWhile (!p ·), s.dropWhile (!p ·))

/-- The exponent that a text from `e` on says; nothing says zero. -/
def exponent? (s : Text) : Option Int :=
  match s with
  | [] => some 0
  | _ :: s => do
    let (negative, s) := signed s
    let n ← Text.number? 10 (← digits? Char.isDigit s)
    return if negative then -(n : Int) else n

/-- The digits that a text from the point on says; nothing says none. -/
def fraction? (s : Text) : Option Text :=
  match s with
  | [] => some []
  | _ :: s => digits? Char.isDigit s

/-- The least number that is rounded to no finite number. -/
def floatBound : Nat := Nat.pow 2 1024 - Nat.pow 2 970

/-- Whether `digits` times ten to the power `exponent` reaches the bound of floats. -/
def isInfinite (digits : Text) (exponent : Int) : Bool :=
  let n := (Text.number? 10 digits).getD 0
  let size : Int := (Text.ofNat n).length + exponent
  n ≠ 0 && 300 < size && (320 < size || floatBound * Nat.pow 10 (-exponent).toNat ≤ n * Nat.pow 10 exponent.toNat)

/-- **Whether a text is a float.** It has a point or an exponent; positive floats must be finite. -/
def isFloat (s : Text) : Bool :=
  let (negative, body) := signed s
  if body = "inf".toList ∨ body = "nan".toList then true
  else
    let (mantissa, power) := splitAt (fun c => c == 'e' || c == 'E') body
    let (whole, fraction) := splitAt (· == '.') mantissa
    match decimal? whole, fraction? fraction, exponent? power with
    | some whole, some digits, some exponent =>
      (fraction != [] || power != []) && (negative || !isInfinite (whole ++ digits) (exponent - digits.length))
    | _, _, _ => false

/-! ## Dates -/

/-- Whether two digits are a number from `low` to `high`. -/
def isTwo (low high : Nat) (a b : Char) : Bool :=
  a.isDigit && b.isDigit && ((Text.number? 10 [a, b]).any fun n => low ≤ n && n ≤ high)

/-- Whether a year has a leap day. -/
def isLeap (year : Nat) : Bool := year % 4 == 0 && (year % 100 != 0 || year % 400 == 0)

/-- How many days a month has. -/
def daysIn (year month : Nat) : Nat :=
  if month = 2 then (if isLeap year then 29 else 28)
  else if month = 4 ∨ month = 6 ∨ month = 9 ∨ month = 11 then 30
  else 31

/-- Whether a text is a date. -/
def isDate (s : Text) : Bool :=
  match s with
  | [a, b, c, d, '-', e, f, '-', g, h] =>
    [a, b, c, d].all Char.isDigit && isTwo 1 12 e f &&
      isTwo 1 (daysIn ((Text.number? 10 [a, b, c, d]).getD 0) ((Text.number? 10 [e, f]).getD 0)) g h
  | _ => false

/-- What follows the time at the start of a text; seconds can have a fraction and can be leap seconds. -/
def afterTime? (s : Text) : Option Text :=
  match s with
  | a :: b :: ':' :: c :: d :: ':' :: e :: f :: s =>
    if isTwo 0 23 a b && isTwo 0 59 c d && isTwo 0 60 e f then
      match s with
      | '.' :: s => if s.head?.any Char.isDigit then some (s.dropWhile Char.isDigit) else none
      | s => some s
    else none
  | _ => none

/-- Whether a text is a time. -/
def isTime (s : Text) : Bool := afterTime? s == some []

/-- Whether a text is an offset from universal time, or nothing. -/
def isOffset (s : Text) : Bool :=
  match s with
  | [] | ['Z'] | ['z'] => true
  | [sign, a, b, ':', c, d] => (sign == '+' || sign == '-') && isTwo 0 23 a b && isTwo 0 59 c d
  | _ => false

/-- Whether a text is a time that can have an offset. -/
def isZonedTime (s : Text) : Bool := (afterTime? s).any isOffset

/-- Whether a text is a date with its time. -/
def isDateTime (s : Text) : Bool :=
  isDate (s.take 10) && ((s.drop 10).head?.any fun c => c == 'T' || c == 't') && isZonedTime (s.drop 11)

/-! ## Any scalar -/

/-- The characters of which scalars are made. -/
def isBare (c : Char) : Bool := c.isAlphanum || c == '+' || c == '-' || c == '.' || c == ':' || c == '_'

/-- The value that a run of bare characters is. -/
def ofWord? (s : Text) : Option Value :=
  if s = "true".toList then some (.boolean true)
  else if s = "false".toList then some (.boolean false)
  else if isTime s || isDateTime s then some (.datetime s)
  else if isFloat s then some (.float s)
  else (integer? s).map .integer

/-- **Reads a scalar** and gives the text behind it. -/
def read? (s : Text) : Option (Value × Text) :=
  let word := s.takeWhile isBare
  let rest := s.dropWhile isBare
  if isDate word then
    match rest with
    | ' ' :: r =>
      let time := r.takeWhile isBare
      if time = [] then some (.datetime word, rest)
      else if isZonedTime time then some (.datetime (word ++ ' ' :: time), r.dropWhile isBare)
      else none
    | _ => some (.datetime word, rest)
  else (ofWord? word).map fun v => (v, rest)

end Scalar
end Toml
end WebScope
