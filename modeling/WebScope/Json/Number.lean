import WebScope.Text.Basic

/-!
# Numbers of JSON

A number is kept as it is written: its digits and its exponent. What matters beside the digits is whether a number is
too large to be represented as a binary number of 53 significant bits and a greatest power of two (`Number.overflows`).
-/

namespace WebScope

/-- **A number of JSON.** -/
structure Number where
  negative : Bool := false
  /-- The digits before the point. -/
  whole : Text
  /-- The digits behind the point. -/
  fraction : Text := []
  exponent : Int := 0
  deriving DecidableEq, Repr

namespace Number

/-- A natural number. -/
def ofNat (n : Nat) : Number := { whole := Text.ofNat n }

/-- The text of an integer. -/
def intText : Int → Text
  | .ofNat n => Text.ofNat n
  | .negSucc n => '-' :: Text.ofNat (n + 1)

/-- **The text of a number.** -/
def toText (n : Number) : Text :=
  (if n.negative then ['-'] else []) ++ n.whole ++ (if n.fraction = [] then [] else '.' :: n.fraction) ++
    (if n.exponent = 0 then [] else 'e' :: intText n.exponent)

/-! ## Size -/

/-- The greatest significand. -/
def maxSignificand : Nat := Nat.pow 2 64 - 1

/-- The value of a digit. -/
def digit (c : Char) : Nat := c.toNat - '0'.toNat

/-- The digits before the point as a significand and an exponent: from the first digit that no longer fits on, digits
only count for the exponent. -/
def wholeParts (significand exponent : Nat) : Text → Nat × Nat
  | [] => (significand, exponent)
  | c :: s =>
    let next := significand * 10 + digit c
    if exponent = 0 ∧ next ≤ maxSignificand then wholeParts next 0 s else wholeParts significand (exponent + 1) s

/-- The digits behind the point, added as long as they fit. -/
def fractionParts (significand : Nat) (exponent : Int) : Text → Nat × Int
  | [] => (significand, exponent)
  | c :: s =>
    let next := significand * 10 + digit c
    if next ≤ maxSignificand then fractionParts next (exponent - 1) s else (significand, exponent)

/-- The significand and the exponent in base ten that a number is computed from. -/
def parts (n : Number) : Nat × Int :=
  let (significand, exponent) := wholeParts 0 0 n.whole
  let (significand, exponent) := fractionParts significand exponent n.fraction
  (significand, exponent + n.exponent)

/-- A number rounded to 53 significant bits, a half to the even neighbour. -/
def round53 (n : Nat) : Nat :=
  let unit := Nat.pow 2 (Nat.log2 n - 52)
  let floor := n / unit
  let rest := 2 * (n % unit)
  (if unit < rest ∨ (rest = unit ∧ floor % 2 = 1) then floor + 1 else floor) * unit

/-- The greatest exponent of a power of ten that is a factor. -/
def maxExponent : Int := 308

/-- **Whether a number is too large**: its power of ten is, or the rounded product rounds to no finite number. -/
def overflows (n : Number) : Bool :=
  let (significand, exponent) := n.parts
  significand ≠ 0 && (maxExponent < exponent ||
    (0 ≤ exponent && Nat.pow 2 1024 - Nat.pow 2 970 ≤ round53 significand * round53 (Nat.pow 10 exponent.toNat)))

end Number
end WebScope
