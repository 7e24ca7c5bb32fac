import WebScope.Text.Basic

/-!
# Punycode

The written form of a label that is not ASCII: its ASCII characters, a hyphen, and for each other character, in
ascending order, the distance to it from the one before, counted in places times code points. Distances are numbers of
varying length whose digits `a` to `z` and `0` to `9` have thresholds that adapt to the label.

Reading is one pass over the digits (`Punycode.insertions`); all numbers stay below `2 ^ 32`.
-/

namespace WebScope
namespace Punycode

/-- The value of a digit; capitals are no digits. -/
def digit? (c : Char) : Option Nat :=
  if 'a' ≤ c ∧ c ≤ 'z' then some (c.toNat - 'a'.toNat)
  else if '0' ≤ c ∧ c ≤ '9' then some (c.toNat - '0'.toNat + 26)
  else none

/-- The greatest number. -/
def maximum : Nat := Nat.pow 2 32 - 1

/-- The threshold of the digit at position `k`, a multiple of 36: a digit below it is the last. -/
def threshold (k bias : Nat) : Nat := if k ≤ bias then 1 else if bias + 26 ≤ k then 26 else k - bias

/-- Divides a distance by 35 until it is at most 455, and counts the divisions in steps of 36. -/
def settle (delta k : Nat) : Nat × Nat := if 455 < delta then settle (delta / 35) (k + 36) else (delta, k)
termination_by delta
decreasing_by exact Nat.div_lt_self (by omega) (by omega)

/-- The bias for the next distance. -/
def adapt (delta count : Nat) (isFirst : Bool) : Nat :=
  let delta := if isFirst then delta / 700 else delta / 2
  let (delta, k) := settle (delta + delta / count) 0
  k + 36 * delta / (delta + 38)

/-- A distance of which some digits have been read. -/
structure Partial where
  /-- The place counter with the digits added. -/
  total : Nat
  /-- The weight of the next digit. -/
  weight : Nat
  /-- The position of the next digit. -/
  position : Nat

/-- **Inserts the characters** that the digits describe into the characters `out`. The last insertion left the code
point `n` and the place counter `i`; `part` is the distance under way. -/
def insertions (n i bias : Nat) (out : Text) (part : Option Partial) : Text → Option Text
  | [] => if part.isNone then some out else none
  | c :: s => do
    let ⟨total, weight, k⟩ := part.getD ⟨i, 1, 36⟩
    let d ← digit? c
    if (maximum - total) / weight < d then none
    else
      let total := total + d * weight
      let t := threshold k bias
      if d < t then
        let count := out.length + 1
        let n := n + total / count
        let place := total % count
        if n.isValidChar then
          insertions n (place + 1) (adapt (total - i) count (i == 0))
            (out.take place ++ Char.ofNat n :: out.drop place) none s
        else none
      else if maximum / (36 - t) < weight then none
      else insertions n i bias out (some ⟨total, weight * (36 - t), k + 36⟩) s

/-- **Reads the written form of a label.** What stands before the last hyphen are the ASCII characters. -/
def decode? (s : Text) : Option Text :=
  match Text.cutLast? '-' s with
  | some ([], _) => none
  | some (basic, digits) => insertions 128 0 72 basic none digits
  | none => insertions 128 0 72 [] none s

end Punycode
end WebScope
