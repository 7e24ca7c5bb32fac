import WebScope.Text.Basic

/-!
# UTF-8

The octets of a character, and the text of octets. `Utf8.decode?` accepts exactly the shortest forms of scalar values: no
overlong form, no surrogate, nothing above `U+10FFFF`.
-/

namespace WebScope
namespace Utf8

/-- The octets of one character. -/
def encodeChar (c : Char) : List UInt8 :=
  let n := c.toNat
  if n < 0x80 then [n.toUInt8]
  else if n < 0x800 then [(0xC0 + n / 0x40).toUInt8, (0x80 + n % 0x40).toUInt8]
  else if n < 0x10000 then [(0xE0 + n / 0x1000).toUInt8, (0x80 + n / 0x40 % 0x40).toUInt8, (0x80 + n % 0x40).toUInt8]
  else [(0xF0 + n / 0x40000).toUInt8, (0x80 + n / 0x1000 % 0x40).toUInt8, (0x80 + n / 0x40 % 0x40).toUInt8,
    (0x80 + n % 0x40).toUInt8]

/-- How many octets a text takes. -/
def size : Text → Nat
  | [] => 0
  | c :: s => c.utf8Size + size s

/-- The six bits of a continuation octet. -/
def tail? (b : UInt8) : Option Nat :=
  if 0x80 ≤ b.toNat ∧ b.toNat < 0xC0 then some (b.toNat - 0x80) else none

/-- The scalar value `n` as a character, if it needs `least` or more and is no surrogate. -/
def scalar? (least n : Nat) : Option Char :=
  if least ≤ n ∧ n.isValidChar then some (Char.ofNat n) else none

/-- **Reads octets as UTF-8.** -/
def decode? : List UInt8 → Option Text
  | [] => some []
  | a :: r =>
    let n := a.toNat
    if n < 0x80 then (decode? r).map (Char.ofNat n :: ·)
    else if n < 0xC0 then none
    else if n < 0xE0 then
      match r with
      | b :: r => do
        let c ← scalar? 0x80 ((n - 0xC0) * 0x40 + (← tail? b))
        return c :: (← decode? r)
      | _ => none
    else if n < 0xF0 then
      match r with
      | b :: b' :: r => do
        let c ← scalar? 0x800 (((n - 0xE0) * 0x40 + (← tail? b)) * 0x40 + (← tail? b'))
        return c :: (← decode? r)
      | _ => none
    else
      match r with
      | b :: b' :: b'' :: r => do
        let c ← scalar? 0x10000 ((((n - 0xF0) * 0x40 + (← tail? b)) * 0x40 + (← tail? b')) * 0x40 + (← tail? b''))
        return c :: (← decode? r)
      | _ => none

end Utf8
end WebScope
