import WebScope.Text.Utf8

/-!
# Percent-encoding

An octet is written as `%` and two hexadecimal digits. `Percent.encode` writes the characters of a class in this way and
leaves the others, `Percent.decode` gives the octets of a text in which some are written so.
-/

namespace WebScope
namespace Percent

/-- An octet in its written form. -/
def encodeOctet (b : UInt8) : Text := ['%', Text.hexDigit 'A' (b.toNat / 16), Text.hexDigit 'A' (b.toNat % 16)]

/-- **Writes the octets of each character of the class `p`** in percent form. -/
def encode (p : Char → Bool) (s : Text) : Text :=
  s.flatMap fun c => if p c then (Utf8.encodeChar c).flatMap encodeOctet else [c]

/-- **The octets of a text**, where `%` before two hexadecimal digits is one octet. -/
def decode : Text → List UInt8
  | '%' :: a :: b :: s =>
    match Text.hexDigit? a, Text.hexDigit? b with
    | some m, some n => (m * 16 + n).toUInt8 :: decode s
    | _, _ => 0x25 :: decode (a :: b :: s)
  | c :: s => Utf8.encodeChar c ++ decode s
  | [] => []

/-- The characters that are written in percent form everywhere: controls and everything that is no ASCII. -/
def isControl (c : Char) : Bool := c.toNat < 0x20 || 0x7E < c.toNat

/-- The characters that are written in percent form in a path. -/
def isPathEncoded (c : Char) : Bool := isControl c || [' ', '"', '<', '>', '`', '#', '?', '\x7b', '\x7d'].contains c

end Percent
end WebScope
