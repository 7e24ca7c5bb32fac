import WebScope.Text.Basic

/-!
# Blanks

The characters with the Unicode property `White_Space`: the blanks that header names may not hold and that are trimmed
from header values. The zero-width space and the separators `U+001C` to `U+001F` are no blanks.
Main statement: line breaks are blanks (`isBlank_of_isLineBreak`).
-/

namespace WebScope
namespace Text

/-- **The Unicode property `White_Space`.** -/
def isBlank (c : Char) : Bool :=
  let n := c.toNat
  (0x09 ≤ n && n ≤ 0x0D) || n == 0x20 || n == 0x85 || n == 0xA0 || n == 0x1680 || (0x2000 ≤ n && n ≤ 0x200A) ||
    n == 0x2028 || n == 0x2029 || n == 0x202F || n == 0x205F || n == 0x3000

/-- A line break: carriage return or line feed. -/
def isLineBreak (c : Char) : Bool := c == '\r' || c == '\n'

/-- Line breaks are blanks. -/
theorem isBlank_of_isLineBreak {c : Char} (h : isLineBreak c = true) : isBlank c = true := by
  simp only [isLineBreak, Bool.or_eq_true, beq_iff_eq] at h
  rcases h with h | h <;> subst h <;> decide

/-- The text without blanks at both ends. -/
def trimBlanks (s : Text) : Text := trim isBlank s

end Text
end WebScope
