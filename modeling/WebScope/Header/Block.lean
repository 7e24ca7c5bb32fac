import WebScope.Header.Basic

/-!
# Header blocks

A block is a text of lines, of which those that start with a key and a colon are headers. Lines end at a carriage
return, at a line feed or at both; a line is continued by the next one if that starts with a space or tab behind both.
The key is the run of characters before the first blank, up to the last colon in it.
Main statement: the key of a header in a block is not empty and free of blanks (`key_of_ofFieldLine?`).
-/

namespace WebScope
namespace Header

/-- The text with its continued lines joined: a carriage return and a line feed before a space or tab are dropped. -/
def unfoldLines : Text → Text
  | '\r' :: '\n' :: c :: s =>
    if c = ' ' ∨ c = '\t' then c :: unfoldLines s else '\r' :: '\n' :: unfoldLines (c :: s)
  | c :: s => c :: unfoldLines s
  | [] => []

/-- The header of one line of a block, if the line is one. -/
def ofFieldLine? (line : Text) : Option Header :=
  match Text.cutLast? keyMark (line.takeWhile (!Text.isBlank ·)) with
  | some (key, rest) =>
    if key = [] then none
    else some { key, value := Text.trimBlanks (rest ++ line.dropWhile (!Text.isBlank ·)) }
  | none => none

/-- **The headers of a block**, in order. -/
def ofBlock (block : Text) : List Header :=
  (Text.fields Text.isLineBreak (unfoldLines block)).filterMap ofFieldLine?

/-- What stands between the lines if nothing else is given. -/
def defaultSeparator : Text := ['\n']

/-- The separator that is meant: an empty one is none. -/
def separatorOf (separator : Option Text) : Text := (separator.filter (· ≠ [])).getD defaultSeparator

/-- **The block of a list of headers.** -/
def toBlock (headers : List Header) (separator : Option Text) : Text :=
  (separatorOf separator).intercalate (headers.map toLine)

/-- **The key of a header in a block is not empty and free of blanks.** -/
theorem key_of_ofFieldLine? {line : Text} {h : Header} (he : ofFieldLine? line = some h) :
    h.key ≠ [] ∧ ∀ c ∈ h.key, Text.isBlank c = false := by
  rw [ofFieldLine?] at he
  split at he
  · rename_i key rest hc
    split at he
    · cases he
    · rename_i hk
      simp only [Option.some.injEq] at he
      subst he
      refine ⟨hk, fun c hcm => ?_⟩
      have hm : c ∈ line.takeWhile (!Text.isBlank ·) := by
        rw [Text.eq_of_cutLast? hc]; simp [hcm]
      have := List.all_eq_true.mp (List.all_takeWhile (p := (!Text.isBlank ·)) (l := line)) c hm
      simpa using this
  · cases he

end Header
end WebScope
