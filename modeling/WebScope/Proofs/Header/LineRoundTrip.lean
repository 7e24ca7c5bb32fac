import WebScope.Proofs.Header.Lines

/-!
# Header lines are read back

A header is written as one line, and a line that is read alone is cut at its first mark: before it stands the key, behind
it the value, both without the blanks around them. That gives key and value back exactly if the header is such as lines
give (`IsLineHeader`): the key has no mark, and neither key nor value has margins. What stands within them is kept.

- Reading is said once for the lines with a mark (`ofLine_append_cons`) and once for those without one
  (`ofLine_of_no_mark`); every line is of one of the two kinds.
- So the headers that lines give are of this kind (`isLineHeader_ofLine`) and have no flags (`no_flags_ofLine`).
- The first mark in the line of a header without marks in its key is the one behind the key, and the space behind it is a
  margin. So only margins are lost (`ofLine_toLine`), and none if there are none (`IsLineHeader.ofLine_toLine_eq`).
- Both together: **lines are read back exactly for the headers that lines give**, and what was read once is read again in
  the same way (`ofLine_toLine_iff_isLineHeader`).
-/

namespace WebScope
namespace Header

/-- **The headers that lines give**, apart from their flags. Blanks can stand within the key, and blanks, line breaks and
marks within the value; both can be empty. -/
@[mk_iff]
structure IsLineHeader (h : Header) : Prop where
  key_no_mark : keyMark ∉ h.key
  key_trimmed : Text.IsTrimmed Text.isBlank h.key
  value_trimmed : Text.IsTrimmed Text.isBlank h.value

instance (h : Header) : Decidable (IsLineHeader h) := decidable_of_iff _ (isLineHeader_iff h).symm

/-! ## Reading a line -/

/-- **A line is cut at its first mark.** -/
theorem ofLine_append_cons {key : Text} (hkey : keyMark ∉ key) (rest : Text) :
    ofLine (key ++ keyMark :: rest) = { key := Text.trimBlanks key, value := Text.trimBlanks rest } := by
  have hcut : Text.cut? keyMark (key ++ keyMark :: rest) = some (key, rest) :=
    Text.cut?_eq_some_iff.mpr ⟨rfl, hkey⟩
  rw [ofLine, hcut]

/-- A line without a mark is a key alone. -/
theorem ofLine_of_no_mark {line : Text} (hline : keyMark ∉ line) : ofLine line = { key := Text.trimBlanks line } := by
  rw [ofLine, Text.cut?_eq_none_iff.mpr hline]

/-- No line sets a flag. -/
theorem no_flags_ofLine (line : Text) : (ofLine line).system = none ∧ (ofLine line).disabled = none := by
  unfold ofLine
  split
  · exact ⟨rfl, rfl⟩
  · exact ⟨rfl, rfl⟩

/-- **Every header that a line gives is of this kind**, with a mark in the line or without one. -/
theorem isLineHeader_ofLine (line : Text) : IsLineHeader (ofLine line) := by
  by_cases hmark : keyMark ∈ line
  · obtain ⟨key, rest, rfl, hkey⟩ := List.eq_append_cons_of_mem hmark
    rw [ofLine_append_cons hkey]
    exact ⟨fun h => hkey (Text.mem_of_mem_trim h), Text.isTrimmed_trim _ key, Text.isTrimmed_trim _ rest⟩
  · rw [ofLine_of_no_mark hmark]
    exact ⟨fun h => hmark (Text.mem_of_mem_trim h), Text.isTrimmed_trim _ line, ⟨nofun, nofun⟩⟩

/-! ## Reading what was written -/

/-- **Only margins are lost** if the key has no mark. -/
theorem ofLine_toLine {h : Header} (hmark : keyMark ∉ h.key) :
    ofLine h.toLine = { key := Text.trimBlanks h.key, value := Text.trimBlanks h.value } := by
  have hspace : Text.trimBlanks (' ' :: h.value) = Text.trimBlanks h.value := Text.trim_cons (by decide) h.value
  rw [toLine, ofLine_append_cons hmark, hspace]

/-- The line of a header that lines give is read back, up to the flags. -/
theorem IsLineHeader.ofLine_toLine_eq {h : Header} (hh : IsLineHeader h) :
    ofLine h.toLine = { key := h.key, value := h.value } := by
  have hkey : Text.trimBlanks h.key = h.key := Text.trim_eq_self_iff.mpr hh.key_trimmed
  have hvalue : Text.trimBlanks h.value = h.value := Text.trim_eq_self_iff.mpr hh.value_trimmed
  rw [ofLine_toLine hh.key_no_mark, hkey, hvalue]

/-- **Lines are read back exactly for the headers that lines give.** Key and value of a header are read from its line if
and only if the key has no mark and neither of them has margins; every line gives such a header, so what was read once is
read again in the same way. -/
theorem ofLine_toLine_iff_isLineHeader :
    (∀ h : Header, (ofLine h.toLine).key = h.key ∧ (ofLine h.toLine).value = h.value ↔ IsLineHeader h) ∧
    (∀ line : Text, IsLineHeader (ofLine line)) ∧
    ∀ line : Text, ofLine (ofLine line).toLine = ofLine line := by
  refine ⟨fun h => ⟨?_, fun hh => ?_⟩, isLineHeader_ofLine, fun line => ?_⟩
  · -- A header that is read back was given by a line: its own.
    rintro ⟨hkey, hvalue⟩
    have hread := isLineHeader_ofLine h.toLine
    rw [isLineHeader_iff, hkey, hvalue] at hread
    exact (isLineHeader_iff h).mpr hread
  · rw [hh.ofLine_toLine_eq]
    exact ⟨rfl, rfl⟩
  · obtain ⟨hsystem, hdisabled⟩ := no_flags_ofLine line
    rw [(isLineHeader_ofLine line).ofLine_toLine_eq]
    exact (eq_of_no_flags hsystem hdisabled).symm

/-- Blanks in the key, and blanks, line breaks and marks in the value, at its start too. -/
example : IsLineHeader { key := "Last seen".toList, value := ":a: b\r\n\tc:".toList } := by decide +kernel

end Header
end WebScope
