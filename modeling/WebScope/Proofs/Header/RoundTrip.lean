import WebScope.Command.Outcome
import WebScope.Proofs.Header.Lines

/-!
# Header blocks are read back

A list of headers is written as a block and read again. That gives the list back exactly if all its headers are such
as blocks give (`IsBlockHeader`): the key is a name without blanks, the value has no line breaks and no margins, and no
flag is set.

- The line of such a header is read back (`ofFieldLine?_toLine`), and it is a line (`isLine_toLine`), so a block of such
  headers is read back (`ofBlock_toBlock`).
- Every header that a block gives is of this kind (`isBlockHeader_of_mem_ofBlock`).
- Both together: **blocks are read back exactly for such headers**, and what was read once is read again in the same way
  (`ofBlock_toBlock_iff_isBlockHeader`).
-/

namespace WebScope
namespace Header

/-- **The headers that blocks give.** A key can hold colons. -/
structure IsBlockHeader (h : Header) : Prop where
  key_ne_nil : h.key ≠ []
  key_not_blank : ∀ c ∈ h.key, Text.isBlank c = false
  value_no_break : '\r' ∉ h.value ∧ '\n' ∉ h.value
  value_head : ∀ c, h.value.head? = some c → Text.isBlank c = false
  value_last : ∀ c, h.value.getLast? = some c → Text.isBlank c = false
  system : h.system = none
  disabled : h.disabled = none

/-! ## One line -/

theorem isLine_toLine {h : Header} (hh : IsBlockHeader h) : IsLine h.toLine where
  no_break := by
    have hkey : ∀ c ∈ h.key, Text.isLineBreak c = false := by
      intro c hc
      by_contra hb
      rw [Bool.not_eq_false] at hb
      exact absurd (Text.isBlank_of_isLineBreak hb) (by simp [hh.key_not_blank c hc])
    have hvalue := no_break_iff.mp hh.value_no_break
    intro c hc
    simp only [toLine, List.mem_append, List.mem_cons] at hc
    rcases hc with hc | rfl | rfl | hc
    · exact hkey c hc
    · decide
    · decide
    · exact hvalue c hc
  head_ne := by
    obtain ⟨d, key, hkey⟩ := List.exists_cons_of_ne_nil hh.key_ne_nil
    intro c hc
    simp only [toLine, hkey, List.cons_append, List.head?_cons, Option.some.injEq] at hc
    have hblank := hh.key_not_blank c (by rw [hkey, hc]; exact List.mem_cons_self)
    exact ⟨by rintro rfl; exact absurd hblank (by decide), by rintro rfl; exact absurd hblank (by decide)⟩

/-- **The line of a header that blocks give is read back.** The colon behind the key is the last one before a blank. -/
theorem ofFieldLine?_toLine {h : Header} (hh : IsBlockHeader h) : ofFieldLine? h.toLine = some h := by
  have hname : ∀ c ∈ h.key ++ [keyMark], (!Text.isBlank c) = true := by
    intro c hc
    rcases List.mem_append.mp hc with hc | hc
    · simp [hh.key_not_blank c hc]
    · rw [List.mem_singleton.mp hc]; decide
  have hline : h.toLine = (h.key ++ [keyMark]) ++ ' ' :: h.value := by simp [toLine]
  have htake : h.toLine.takeWhile (!Text.isBlank ·) = h.key ++ [keyMark] := by
    rw [hline, Text.takeWhile_append_cons hname (by decide)]
  have hdrop : h.toLine.dropWhile (!Text.isBlank ·) = ' ' :: h.value := by
    rw [hline, Text.dropWhile_append_cons hname (by decide)]
  have hcut : Text.cutLast? keyMark (h.key ++ [keyMark]) = some (h.key, []) :=
    Text.cutLast?_eq_some_iff.mpr ⟨rfl, List.not_mem_nil⟩
  have hvalue : Text.trimBlanks ([] ++ ' ' :: h.value) = h.value := by
    rw [List.nil_append, Text.trimBlanks, Text.trim_cons (by decide)]
    exact Text.trim_eq_self hh.value_head hh.value_last
  rw [ofFieldLine?, htake, hdrop, hcut]
  simp only [hh.key_ne_nil, if_false, hvalue]
  exact congrArg some (eq_of_no_flags hh.system hh.disabled).symm

/-- The header of a line without line breaks is one that blocks give. -/
theorem isBlockHeader_of_ofFieldLine? {line : Text} {h : Header} (hline : ∀ c ∈ line, Text.isLineBreak c = false)
    (hh : ofFieldLine? line = some h) : IsBlockHeader h := by
  obtain ⟨hne, hblank⟩ := key_of_ofFieldLine? hh
  rw [ofFieldLine?] at hh
  split at hh
  · rename_i key rest hcut
    split at hh
    · cases hh
    · cases hh
      have hvalue : ∀ c ∈ Text.trimBlanks (rest ++ line.dropWhile (!Text.isBlank ·)),
          Text.isLineBreak c = false := by
        intro c hc
        refine hline c ?_
        rcases List.mem_append.mp (Text.mem_of_mem_trim hc) with hc | hc
        · have hname : c ∈ line.takeWhile (!Text.isBlank ·) := by
            rw [Text.eq_of_cutLast? hcut]
            exact List.mem_append_right _ (List.mem_cons_of_mem _ hc)
          exact (List.takeWhile_sublist _).subset hname
        · exact (List.dropWhile_sublist _).subset hc
      exact ⟨hne, hblank, no_break_iff.mpr hvalue, fun _ hc => Text.head?_trim hc,
        fun _ hc => Text.getLast?_trimEnd hc, rfl, rfl⟩
  · cases hh

/-! ## Blocks -/

/-- **The separators that end lines**: none, which means a line feed, and the ends of lines. -/
inductive EndsLines : Option Text → Prop
  | none : EndsLines none
  | empty : EndsLines (some [])
  | lineEnd {e : Text} : LineEnd e → EndsLines (some e)

theorem lineEnd_separatorOf {separator : Option Text} (h : EndsLines separator) : LineEnd (separatorOf separator) := by
  cases h with
  | none => exact .lineFeed
  | empty => exact .lineFeed
  | lineEnd he => cases he <;> constructor

/-- The lines of headers that blocks give are read back, one by one. -/
theorem filterMap_map_toLine : ∀ {headers : List Header}, (∀ h ∈ headers, IsBlockHeader h) →
    (headers.map toLine).filterMap ofFieldLine? = headers
  | [], _ => rfl
  | h :: headers, hh => by
    obtain ⟨hfirst, hrest⟩ := List.forall_mem_cons.mp hh
    rw [List.map_cons, List.filterMap_cons_some (ofFieldLine?_toLine hfirst), filterMap_map_toLine hrest]

/-- **A block of headers that blocks give is read back.** -/
theorem ofBlock_toBlock {separator : Option Text} (hs : EndsLines separator) {headers : List Header}
    (hh : ∀ h ∈ headers, IsBlockHeader h) : ofBlock (toBlock headers separator) = headers := by
  have hlines : ∀ l ∈ headers.map toLine, IsLine l := by
    intro l hl
    obtain ⟨h, hm, rfl⟩ := List.mem_map.mp hl
    exact isLine_toLine (hh h hm)
  rw [toBlock, ofBlock_joined (lineEnd_separatorOf hs) hlines, filterMap_map_toLine hh]

/-- **Every header that a block gives is of this kind.** -/
theorem isBlockHeader_of_mem_ofBlock {block : Text} {h : Header} (hm : h ∈ ofBlock block) : IsBlockHeader h := by
  obtain ⟨line, hline, hh⟩ := List.mem_filterMap.mp hm
  exact isBlockHeader_of_ofFieldLine? (Text.not_of_mem_fields hline) hh

/-- **Blocks are read back exactly for the headers that blocks give**, with every separator that ends lines; and what
was read once is read again in the same way, as a list of headers and with the separators of the command line. -/
theorem ofBlock_toBlock_iff_isBlockHeader {separator : Option Text} (hs : EndsLines separator) :
    (∀ headers : List Header,
      ofBlock (toBlock headers separator) = headers ↔ ∀ h ∈ headers, IsBlockHeader h) ∧
    (∀ block : Text, ∀ h ∈ ofBlock block, IsBlockHeader h) ∧
    (∀ block : Text, ofBlock (toBlock (ofBlock block) separator) = ofBlock block) ∧
    (∀ l : HeaderList, HeaderList.ofBlock ((HeaderList.ofBlock (l.toBlock separator)).toBlock separator) =
      HeaderList.ofBlock (l.toBlock separator)) ∧
    (∀ (block : Text) (s : Separator),
      HeaderList.ofBlock ((HeaderList.ofBlock block).toBlock (some s.toText)) = HeaderList.ofBlock block) := by
  have himage : ∀ block : Text, ∀ h ∈ ofBlock block, IsBlockHeader h := fun _ _ => isBlockHeader_of_mem_ofBlock
  have hagain : ∀ {separator}, EndsLines separator → ∀ block : Text,
      ofBlock (toBlock (ofBlock block) separator) = ofBlock block :=
    fun hs block => ofBlock_toBlock hs (himage block)
  refine ⟨fun headers => ⟨fun heq => ?_, ofBlock_toBlock hs⟩, himage, hagain hs, fun l => ?_, fun block s => ?_⟩
  · -- Headers that are read back were given by a block.
    rw [← heq]
    exact himage _
  · exact congrArg HeaderList.mk (hagain hs _)
  · have hsep : EndsLines (some s.toText) := by
      cases s with
      | lf => exact .lineEnd .lineFeed
      | crlf => exact .lineEnd .both
    exact congrArg HeaderList.mk (hagain hsep block)

/-- Headers with a colon in the key, a blank and a colon in the value, and no value at all. -/
def motley : List Header :=
  [{ key := "Via:2".toList, value := "1.1 a:b".toList }, { key := "X".toList },
    { key := ":".toList, value := ":".toList }]

/-- They are read back from lines with both halves of a line end between them, so they are such as blocks give. -/
theorem isBlockHeader_motley : EndsLines (some "\r\n".toList) ∧ ∀ h ∈ motley, IsBlockHeader h := by
  have hs : EndsLines (some "\r\n".toList) := .lineEnd .both
  exact ⟨hs, ((ofBlock_toBlock_iff_isBlockHeader hs).1 motley).mp (by decide +kernel)⟩

end Header
end WebScope
