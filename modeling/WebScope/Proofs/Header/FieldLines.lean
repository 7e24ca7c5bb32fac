import WebScope.Proofs.Header.Searching

/-!
# The headers of a block are its field lines

What a block holds, described without a reader: where its lines are continued (`Unfolds`), what its lines are
(`HasLines`), and which of them are headers (`IsFieldLine`). Each description fits one result and no other.

- A stretch without a continued line end is left alone (`NoFold.unfoldLines_eq`), so unfolding drops the continued line
  ends of the text and no others (`unfolds_iff`).
- A gap makes no line and a line is one (`lines_gap`, `lines_line`), so splitting at all line breaks gives the lines and
  some empty texts (`hasLines_iff`).
- A line is a header if its first run has a mark behind its first character (`ofFieldLine?_eq_some_iff`,
  `ofFieldLine?_eq_none_iff`), and the headers stand in the order of their lines (`gives_iff`).
- **Reading and searching a block give its field lines** (`ofBlock_eq_iff_fieldLines`).
-/

namespace WebScope
namespace Header

/-! ## Unfolding -/

/-- **A text and the text with its continued lines joined**: the line ends before a space or tab are dropped, and the
stretches between them stay. -/
inductive Unfolds : Text → Text → Prop
  | last {s : Text} (h : NoFold s) : Unfolds s s
  | fold {s t u : Text} {c : Char} (h : NoFold s) (hc : c = ' ' ∨ c = '\t') (hu : Unfolds (c :: t) u) :
      Unfolds (s ++ '\r' :: '\n' :: c :: t) (s ++ u)

theorem Folds.append {s : Text} (h : Folds s) (t : Text) : Folds (s ++ t) := by
  obtain ⟨c, r, rfl, hc⟩ := h
  exact ⟨c, r ++ t, rfl, hc⟩

theorem Unfolds.unfoldLines_eq {s u : Text} (h : Unfolds s u) : unfoldLines s = u := by
  induction h with
  | last h => exact h.unfoldLines_eq
  | @fold s t u c h hc hu ih =>
    have hcr : c ≠ '\r' := by rcases hc with rfl | rfl <;> decide
    have hst : Parted s ('\r' :: '\n' :: c :: t) := by
      rintro d ⟨⟩
      exact ⟨by decide, fun _ => by decide⟩
    rw [unfoldLines_append hst, h.unfoldLines_eq, unfoldLines_fold hc, ← unfoldLines_cons hcr, ih]

theorem Unfolds.cons {x : Char} {s u : Text} (hx : ¬Folds (x :: s)) (h : Unfolds s u) : Unfolds (x :: s) (x :: u) := by
  cases h with
  | last h => exact .last (noFold_cons_iff.mpr ⟨hx, h⟩)
  | fold h hc hu => exact .fold (noFold_cons_iff.mpr ⟨fun hf => hx (hf.append _), h⟩) hc hu

theorem unfolds_unfoldLines : ∀ s : Text, Unfolds s (unfoldLines s)
  | [] => .last noFold_nil
  | x :: s => by
    by_cases h : Folds (x :: s)
    · obtain ⟨c, r, he, hc⟩ := h
      cases he
      have hcr : c ≠ '\r' := by rcases hc with rfl | rfl <;> decide
      rw [unfoldLines_fold hc, ← unfoldLines_cons hcr]
      exact .fold noFold_nil hc (unfolds_unfoldLines (c :: r))
    · rw [unfoldLines_of_not_folds h]
      exact (unfolds_unfoldLines s).cons h
termination_by s => s.length

/-- **Unfolding drops the continued line ends of the text and no others.** -/
theorem unfolds_iff {s u : Text} : Unfolds s u ↔ unfoldLines s = u :=
  ⟨Unfolds.unfoldLines_eq, fun h => h ▸ unfolds_unfoldLines s⟩

/-- A line end that is continued only once another one was dropped stays. -/
example : unfoldLines "a\r\n\r\n b".toList = "a\r\n b".toList := by decide +kernel

/-! ## Lines -/

/-- **A text and its lines**, which are its longest stretches without line breaks. -/
inductive HasLines : Text → List Text → Prop
  | none {gap : Text} (h : ∀ c ∈ gap, Text.isLineBreak c = true) : HasLines gap []
  | line {gap l s : Text} {ls : List Text} (hgap : ∀ c ∈ gap, Text.isLineBreak c = true) (hne : l ≠ [])
      (hl : ∀ c ∈ l, Text.isLineBreak c = false) (hs : ∀ c, s.head? = some c → Text.isLineBreak c = true)
      (h : HasLines s ls) : HasLines (gap ++ l ++ s) (l :: ls)

/-- What is left of a text split at its line breaks without the empty parts. -/
def lines (s : Text) : List Text := (Text.fields Text.isLineBreak s).filter (· ≠ [])

theorem lines_gap (s : Text) : ∀ {gap : Text}, (∀ c ∈ gap, Text.isLineBreak c = true) →
    lines (gap ++ s) = lines s
  | [], _ => rfl
  | c :: gap, h => by
    obtain ⟨hc, hgap⟩ := List.forall_mem_cons.mp h
    rw [← lines_gap s hgap, lines, List.cons_append, Text.fields, if_pos hc]
    rfl

theorem lines_line {l s : Text} (hne : l ≠ []) (hl : ∀ c ∈ l, Text.isLineBreak c = false)
    (hs : ∀ c, s.head? = some c → Text.isLineBreak c = true) : lines (l ++ s) = l :: lines s := by
  have hfields : Text.fields Text.isLineBreak l = [l] := Text.fields_of_not_mem hl
  cases s with
  | nil =>
    rw [List.append_nil, lines, hfields]
    simp [hne, lines, Text.fields]
  | cons c s =>
    have hc := hs c rfl
    have hgap : ∀ x ∈ [c], Text.isLineBreak x = true := by simpa using hc
    have hbreak : lines (c :: s) = lines s := lines_gap s hgap
    rw [hbreak, lines, Text.fields_append_cons hc, hfields]
    simp [hne, lines]

theorem HasLines.lines_eq {s : Text} {ls : List Text} (h : HasLines s ls) : lines s = ls := by
  induction h with
  | none h => simpa [lines, Text.fields] using lines_gap [] h
  | line hgap hne hl hs h ih => rw [List.append_assoc, lines_gap _ hgap, lines_line hne hl hs, ih]

theorem exists_hasLines (s : Text) : ∃ ls, HasLines s ls := by
  obtain ⟨gap, rest, hs, hgap, hrest⟩ := Text.exists_span Text.isLineBreak s
  match rest with
  | [] =>
    rw [hs, List.append_nil]
    exact ⟨[], .none hgap⟩
  | c :: rest =>
    obtain ⟨l, t, hl, hin, ht⟩ := Text.exists_span isInLine rest
    have hc := hrest c rfl
    have hline : ∀ x ∈ c :: l, Text.isLineBreak x = false :=
      List.forall_mem_cons.mpr ⟨hc, fun x hx => by simpa [isInLine] using hin x hx⟩
    have hbreak : ∀ x, t.head? = some x → Text.isLineBreak x = true := fun x hx => by
      simpa [isInLine] using ht x hx
    obtain ⟨ls, hls⟩ := exists_hasLines t
    refine ⟨(c :: l) :: ls, ?_⟩
    rw [hs, hl, ← List.cons_append, ← List.append_assoc]
    exact .line hgap nofun hline hbreak hls
termination_by s.length
decreasing_by
  rw [hs, hl]
  simp only [List.length_append, List.length_cons]
  omega

/-- **Splitting at the line breaks gives the lines**, and some empty texts. -/
theorem hasLines_iff {s : Text} {ls : List Text} : HasLines s ls ↔ lines s = ls := by
  refine ⟨HasLines.lines_eq, ?_⟩
  rintro rfl
  obtain ⟨ls, h⟩ := exists_hasLines s
  rwa [h.lines_eq]

/-! ## Field lines -/

/-- What stands before the first blank of a line. -/
def leadingRun (line : Text) : Text := line.takeWhile isSolid

/-- **A line that is a header**: the run before its first blank has a mark behind its first character. The last mark of
the run ends the key, and the value is what is left of the line without the blanks around it. -/
structure IsFieldLine (line : Text) (h : Header) : Prop where
  named : keyMark ∈ (leadingRun line).tail
  key : ∃ more, leadingRun line = h.key ++ keyMark :: more ∧ keyMark ∉ more
  value : ∃ rest, line = h.key ++ keyMark :: rest ∧ h.value = Text.trimBlanks rest
  no_system : h.system = none
  no_disabled : h.disabled = none

/-- A mark in the run cuts the whole line. -/
theorem eq_of_leadingRun {line key more : Text} (h : leadingRun line = key ++ keyMark :: more) :
    line = key ++ keyMark :: (more ++ line.dropWhile isSolid) := by
  have hline : leadingRun line ++ line.dropWhile isSolid = line := List.takeWhile_append_dropWhile
  rw [h, List.append_assoc, List.cons_append] at hline
  exact hline.symm

/-- A run has a mark behind its first character unless its last mark is its first character. -/
theorem mem_tail_iff {key more : Text} (h : keyMark ∉ more) :
    keyMark ∈ (key ++ keyMark :: more).tail ↔ key ≠ [] := by
  cases key with
  | nil => simpa using h
  | cons c key => simp

/-- **Reading a line gives the header that it is.** -/
theorem ofFieldLine?_eq_some_iff {line : Text} {h : Header} : ofFieldLine? line = some h ↔ IsFieldLine line h := by
  rw [ofFieldLine?]
  constructor
  · intro he
    split at he
    · rename_i key more hcut
      obtain ⟨hrun, hmore⟩ := Text.cutLast?_eq_some_iff.mp hcut
      split at he
      · cases he
      · rename_i hkey
        cases he
        refine ⟨?_, ⟨more, hrun, hmore⟩, ⟨_, eq_of_leadingRun hrun, rfl⟩, rfl, rfl⟩
        rw [leadingRun, hrun]
        exact (mem_tail_iff hmore).mpr hkey
    · cases he
  · rintro ⟨hnamed, ⟨more, hrun, hmore⟩, ⟨rest, hline, hvalue⟩, hsystem, hdisabled⟩
    have hkey : h.key ≠ [] := (mem_tail_iff hmore).mp (hrun ▸ hnamed)
    have hrest : more ++ line.dropWhile isSolid = rest := by
      have hboth := (eq_of_leadingRun hrun).symm.trans hline
      simpa using hboth
    have hcut : Text.cutLast? keyMark (line.takeWhile isSolid) = some (h.key, more) :=
      Text.cutLast?_eq_some_iff.mpr ⟨hrun, hmore⟩
    rw [hcut]
    simp only [if_neg hkey, hrest, ← hvalue]
    exact congrArg some (eq_of_no_flags hsystem hdisabled).symm

/-- **Other lines have no mark behind the first character of the run.** -/
theorem ofFieldLine?_eq_none_iff {line : Text} : ofFieldLine? line = none ↔ keyMark ∉ (leadingRun line).tail := by
  cases hcut : Text.cutLast? keyMark (leadingRun line) with
  | none =>
    have hmark := Text.cutLast?_eq_none_iff.mp hcut
    have hnone : ofFieldLine? line = none := by
      rw [ofFieldLine?, ← leadingRun, hcut]
    exact iff_of_true hnone fun h => hmark (List.mem_of_mem_tail h)
  | some cut =>
    obtain ⟨key, more⟩ := cut
    obtain ⟨hrun, hmore⟩ := Text.cutLast?_eq_some_iff.mp hcut
    rw [hrun, mem_tail_iff hmore, not_not, ofFieldLine?, ← leadingRun, hcut]
    by_cases hkey : key = []
    · simp [hkey]
    · simp [hkey]

/-- **The headers that lines give**, in order: one for each field line, none for the others. -/
inductive Gives : List Text → List Header → Prop
  | none : Gives [] []
  | header {line : Text} {h : Header} {ls : List Text} {hs : List Header} (hline : IsFieldLine line h)
      (hls : Gives ls hs) : Gives (line :: ls) (h :: hs)
  | other {line : Text} {ls : List Text} {hs : List Header} (hline : keyMark ∉ (leadingRun line).tail)
      (hls : Gives ls hs) : Gives (line :: ls) hs

theorem Gives.filterMap_eq {ls : List Text} {hs : List Header} (h : Gives ls hs) : ls.filterMap ofFieldLine? = hs := by
  induction h with
  | none => rfl
  | header hline _ ih => rw [List.filterMap_cons_some (ofFieldLine?_eq_some_iff.mpr hline), ih]
  | other hline _ ih => rw [List.filterMap_cons_none (ofFieldLine?_eq_none_iff.mpr hline), ih]

theorem gives_filterMap : ∀ ls : List Text, Gives ls (ls.filterMap ofFieldLine?)
  | [] => .none
  | line :: ls => by
    cases hline : ofFieldLine? line with
    | none =>
      rw [List.filterMap_cons_none hline]
      exact .other (ofFieldLine?_eq_none_iff.mp hline) (gives_filterMap ls)
    | some h =>
      rw [List.filterMap_cons_some hline]
      exact .header (ofFieldLine?_eq_some_iff.mp hline) (gives_filterMap ls)

theorem gives_iff {ls : List Text} {hs : List Header} : Gives ls hs ↔ ls.filterMap ofFieldLine? = hs :=
  ⟨Gives.filterMap_eq, fun h => h ▸ gives_filterMap ls⟩

/-! ## Blocks -/

/-- Empty lines are no headers. -/
theorem ofBlock_eq_filterMap_lines (block : Text) :
    ofBlock block = (lines (unfoldLines block)).filterMap ofFieldLine? := by
  rw [ofBlock, lines, List.filterMap_filter]
  congr 1
  funext line
  by_cases hline : line = []
  · subst hline
    rfl
  · simp [hline]

/-- **Reading and searching a block give its field lines**: where its continued lines are joined, the headers are those
that its lines give, and they are what the search finds. -/
theorem ofBlock_eq_iff_fieldLines (block : Text) :
    (∀ headers, ofBlock block = headers ↔
      ∃ unfolded ls, Unfolds block unfolded ∧ HasLines unfolded ls ∧ Gives ls headers) ∧
    ofBlock block = (fieldExpression.search (foldExpression.replace block)).map ofGroups := by
  refine ⟨fun headers => ?_, ofBlock_eq_search block⟩
  rw [ofBlock_eq_filterMap_lines]
  constructor
  · intro h
    exact ⟨_, _, unfolds_iff.mpr rfl, hasLines_iff.mpr rfl, gives_iff.mpr h⟩
  · rintro ⟨unfolded, ls, hunfolds, hlines, hgives⟩
    rw [unfolds_iff.mp hunfolds, hasLines_iff.mp hlines, gives_iff.mp hgives]

end Header
end WebScope
