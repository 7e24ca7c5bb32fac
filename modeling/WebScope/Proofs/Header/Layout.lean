import WebScope.Proofs.Header.Lines

/-!
# The layout of a block cannot be seen

Where the lines of a block are continued and how they end is no part of what the block says.

- A line can be continued before any of its spaces and tabs (`unfoldLines_insert`). Only directly behind a line end it
  cannot: there the line end that was there before is the one that is dropped.
- Lines give the same headers in every layout, the ones that they give alone (`LaidOut.ofBlock_eq_flatMap`), and lines
  that all end in the same way are laid out, with the last end or without it (`laidOut_joined`, `laidOut_ended`).
- So **neither folds nor line ends can be seen** (`block_layout_invisible`).
-/

namespace WebScope
namespace Header

/-- **A line can be continued before a space or tab**, if no line ends there already. -/
theorem unfoldLines_insert {a : Text} (ha : ¬['\r', '\n'] <:+ a) {c : Char} (hc : c = ' ' ∨ c = '\t') (b : Text) :
    unfoldLines (a ++ '\r' :: '\n' :: c :: b) = unfoldLines (a ++ c :: b) := by
  have hfolded : Parted a ('\r' :: '\n' :: c :: b) := by
    rintro d ⟨⟩
    exact ⟨by decide, fun h => absurd h ha⟩
  have hplain : Parted a (c :: b) := by
    rintro d ⟨⟩
    exact ⟨by rcases hc with rfl | rfl <;> decide, fun h => absurd h ha⟩
  have hcr : c ≠ '\r' := by rcases hc with rfl | rfl <;> decide
  rw [unfoldLines_append hfolded, unfoldLines_append hplain, unfoldLines_fold hc, unfoldLines_cons hcr]

/-- Directly behind a line end a fold is seen: it keeps the value apart from the line before. -/
example : ofBlock "A: 1\r\n\r\n 2".toList ≠ ofBlock "A: 1\r\n 2".toList := by decide +kernel

/-- Lines that all end in the same way are laid out. -/
theorem laidOut_ended {e : Text} (he : LineEnd e) {ls : List Text} (h : ∀ l ∈ ls, IsLine l) :
    LaidOut ls (ls.flatMap (· ++ e)) := by
  induction ls with
  | nil => exact .none
  | cons l ls ih =>
    obtain ⟨hl, hls⟩ := List.forall_mem_cons.mp h
    rw [List.flatMap_cons]
    exact .line hl he (ih hls)

theorem LaidOut.isLine {ls : List Text} {s : Text} (h : LaidOut ls s) : ∀ l ∈ ls, IsLine l := by
  induction h with
  | none => exact fun _ hl => absurd hl List.not_mem_nil
  | last hl => simpa using hl
  | line hl _ _ ih => exact List.forall_mem_cons.mpr ⟨hl, ih⟩

/-- **Lines give in every layout the headers that they give alone.** -/
theorem LaidOut.ofBlock_eq_flatMap {ls : List Text} {s : Text} (h : LaidOut ls s) :
    ofBlock s = ls.flatMap ofBlock := by
  have halone : ∀ l ∈ ls, (ofFieldLine? l).toList = ofBlock l :=
    fun l hl => (ofBlock_of_no_break (h.isLine l hl).no_break).symm
  rw [h.ofBlock_eq, List.filterMap_eq_flatMap_toList]
  exact List.flatMap_congr halone

/-- **Neither folds nor line ends can be seen in what a block gives.** A line end before a space or tab can be put in and
taken out anywhere but directly behind `\r\n`. Lines give together what they give alone, whether line feeds, carriage
returns or both stand between them, with a last line end or without one, and even if each of them ends in its own way. -/
theorem block_layout_invisible :
    (∀ (a b : Text) (c : Char), (c = ' ' ∨ c = '\t') → ¬['\r', '\n'] <:+ a →
      ofBlock (a ++ ['\r', '\n'] ++ c :: b) = ofBlock (a ++ c :: b)) ∧
    (∀ (ls : List Text), (∀ l ∈ ls, IsLine l) → ∀ e, LineEnd e →
      ofBlock (e.intercalate ls) = ls.flatMap ofBlock ∧ ofBlock (ls.flatMap (· ++ e)) = ls.flatMap ofBlock) ∧
    ∀ (ls : List Text) (s : Text), LaidOut ls s → ofBlock s = ls.flatMap ofBlock := by
  refine ⟨fun a b c hc ha => ?_, fun ls h e he => ⟨?_, ?_⟩, fun ls s h => h.ofBlock_eq_flatMap⟩
  · rw [List.append_assoc]
    show ofBlock (a ++ '\r' :: '\n' :: c :: b) = _
    rw [ofBlock, unfoldLines_insert ha hc, ofBlock]
  · exact (laidOut_joined he h).ofBlock_eq_flatMap
  · exact (laidOut_ended he h).ofBlock_eq_flatMap

/-- A value that is continued on the next line, and lines, one of them empty, that end in carriage returns. -/
theorem block_layout_invisible_motley :
    let a := "X-Long: first".toList
    let b := "second\r\nX-Next: 1".toList
    let ls := ["A: 1".toList, [], "B: 2".toList]
    ¬['\r', '\n'] <:+ a ∧ ofBlock (a ++ ['\r', '\n'] ++ ' ' :: b) = ofBlock (a ++ ' ' :: b) ∧
      (∀ l ∈ ls, IsLine l) ∧ LineEnd ['\r'] ∧ ofBlock (ls.flatMap (· ++ ['\r'])) = ls.flatMap ofBlock := by
  intro a b ls
  have hopen : ¬['\r', '\n'] <:+ a := by decide +kernel
  have hlines : ∀ l ∈ ls, IsLine l := by
    simp only [ls, List.forall_mem_cons]
    refine ⟨⟨no_break_iff.mp (by decide), ?_⟩, ⟨no_break_iff.mp (by decide), nofun⟩,
      ⟨no_break_iff.mp (by decide), ?_⟩, nofun⟩
    all_goals
      rintro c ⟨⟩
      decide
  obtain ⟨hfold, hended, -⟩ := block_layout_invisible
  exact ⟨hopen, hfold a b ' ' (.inl rfl) hopen, hlines, .carriageReturn, (hended ls hlines ['\r'] .carriageReturn).2⟩

end Header
end WebScope
