import WebScope.Proofs.Header.FieldLines
import WebScope.Proofs.Header.LineRoundTrip

/-!
# One line read in two ways

A line can be read alone, up to its first mark (`ofLine`), or as a block, up to the last mark before its first blank.
For a line `name:rest` both give one header.

- Alone the line is cut behind its name (`IsName.ofLine_eq`).
- As a block it gives the header of a field line (`IsName.exists_isFieldLine`, `IsName.ofBlock_eq_iff`), which has the key
  `name` if the rest has no mark before its first blank (`IsName.isFieldLine_iff`).
- So **the two agree exactly if the rest has no mark before its first blank** (`ofBlock_eq_ofLine_iff`). A host directly
  behind the name is taken for a part of it if a port follows (`ofBlock_ne_ofLine`).
-/

namespace WebScope
namespace Header

/-- **A name**, which is not empty and has neither marks nor blanks. -/
structure IsName (name : Text) : Prop where
  ne_nil : name ≠ []
  no_mark : keyMark ∉ name
  no_blank : ∀ c ∈ name, Text.isBlank c = false

theorem isName_iff {name : Text} :
    IsName name ↔ name ≠ [] ∧ name.all (fun c => c != keyMark && !Text.isBlank c) = true := by
  simp only [List.all_eq_true, Bool.and_eq_true, bne_iff_ne, Bool.not_eq_true']
  constructor
  · rintro ⟨hne, hmark, hblank⟩
    exact ⟨hne, fun c hc => ⟨fun he => hmark (he ▸ hc), hblank c hc⟩⟩
  · rintro ⟨hne, h⟩
    exact ⟨hne, fun hm => (h _ hm).1 rfl, fun c hc => (h c hc).2⟩

instance (name : Text) : Decidable (IsName name) := decidable_of_iff _ isName_iff.symm

section Named

variable {name : Text} (hname : IsName name)
include hname

/-- **Alone a line is cut behind its name.** -/
theorem IsName.ofLine_eq (rest : Text) :
    ofLine (name ++ keyMark :: rest) = { key := name, value := Text.trimBlanks rest } := by
  have htrim : Text.trimBlanks name = name :=
    Text.trim_eq_self (fun c hc => hname.no_blank c (List.mem_of_mem_head? hc))
      fun c hc => hname.no_blank c (List.mem_of_getLast? hc)
  rw [ofLine_append_cons hname.no_mark, htrim]

/-- The run before the first blank reaches over the name into the rest. -/
theorem IsName.leadingRun_eq (rest : Text) :
    leadingRun (name ++ keyMark :: rest) = name ++ keyMark :: leadingRun rest := by
  have hsolid : ∀ c ∈ name, isSolid c = true := fun c hc => by simp [isSolid, hname.no_blank c hc]
  rw [leadingRun, List.takeWhile_append_of_pos hsolid, List.takeWhile_cons_of_pos isSolid_keyMark, leadingRun]

/-- A line with a name is a field line. -/
theorem IsName.exists_isFieldLine (rest : Text) : ∃ h, IsFieldLine (name ++ keyMark :: rest) h := by
  cases hline : ofFieldLine? (name ++ keyMark :: rest) with
  | some h => exact ⟨h, ofFieldLine?_eq_some_iff.mp hline⟩
  | none =>
    have hmark := ofFieldLine?_eq_none_iff.mp hline
    obtain ⟨c, name, rfl⟩ := List.exists_cons_of_ne_nil hname.ne_nil
    rw [hname.leadingRun_eq] at hmark
    exact absurd (List.mem_append_right name List.mem_cons_self) hmark

/-- **The key of a field line is its name if no mark follows before the first blank.** -/
theorem IsName.isFieldLine_iff (rest : Text) :
    IsFieldLine (name ++ keyMark :: rest) { key := name, value := Text.trimBlanks rest } ↔
      keyMark ∉ leadingRun rest := by
  constructor
  · rintro ⟨-, ⟨more, hrun, hmore⟩, -, -, -⟩
    rw [hname.leadingRun_eq] at hrun
    have heq : leadingRun rest = more := by simpa using hrun
    rwa [heq]
  · intro hmark
    refine ⟨?_, ⟨leadingRun rest, hname.leadingRun_eq rest, hmark⟩, ⟨rest, rfl, rfl⟩, rfl, rfl⟩
    rw [hname.leadingRun_eq]
    exact (mem_tail_iff hmark).mpr hname.ne_nil

variable {rest : Text} (hrest : '\r' ∉ rest ∧ '\n' ∉ rest)
include hrest

/-- **As a block a line with a name is one header**, the one of the field line. -/
theorem IsName.ofBlock_eq_iff (h : Header) :
    ofBlock (name ++ keyMark :: rest) = [h] ↔ IsFieldLine (name ++ keyMark :: rest) h := by
  have hline : ∀ c ∈ name ++ keyMark :: rest, Text.isLineBreak c = false := by
    intro c hc
    rcases List.mem_append.mp hc with hc | hc
    · by_contra hb
      have hblank := Text.isBlank_of_isLineBreak (by simpa using hb)
      rw [hname.no_blank c hc] at hblank
      cases hblank
    · rcases List.mem_cons.mp hc with rfl | hc
      · decide
      · exact no_break_iff.mp hrest c hc
  rw [ofBlock_of_no_break hline, ← ofFieldLine?_eq_some_iff]
  cases ofFieldLine? (name ++ keyMark :: rest) <;> simp

/-- **A line with a name is read in the same way alone and as a block exactly if no mark follows the name before the
first blank.** Alone it is always cut behind the name, and as a block it is always one header. -/
theorem ofBlock_eq_ofLine_iff :
    ofLine (name ++ keyMark :: rest) = { key := name, value := Text.trimBlanks rest } ∧
      (∃ h, IsFieldLine (name ++ keyMark :: rest) h ∧ ofBlock (name ++ keyMark :: rest) = [h]) ∧
      (ofBlock (name ++ keyMark :: rest) = [ofLine (name ++ keyMark :: rest)] ↔ keyMark ∉ leadingRun rest) := by
  refine ⟨hname.ofLine_eq rest, ?_, ?_⟩
  · obtain ⟨h, hline⟩ := hname.exists_isFieldLine rest
    exact ⟨h, hline, (hname.ofBlock_eq_iff hrest h).mpr hline⟩
  · rw [hname.ofLine_eq, hname.ofBlock_eq_iff hrest, hname.isFieldLine_iff]

end Named

/-- The marks in a time stand behind a blank. -/
theorem ofBlock_eq_ofLine_date :
    let rest := " Tue, 15 Nov 1994 08:12:31 GMT".toList
    IsName "Date".toList ∧ ('\r' ∉ rest ∧ '\n' ∉ rest) ∧ keyMark ∉ leadingRun rest ∧
      ofBlock ("Date".toList ++ keyMark :: rest) = [ofLine ("Date".toList ++ keyMark :: rest)] := by
  intro rest
  have hname : IsName "Date".toList := by decide +kernel
  have hrest : '\r' ∉ rest ∧ '\n' ∉ rest := by decide +kernel
  have hmark : keyMark ∉ leadingRun rest := by decide +kernel
  exact ⟨hname, hrest, hmark, (ofBlock_eq_ofLine_iff hname hrest).2.2.mpr hmark⟩

/-- The mark of a port stands before every blank, so the block has another header than the line. -/
theorem ofBlock_ne_ofLine :
    let line := "Host:localhost:8080".toList
    IsName "Host".toList ∧ line = "Host".toList ++ keyMark :: "localhost:8080".toList ∧
      ofLine line = { key := "Host".toList, value := "localhost:8080".toList } ∧
      ofBlock line = [{ key := "Host:localhost".toList, value := "8080".toList }] := by
  intro line
  refine ⟨?_, rfl, ?_, ?_⟩
  all_goals decide +kernel

end Header
end WebScope
