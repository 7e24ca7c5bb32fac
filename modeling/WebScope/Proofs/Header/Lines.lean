import Mathlib.Data.List.Chain
import WebScope.Header.Block
import WebScope.Proofs.Text.Cutting

/-!
# The lines of a block

A block is read in two passes: continued lines are joined, then the text is split at every line break. Here lines that
end in one of the three ways (`LineEnd`) are laid out in a block and read again (`LaidOut`).

- Only before a space or tab the end of a line is dropped (`unfoldLines_fold`, `unfoldLines_of_not_folds`), so a text is
  unfolded part by part where no such end lies across the seam (`unfoldLines_append`), and there is nothing to unfold in
  lines none of which starts with a space or tab (`LaidOut.apart`, `NoFold.unfoldLines_eq`).
- A line is read on its own, whatever ends it (`filterMap_fields_append`): the line break within `\r\n` only makes an
  empty line more.
- So **a block that is laid out in lines is read line by line**, and its line ends cannot be seen (`LaidOut.ofBlock_eq`,
  for joined lines `ofBlock_joined`).
-/

namespace WebScope
namespace Header

/-- **The ends of lines.** -/
inductive LineEnd : Text → Prop
  | lineFeed : LineEnd ['\n']
  | both : LineEnd ['\r', '\n']
  | carriageReturn : LineEnd ['\r']

/-- A text without line breaks that does not start with a space or tab, and so continues no other line. -/
structure IsLine (l : Text) : Prop where
  no_break : ∀ c ∈ l, Text.isLineBreak c = false
  head_ne : ∀ c, l.head? = some c → c ≠ ' ' ∧ c ≠ '\t'

theorem no_break_iff {s : Text} : ('\r' ∉ s ∧ '\n' ∉ s) ↔ ∀ c ∈ s, Text.isLineBreak c = false := by
  simp only [Text.isLineBreak, Bool.or_eq_false_iff, beq_eq_false_iff_ne]
  constructor
  · rintro ⟨hr, hn⟩ c hc
    exact ⟨fun he => hr (he ▸ hc), fun he => hn (he ▸ hc)⟩
  · intro h
    exact ⟨fun hr => (h _ hr).1 rfl, fun hn => (h _ hn).2 rfl⟩

/-- A header without flags is its key and its value. -/
theorem eq_of_no_flags {h : Header} (hsystem : h.system = none) (hdisabled : h.disabled = none) :
    h = { key := h.key, value := h.value } := by
  cases h
  cases hsystem
  cases hdisabled
  rfl

/-! ## Unfolding -/

/-- Only a carriage return can start what is unfolded. -/
theorem unfoldLines_cons {c : Char} (hc : c ≠ '\r') (s : Text) : unfoldLines (c :: s) = c :: unfoldLines s := by
  rw [unfoldLines]
  rintro d t rfl
  exact absurd rfl hc

/-- A text that starts with the end of a line that is continued. -/
def Folds (s : Text) : Prop := ∃ c r, s = '\r' :: '\n' :: c :: r ∧ (c = ' ' ∨ c = '\t')

theorem unfoldLines_fold {c : Char} (hc : c = ' ' ∨ c = '\t') (s : Text) :
    unfoldLines ('\r' :: '\n' :: c :: s) = c :: unfoldLines s := by
  rw [unfoldLines, if_pos hc]

/-- **What does not start with a continued line end keeps its first character.** -/
theorem unfoldLines_of_not_folds {x : Char} {s : Text} (h : ¬Folds (x :: s)) :
    unfoldLines (x :: s) = x :: unfoldLines s := by
  by_cases hx : ∃ c r, x :: s = '\r' :: '\n' :: c :: r
  · obtain ⟨c, r, he⟩ := hx
    have hc : ¬(c = ' ' ∨ c = '\t') := fun hc => h ⟨c, r, he, hc⟩
    cases he
    rw [unfoldLines, if_neg hc, unfoldLines_cons (by decide : '\n' ≠ '\r')]
  · rw [unfoldLines]
    rintro c r rfl rfl
    exact hx ⟨c, r, rfl⟩

/-- A stretch in which no line is continued. -/
def NoFold (s : Text) : Prop := ∀ t, t <:+ s → ¬Folds t

theorem noFold_nil : NoFold [] := by
  intro t ht
  rw [List.suffix_nil.mp ht]
  rintro ⟨c, r, he, -⟩
  cases he

theorem noFold_cons_iff {x : Char} {s : Text} : NoFold (x :: s) ↔ ¬Folds (x :: s) ∧ NoFold s := by
  simp only [NoFold, List.suffix_cons_iff]
  constructor
  · intro h
    exact ⟨h _ (.inl rfl), fun t ht => h t (.inr ht)⟩
  · rintro ⟨hx, hs⟩ t (rfl | ht)
    · exact hx
    · exact hs t ht

/-- **A stretch without a continued line end is left alone.** -/
theorem NoFold.unfoldLines_eq {s : Text} (h : NoFold s) : unfoldLines s = s := by
  induction s with
  | nil => rfl
  | cons x s ih =>
    obtain ⟨hx, hs⟩ := noFold_cons_iff.mp h
    rw [unfoldLines_of_not_folds hx, ih hs]

/-- **No continued line end lies across the seam** of two texts. -/
def Parted (s t : Text) : Prop :=
  ∀ c, t.head? = some c → c ≠ '\n' ∧ (['\r', '\n'] <:+ s → c ≠ ' ' ∧ c ≠ '\t')

theorem Parted.of_suffix {s s' t : Text} (h : Parted s t) (hs : s' <:+ s) : Parted s' t :=
  fun c hc => ⟨(h c hc).1, fun he => (h c hc).2 (he.trans hs)⟩

theorem not_folds_append {x : Char} {s t : Text} (h : ¬Folds (x :: s)) (ht : Parted (x :: s) t) :
    ¬Folds (x :: (s ++ t)) := by
  rintro ⟨c, r, he, hc⟩
  match s with
  | [] =>
    cases he
    exact (ht '\n' rfl).1 rfl
  | [y] =>
    cases he
    obtain ⟨hspace, htab⟩ := (ht c rfl).2 List.suffix_rfl
    rcases hc with rfl | rfl
    · exact hspace rfl
    · exact htab rfl
  | y :: z :: s =>
    cases he
    exact h ⟨_, s, rfl, hc⟩

/-- **Texts are unfolded part by part** where no continued line end lies across the seam. -/
theorem unfoldLines_append {t : Text} : ∀ {s : Text}, Parted s t →
    unfoldLines (s ++ t) = unfoldLines s ++ unfoldLines t
  | [], _ => rfl
  | x :: s, h => by
    by_cases hx : Folds (x :: s)
    · obtain ⟨c, r, he, hc⟩ := hx
      cases he
      have hr : Parted r t := h.of_suffix ⟨['\r', '\n', c], rfl⟩
      rw [unfoldLines_fold hc, List.cons_append, List.cons_append, List.cons_append, unfoldLines_fold hc,
        unfoldLines_append hr, List.cons_append]
    · have hs : Parted s t := h.of_suffix (List.suffix_cons x s)
      rw [List.cons_append, unfoldLines_of_not_folds (not_folds_append hx h), unfoldLines_of_not_folds hx,
        unfoldLines_append hs, List.cons_append]

/-! ## Blocks that are laid out in lines -/

/-- **A text that is laid out in lines**: each line ends in its own way, and the last one need not end. -/
inductive LaidOut : List Text → Text → Prop
  | none : LaidOut [] []
  | last {l : Text} (hl : IsLine l) : LaidOut [l] l
  | line {l e s : Text} {ls : List Text} (hl : IsLine l) (he : LineEnd e) (h : LaidOut ls s) :
      LaidOut (l :: ls) (l ++ e ++ s)

/-- Behind a line break no line is continued. -/
def Apart (x c : Char) : Prop := Text.isLineBreak x = true → c ≠ ' ' ∧ c ≠ '\t'

theorem noFold_of_apart {s : Text} (h : s.IsChain Apart) : NoFold s := by
  rintro t ht ⟨c, r, rfl, hc⟩
  obtain ⟨hspace, htab⟩ := (h.suffix ht).tail.rel (by decide : Text.isLineBreak '\n' = true)
  rcases hc with rfl | rfl
  · exact hspace rfl
  · exact htab rfl

theorem apart_of_no_break {l : Text} (hl : ∀ c ∈ l, Text.isLineBreak c = false) : l.IsChain Apart := by
  refine List.Pairwise.isChain (List.pairwise_of_forall_mem_list fun a ha b _ hbreak => ?_)
  rw [hl a ha] at hbreak
  cases hbreak

/-- A line continues nothing, behind whatever it stands. -/
theorem IsLine.apart {l : Text} (hl : IsLine l) (x : Char) : (x :: l).IsChain Apart :=
  (apart_of_no_break hl.no_break).cons fun c hc _ => hl.head_ne c hc

/-- **Lines are apart**, whatever ends them, also behind a line break. -/
theorem LaidOut.apart {ls : List Text} {s : Text} (h : LaidOut ls s) :
    ∀ x : Char, Text.isLineBreak x = true → (x :: s).IsChain Apart := by
  induction h with
  | none => exact fun x _ => .singleton x
  | last hl => exact fun x _ => hl.apart x
  | @line l e s ls hl he _ ih =>
    intro x _
    have hend : (e ++ s).IsChain Apart ∧ ∀ c, (e ++ s).head? = some c → c ≠ ' ' ∧ c ≠ '\t' := by
      cases he with
      | lineFeed => exact ⟨ih '\n' (by decide), by rintro c ⟨⟩; decide⟩
      | carriageReturn => exact ⟨ih '\r' (by decide), by rintro c ⟨⟩; decide⟩
      | both => exact ⟨(ih '\n' (by decide)).cons_cons fun _ => by decide, by rintro c ⟨⟩; decide⟩
    rw [List.append_assoc]
    exact (hl.apart x).append hend.1 fun _ _ c hc _ => hend.2 c hc

/-- **A line is read on its own**, whatever ends it. -/
theorem filterMap_fields_append {l e : Text} (hl : ∀ c ∈ l, Text.isLineBreak c = false) (he : LineEnd e) (s : Text) :
    (Text.fields Text.isLineBreak (l ++ e ++ s)).filterMap ofFieldLine? =
      (ofFieldLine? l).toList ++ (Text.fields Text.isLineBreak s).filterMap ofFieldLine? := by
  have hline : ∀ c t, Text.isLineBreak c = true →
      (Text.fields Text.isLineBreak (l ++ c :: t)).filterMap ofFieldLine? =
        (ofFieldLine? l).toList ++ (Text.fields Text.isLineBreak t).filterMap ofFieldLine? := by
    intro c t hc
    rw [Text.fields_append_cons hc, Text.fields_of_not_mem hl, List.filterMap_append, List.filterMap_cons]
    cases ofFieldLine? l <;> rfl
  rw [List.append_assoc]
  cases he with
  | lineFeed => exact hline '\n' s (by decide)
  | carriageReturn => exact hline '\r' s (by decide)
  | both =>
    -- The line feed behind the carriage return ends an empty line, which is no header.
    rw [List.cons_append, hline '\r' _ (by decide)]
    rfl

/-- **A block that is laid out in lines is read line by line.** -/
theorem LaidOut.ofBlock_eq {ls : List Text} {s : Text} (h : LaidOut ls s) :
    ofBlock s = ls.filterMap ofFieldLine? := by
  have hapart : s.IsChain Apart := (h.apart '\n' (by decide)).tail
  rw [ofBlock, (noFold_of_apart hapart).unfoldLines_eq]
  clear hapart
  induction h with
  | none => rfl
  | last hl => rw [Text.fields_of_not_mem hl.no_break]
  | @line l e s ls hl he _ ih =>
    rw [filterMap_fields_append hl.no_break he, ih, List.filterMap_cons]
    cases ofFieldLine? l <;> rfl

/-- A block without line breaks is one line. -/
theorem ofBlock_of_no_break {line : Text} (h : ∀ c ∈ line, Text.isLineBreak c = false) :
    ofBlock line = (ofFieldLine? line).toList := by
  rw [ofBlock, (noFold_of_apart (apart_of_no_break h)).unfoldLines_eq, Text.fields_of_not_mem h, List.filterMap_cons]
  cases ofFieldLine? line <;> rfl

/-- Joined lines are laid out. -/
theorem laidOut_joined {e : Text} (he : LineEnd e) : ∀ {ls : List Text}, (∀ l ∈ ls, IsLine l) →
    LaidOut ls (e.intercalate ls)
  | [], _ => .none
  | [l], h => by
    rw [List.intercalate_singleton]
    exact .last (h l List.mem_cons_self)
  | l :: l' :: ls, h => by
    obtain ⟨hl, hls⟩ := List.forall_mem_cons.mp h
    rw [List.intercalate_cons_cons]
    exact .line hl he (laidOut_joined he hls)

/-- **Joined lines are read line by line.** -/
theorem ofBlock_joined {e : Text} (he : LineEnd e) {ls : List Text} (h : ∀ l ∈ ls, IsLine l) :
    ofBlock (e.intercalate ls) = ls.filterMap ofFieldLine? := (laidOut_joined he h).ofBlock_eq

end Header
end WebScope
