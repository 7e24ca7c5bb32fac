import WebScope.Proofs.Text.Cutting
import WebScope.Toml.Quoted

/-!
# Quoted texts are read back

`Quoted.write` chooses one of four kinds of quotes for a text, and `Quoted.read?` has to find the kind, the end and
every character again, with more text behind. Each kind has its own danger:

- in basic texts an escape must be read as the character that it was written for (`Escaped`, `escaped`);
- on several lines a row of quotes must not close too early or too late: what is written never starts with three quotes,
  so it is a row of at most two, which belong to the text although they touch the closing ones, or nothing closes at
  its front, whatever is behind (`row_or_not_closing`);
- a line break behind the opening quotes must be the one that was put there (`dropBreak_leadingBreak`).

One reading lemma for each kind (`basic?_basicText`, `literal?_append`, `basicLines?_basicLinesText`,
`literalLines?_append`), and **every text is read back from its quotes** (`read?_write`).
-/

namespace WebScope

namespace Text

theorem after?_append_eq_none {p s : Text} (h : after? p s = none) (q : Text) : after? (p ++ q) s = none := by
  rw [Option.eq_none_iff_forall_ne_some]
  intro r hr
  have hs : s = p ++ (q ++ r) := by rw [← List.append_assoc]; exact eq_of_after? hr
  rw [hs, after?_append] at h
  cases h

theorem after?_eq_none_of_head {c : Char} {p s : Text} (h : s.head? ≠ some c) : after? (c :: p) s = none := by
  cases s with
  | nil => rfl
  | cons d s => exact if_neg fun he => h (by rw [he]; rfl)

theorem after?_eq_none_of_cutMark? {m s : Text} (h : cutMark? m s = none) : after? m s = none := by
  cases s with
  | nil => simpa [cutMark?] using h
  | cons c s =>
    rw [cutMark?] at h
    split at h
    · cases h
    · assumption

theorem cutMark?_tail {m s : Text} {c : Char} (h : cutMark? m (c :: s) = none) : cutMark? m s = none := by
  rw [cutMark?] at h
  split at h
  · cases h
  · simpa using h

end Text

namespace Toml
namespace Quoted

/-! ## Escapes -/

theorem endsLine_cons {c : Char} (hm : isMargin c = false) (hn : c ≠ '\n') (hr : c ≠ '\r') (s : Text) :
    endsLine (c :: s) = false := by
  rw [endsLine, List.dropWhile_cons_of_neg (by simp [hm])]
  have hbreak : afterBreak? (c :: s) = none := by
    rw [afterBreak?]
    · intro t h
      exact hn (List.cons.inj h).1
    · intro t h
      exact hr (List.cons.inj h).1
  rw [hbreak]
  rfl

/-- **What is written for a character** in basic texts, and is read as this character again. -/
inductive Escaped (c : Char) : Text → Prop
  | plain : isPlain c = true → c ≠ '\\' → c ≠ '"' → Escaped c [c]
  /-- A backslash before a text that is read as the character, and that ends no line. -/
  | escape {w : Text} : (∀ s, escape? (w ++ s) = some (c, w.length)) → (∀ s, endsLine (w ++ s) = false) →
    Escaped c ('\\' :: w)

/-- A letter behind a backslash stands for a character. -/
theorem escaped_of_letter {c e : Char} (h : escaped? e = some c) (hu : e ≠ 'u') (hU : e ≠ 'U') :
    Escaped c ['\\', e] := by
  have hne : ∀ d, escaped? d = none → e ≠ d := by
    rintro d hd rfl
    rw [hd] at h
    cases h
  have hmargin : isMargin e = false := by
    simp only [isMargin, Bool.or_eq_false_iff, beq_eq_false_iff_ne]
    exact ⟨hne ' ' rfl, hne '\t' rfl⟩
  refine .escape (fun s => ?_) fun s => endsLine_cons hmargin (hne '\n' rfl) (hne '\r' rfl) s
  show escape? (e :: s) = some (c, 1)
  rw [escape?]
  · rw [h]; rfl
  · exact hu
  · exact hU

/-- Controls and their two hexadecimal digits. -/
theorem scalar?_hexDigits {n : Nat} (h : n < 0x80) :
    scalar? ['0', '0', Text.hexDigit 'A' (n / 16), Text.hexDigit 'A' (n % 16)] = some (Char.ofNat n) := by
  have hvalid : n.isValidChar := .inl (by omega)
  rw [scalar?, Text.number?_hexDigits (.inr rfl) (by omega)]
  exact if_pos hvalid

/-- Four digits behind a backslash and `u` stand for a control. -/
theorem escaped_of_digits {c : Char} (h : c.toNat < 0x80) :
    Escaped c ['\\', 'u', '0', '0', Text.hexDigit 'A' (c.toNat / 16), Text.hexDigit 'A' (c.toNat % 16)] := by
  refine .escape (fun s => ?_) fun s => endsLine_cons (by decide) (by decide) (by decide) _
  show escape? ('u' :: '0' :: '0' :: Text.hexDigit 'A' (c.toNat / 16) :: Text.hexDigit 'A' (c.toNat % 16) :: s) =
    some (c, 5)
  have hscalar := scalar?_hexDigits h
  rw [Char.ofNat_toNat] at hscalar
  rw [escape?, if_neg (by simp)]
  simp only [List.take_succ_cons, List.take_zero, hscalar]
  rfl

/-- **Every character but the quote is escaped**, or written as it is. -/
theorem escaped {c : Char} (hq : c ≠ '"') : Escaped c (escape c) := by
  unfold escape
  split
  · rename_i h; subst h; exact escaped_of_letter rfl (by decide) (by decide)
  split
  · rename_i h; subst h; exact escaped_of_letter rfl (by decide) (by decide)
  split
  · rename_i h; subst h; exact escaped_of_letter rfl (by decide) (by decide)
  split
  · rename_i h; subst h; exact escaped_of_letter rfl (by decide) (by decide)
  split
  · rename_i h; subst h; exact escaped_of_letter rfl (by decide) (by decide)
  split
  · rename_i h
    exact escaped_of_digits (by omega)
  · rename_i hb _ _ _ _ h
    refine .plain ?_ hb hq
    simp only [isPlain, Bool.or_eq_true, Bool.and_eq_true, decide_eq_true_eq, bne_iff_ne]
    exact Or.inr ⟨by omega, by omega⟩

theorem Escaped.head?_ne {c : Char} {w : Text} (h : Escaped c w) (s : Text) : (w ++ s).head? ≠ some '"' := by
  cases h with
  | plain _ _ hq => simpa using hq
  | escape => simp

theorem Escaped.ne_nil {c : Char} {w : Text} (h : Escaped c w) : w ≠ [] := by
  cases h <;> simp

/-! ## Basic texts on one line -/

theorem basic?_skip : ∀ a s : Text, basic? a.length (a ++ s) = basic? 0 s
  | [], _ => rfl
  | c :: a, s => by
    rw [List.length_cons, List.cons_append, basic?]
    exact basic?_skip a s

/-- What is written for a character is read as this character. -/
theorem basic?_escaped {c : Char} {w : Text} (h : Escaped c w) (s : Text) :
    basic? 0 (w ++ s) = consTo c (basic? 0 s) := by
  cases h with
  | plain hp hb hq =>
    show basic? 0 (c :: s) = _
    rw [basic?, if_neg hq, if_neg hb, if_pos hp]
  | @escape w he _ =>
    show basic? 0 ('\\' :: (w ++ s)) = _
    rw [basic?, if_neg (by decide), if_pos rfl, he]
    exact congrArg (consTo c) (basic?_skip w s)

/-- **A basic text on one line is read back.** -/
theorem basic?_basicText : ∀ s rest : Text, basic? 0 (basicText s ++ '"' :: rest) = some (s, rest)
  | [], rest => by simp [basicText, basic?]
  | c :: s, rest => by
    have hc : Escaped c (if c = '"' then ['\\', '"'] else if c = '\n' then ['\\', 'n'] else escape c) := by
      split
      · rename_i h; subst h; exact escaped_of_letter rfl (by decide) (by decide)
      · rename_i hq
        split
        · rename_i h; subst h; exact escaped_of_letter rfl (by decide) (by decide)
        · exact escaped hq
    have ih := basic?_basicText s rest
    simp only [basicText] at ih ⊢
    rw [List.flatMap_cons, List.append_assoc, basic?_escaped hc, ih]
    rfl

theorem head?_basicText_ne {s : Text} (hs : s ≠ []) (t : Text) : (basicText s ++ t).head? ≠ some '"' := by
  obtain ⟨c, s, rfl⟩ := List.exists_cons_of_ne_nil hs
  rw [basicText, List.flatMap_cons, List.append_assoc]
  split
  · simp
  · split
    · simp
    · exact (escaped ‹_›).head?_ne _

/-! ## Literal texts on one line -/

/-- **A literal text on one line is read back.** -/
theorem literal?_append : ∀ {s : Text}, (∀ c ∈ s, isPlain c = true ∧ c ≠ '\'') → ∀ rest : Text,
    literal? (s ++ '\'' :: rest) = some (s, rest)
  | [], _, rest => by simp [literal?]
  | c :: s, h, rest => by
    obtain ⟨⟨hp, hq⟩, hs⟩ := List.forall_mem_cons.mp h
    rw [List.cons_append, literal?, if_neg hq, if_pos hp, literal?_append hs]
    rfl

/-! ## Closing quotes -/

section Closing

variable {q : Char}

theorem closing?_of_after? {s : Text} (h : Text.after? [q, q, q] s = none) : closing? q s = none := by
  rw [closing?, h]

/-- **A row of at most two quotes before the closing ones belongs to the text.** -/
theorem closing?_row {k : Nat} (hk : k ≤ 2) {rest : Text} (hr : rest.head? ≠ some q) :
    closing? q (List.replicate k q ++ ([q, q, q] ++ rest)) = some (List.replicate k q, rest) := by
  have hnone : ∀ p : Text, Text.after? (q :: p) rest = none := fun p => Text.after?_eq_none_of_head hr
  have hthree : ∀ s : Text, Text.after? [q, q, q] (q :: q :: q :: s) = some s := Text.after?_append [q, q, q]
  have htwo : ∀ s : Text, Text.after? [q, q] (q :: q :: s) = some s := Text.after?_append [q, q]
  have hone : ∀ s : Text, Text.after? [q] (q :: s) = some s := Text.after?_append [q]
  match k, hk with
  | 0, _ =>
    show closing? q (q :: q :: q :: rest) = _
    rw [closing?, hthree]
    simp only [hnone]
    rfl
  | 1, _ =>
    show closing? q (q :: q :: q :: q :: rest) = _
    have htwo' : Text.after? [q, q] (q :: rest) = none := by rw [Text.after?, if_pos rfl, hnone]
    rw [closing?, hthree]
    simp only [htwo', hone]
    rfl
  | 2, _ =>
    show closing? q (q :: q :: q :: q :: q :: rest) = _
    rw [closing?, hthree]
    simp only [htwo]
    rfl

/-- **A text that does not start with three quotes** is a row of at most two, or nothing closes at its front, whatever
is behind. -/
theorem row_or_not_closing : ∀ {w : Text}, Text.after? [q, q, q] w = none →
    (∃ k ≤ 2, w = List.replicate k q) ∨ ∀ r, closing? q (w ++ r) = none
  | [], _ => Or.inl ⟨0, by omega, rfl⟩
  | [a], _ => by
    by_cases ha : a = q
    · exact Or.inl ⟨1, by omega, by rw [ha]; rfl⟩
    · exact Or.inr fun r => closing?_of_after? (Text.after?_eq_none_of_head (by simpa using ha))
  | [a, b], _ => by
    by_cases ha : a = q
    · by_cases hb : b = q
      · exact Or.inl ⟨2, by omega, by rw [ha, hb]; rfl⟩
      · refine Or.inr fun r => closing?_of_after? ?_
        show Text.after? [q, q, q] (a :: b :: r) = none
        rw [Text.after?, if_pos ha.symm]
        exact Text.after?_eq_none_of_head (by simpa using hb)
    · exact Or.inr fun r => closing?_of_after? (Text.after?_eq_none_of_head (by simpa using ha))
  | a :: b :: c :: w, h => by
    refine Or.inr fun r => closing?_of_after? ?_
    show Text.after? [q, q, q] (a :: b :: c :: (w ++ r)) = none
    simp only [Text.after?] at h ⊢
    grind

end Closing

/-! ## Basic texts on several lines -/

theorem basicLines?_skip : ∀ a s : Text, basicLines? a.length (a ++ s) = basicLines? 0 s
  | [], _ => rfl
  | c :: a, s => by
    rw [List.length_cons, List.cons_append, basicLines?]
    exact basicLines?_skip a s

theorem basicLines?_of_closing {s : Text} {r : Text × Text} (h : closing? '"' s = some r) :
    basicLines? 0 s = some r := by
  cases s with
  | nil => cases h
  | cons c s => rw [basicLines?, h]

/-- A character that is no backslash is read as it is, where nothing closes. -/
theorem basicLines?_plain {c : Char} {s : Text} (hclosing : closing? '"' (c :: s) = none) (hb : c ≠ '\\')
    (hc : c = '\n' ∨ isPlain c = true) : basicLines? 0 (c :: s) = consTo c (basicLines? 0 s) := by
  have hr : c ≠ '\r' := by
    rintro rfl
    exact absurd hc (by decide)
  rw [basicLines?, hclosing]
  simp only [if_neg hb, if_neg hr]
  rw [if_pos (by simpa using hc)]

theorem basicLines?_escaped {c : Char} {w : Text} (h : Escaped c w) (s : Text) :
    basicLines? 0 (w ++ s) = consTo c (basicLines? 0 s) := by
  have hclosing : closing? '"' (w ++ s) = none :=
    closing?_of_after? (Text.after?_eq_none_of_head (h.head?_ne s))
  cases h with
  | plain hp hb _ => exact basicLines?_plain hclosing hb (Or.inr hp)
  | @escape w he hline =>
    rw [List.cons_append] at hclosing ⊢
    rw [basicLines?, hclosing]
    simp only [if_true, hline, Bool.false_eq_true, if_false, he, Option.bind_some, basicLines?_skip]

/-- Behind `n` quotes at most `2 - n` more are written in a row. -/
theorem after?_basicLinesText : ∀ (s : Text) (n k : Nat), n + k = 2 →
    Text.after? (List.replicate (k + 1) '"') (basicLinesText n s) = none
  | [], _, _, _ => rfl
  | c :: s, n, k, h => by
    by_cases hq : c = '"'
    · subst hq
      rw [basicLinesText, if_pos rfl]
      split
      · exact Text.after?_eq_none_of_head (by simp)
      · obtain ⟨k, rfl⟩ : ∃ k', k = k' + 1 := ⟨k - 1, by omega⟩
        rw [List.replicate_succ, Text.after?, if_pos rfl]
        exact after?_basicLinesText s (n + 1) k (by omega)
    · rw [basicLinesText, if_neg hq]
      split
      · exact Text.after?_eq_none_of_head (by simp)
      · exact Text.after?_eq_none_of_head ((escaped hq).head?_ne _)

/-- The inside of a basic text on several lines does not start with three quotes. -/
theorem after?_quotes_basicLinesText {n : Nat} (hn : n ≤ 2) (s : Text) :
    Text.after? ['"', '"', '"'] (basicLinesText n s) = none := by
  obtain ⟨k, hk⟩ : ∃ k, n + k = 2 := ⟨2 - n, by omega⟩
  have hquotes : ['"', '"', '"'] = List.replicate (k + 1) '"' ++ List.replicate n '"' := by
    rw [List.replicate_append_replicate, show k + 1 + n = 3 by omega]
    rfl
  rw [hquotes]
  exact Text.after?_append_eq_none (after?_basicLinesText s n k hk) _

/-- A row of quotes is written for a row of quotes only. -/
theorem eq_replicate_of_basicLinesText : ∀ {s : Text} {n k : Nat}, basicLinesText n s = List.replicate k '"' →
    s = List.replicate k '"'
  | [], _, k, h => by simpa [basicLinesText] using h
  | c :: s, n, k, h => by
    have hhead : ∀ w : Text, w.head? ≠ some '"' → w ≠ [] → w ≠ List.replicate k '"' := by
      rintro w hw hne rfl
      cases k with
      | zero => exact hne rfl
      | succ k => exact hw rfl
    by_cases hq : c = '"'
    · subst hq
      rw [basicLinesText, if_pos rfl] at h
      split at h
      · exact absurd h (hhead _ (by simp) (by simp))
      · cases k with
        | zero => cases h
        | succ k =>
          rw [List.replicate_succ, List.cons.injEq] at h
          rw [List.replicate_succ, ← eq_replicate_of_basicLinesText h.2]
    · rw [basicLinesText, if_neg hq] at h
      split at h
      · exact absurd h (hhead _ (by simp) (by simp))
      · have hw := escaped hq
        exact absurd h (hhead _ (hw.head?_ne _) (by simp [hw.ne_nil]))

/-- **A basic text on several lines is read back**, behind any quotes of it that were read before. -/
theorem basicLines?_basicLinesText {rest : Text} (hr : rest.head? ≠ some '"') : ∀ (s : Text) {n : Nat}, n ≤ 2 →
    basicLines? 0 (basicLinesText n s ++ (['"', '"', '"'] ++ rest)) = some (s, rest) := by
  intro s
  induction s with
  | nil =>
    intro n _
    exact basicLines?_of_closing (closing?_row (k := 0) (by omega) hr)
  | cons c s ih =>
    intro n hn
    rcases row_or_not_closing (after?_quotes_basicLinesText hn (c :: s)) with ⟨k, hk, hw⟩ | hno
    · -- Only quotes are left: they belong to the text, and the three behind them close it.
      rw [hw, eq_replicate_of_basicLinesText hw]
      exact basicLines?_of_closing (closing?_row hk hr)
    · have hclosing := hno (['"', '"', '"'] ++ rest)
      by_cases hq : c = '"'
      · subst hq
        rw [basicLinesText, if_pos rfl] at hclosing ⊢
        split at hclosing
        · rename_i h2
          have hquote : Escaped '"' ['\\', '"'] := escaped_of_letter rfl (by decide) (by decide)
          rw [if_pos h2]
          show basicLines? 0 (['\\', '"'] ++ (basicLinesText 0 s ++ (['"', '"', '"'] ++ rest))) = _
          rw [basicLines?_escaped hquote, ih (by omega)]
          rfl
        · rename_i h2
          rw [List.cons_append] at hclosing
          rw [if_neg h2, List.cons_append, basicLines?_plain hclosing (by decide) (by decide), ih (by omega)]
          rfl
      · rw [basicLinesText, if_neg hq] at hclosing ⊢
        split at hclosing
        · rename_i hbreak
          rw [List.cons_append] at hclosing
          rw [if_pos hbreak, List.cons_append, basicLines?_plain hclosing (by decide) (by decide), ih (by omega),
            hbreak]
          rfl
        · rename_i hbreak
          rw [if_neg hbreak, List.append_assoc, basicLines?_escaped (escaped hq), ih (by omega)]
          rfl

/-! ## Literal texts on several lines -/

theorem literalLines?_of_closing {s : Text} {r : Text × Text} (h : closing? '\'' s = some r) :
    literalLines? s = some r := by
  cases s with
  | nil => cases h
  | cons c s => rw [literalLines?, h]

/-- **A literal text on several lines is read back**, if it has no three quotes in a row. -/
theorem literalLines?_append {rest : Text} (hr : rest.head? ≠ some '\'') : ∀ {s : Text},
    (∀ c ∈ s, c = '\n' ∨ isPlain c = true) → Text.cutMark? ['\'', '\'', '\''] s = none →
    literalLines? (s ++ (['\'', '\'', '\''] ++ rest)) = some (s, rest) := by
  intro s
  induction s with
  | nil =>
    intro _ _
    exact literalLines?_of_closing (closing?_row (k := 0) (by omega) hr)
  | cons c s ih =>
    intro hplain hmark
    rcases row_or_not_closing (Text.after?_eq_none_of_cutMark? hmark) with ⟨k, hk, hrow⟩ | hno
    · -- As above: one or two quotes at the end touch the closing ones.
      rw [hrow]
      exact literalLines?_of_closing (closing?_row hk hr)
    · obtain ⟨hc, hs⟩ := List.forall_mem_cons.mp hplain
      have hcr : c ≠ '\r' := by
        rintro rfl
        exact absurd hc (by decide)
      rw [List.cons_append, literalLines?, ← List.cons_append, hno]
      simp only [if_neg hcr]
      rw [if_pos (by simpa using hc), ih hs (Text.cutMark?_tail hmark)]
      rfl

/-! ## Any kind -/

theorem hasControl_eq_false_iff {s : Text} : hasControl s = false ↔ ∀ c ∈ s, c = '\n' ∨ isPlain c = true := by
  simp only [hasControl, List.any_eq_false, Bool.and_eq_true, bne_iff_ne, Bool.not_eq_true', not_and_or,
    Bool.not_eq_false, not_not]

/-- **The line break behind the opening quotes is the one that was put there.** -/
theorem dropBreak_leadingBreak {s w : Text} (h : '\n' ∉ s → w.head? ≠ some '\n' ∧ w.head? ≠ some '\r') :
    dropBreak (leadingBreak s ++ w) = w := by
  unfold leadingBreak
  split
  · rfl
  · rename_i hs
    obtain ⟨hn, hr⟩ := h (by simpa using hs)
    rw [List.nil_append, dropBreak]
    have hbreak : afterBreak? w = none := by
      rw [afterBreak?]
      · rintro t rfl; exact hn rfl
      · rintro t rfl; exact hr rfl
    rw [hbreak]
    rfl

section Kinds

variable {s rest : Text}

theorem read?_basic (hr : rest.head? ≠ some '"') : read? ('"' :: basicText s ++ ['"'] ++ rest) = some (s, rest) := by
  have hbasic := basic?_basicText s rest
  have htext : '"' :: basicText s ++ ['"'] ++ rest = '"' :: (basicText s ++ '"' :: rest) := by simp
  have hthree : Text.after? ['"', '"', '"'] ('"' :: (basicText s ++ '"' :: rest)) = none := by
    rw [Text.after?, if_pos rfl]
    by_cases hs : s = []
    · subst hs
      show Text.after? ['"', '"'] ('"' :: rest) = none
      rw [Text.after?, if_pos rfl]
      exact Text.after?_eq_none_of_head hr
    · exact Text.after?_eq_none_of_head (head?_basicText_ne hs _)
  have hother : Text.after? ['\'', '\'', '\''] ('"' :: (basicText s ++ '"' :: rest)) = none :=
    Text.after?_eq_none_of_head (by simp)
  rw [htext]
  unfold read?
  rw [hthree, hother]
  exact hbasic

theorem read?_literal (hr : rest.head? ≠ some '\'') (hs : ∀ c ∈ s, isPlain c = true ∧ c ≠ '\'') :
    read? ('\'' :: s ++ ['\''] ++ rest) = some (s, rest) := by
  have hliteral := literal?_append hs rest
  have htext : '\'' :: s ++ ['\''] ++ rest = '\'' :: (s ++ '\'' :: rest) := by simp
  have hthree : Text.after? ['\'', '\'', '\''] ('\'' :: (s ++ '\'' :: rest)) = none := by
    rw [Text.after?, if_pos rfl]
    cases s with
    | nil =>
      show Text.after? ['\'', '\''] ('\'' :: rest) = none
      rw [Text.after?, if_pos rfl]
      exact Text.after?_eq_none_of_head hr
    | cons c s => exact Text.after?_eq_none_of_head (by simpa using (hs c List.mem_cons_self).2)
  have hother : Text.after? ['"', '"', '"'] ('\'' :: (s ++ '\'' :: rest)) = none :=
    Text.after?_eq_none_of_head (by simp)
  rw [htext]
  unfold read?
  rw [hthree, hother]
  exact hliteral

/-- A basic text on several lines does not start with a line break that is not in the text. -/
theorem head?_basicLinesText_ne (hs : '\n' ∉ s) (t : Text) :
    (basicLinesText 0 s ++ (['"', '"', '"'] ++ t)).head? ≠ some '\n' ∧
      (basicLinesText 0 s ++ (['"', '"', '"'] ++ t)).head? ≠ some '\r' := by
  cases s with
  | nil => exact ⟨by simp [basicLinesText], by simp [basicLinesText]⟩
  | cons c s =>
    have hc : c ≠ '\n' := by
      rintro rfl
      exact hs List.mem_cons_self
    by_cases hq : c = '"'
    · subst hq
      simp [basicLinesText]
    · rw [basicLinesText, if_neg hq, if_neg hc, List.append_assoc]
      have hw := escaped hq
      generalize escape c = w at hw
      cases hw with
      | plain hp =>
        refine ⟨by simpa using hc, ?_⟩
        simp only [List.cons_append, List.head?_cons, ne_eq, Option.some.injEq]
        rintro rfl
        exact absurd hp (by decide)
      | escape => simp

theorem read?_basicLines (hr : rest.head? ≠ some '"') :
    read? (['"', '"', '"'] ++ leadingBreak s ++ basicLinesText 0 s ++ ['"', '"', '"'] ++ rest) = some (s, rest) := by
  have htext : ['"', '"', '"'] ++ leadingBreak s ++ basicLinesText 0 s ++ ['"', '"', '"'] ++ rest =
      ['"', '"', '"'] ++ (leadingBreak s ++ (basicLinesText 0 s ++ (['"', '"', '"'] ++ rest))) := by
    simp only [List.append_assoc]
  rw [htext]
  unfold read?
  rw [Text.after?_append]
  simp only [dropBreak_leadingBreak fun hs => head?_basicLinesText_ne hs rest]
  exact basicLines?_basicLinesText hr s (by omega)

theorem read?_literalLines (hr : rest.head? ≠ some '\'') (hs : ∀ c ∈ s, c = '\n' ∨ isPlain c = true)
    (hmark : Text.cutMark? ['\'', '\'', '\''] s = none) :
    read? (['\'', '\'', '\''] ++ leadingBreak s ++ s ++ ['\'', '\'', '\''] ++ rest) = some (s, rest) := by
  have htext : ['\'', '\'', '\''] ++ leadingBreak s ++ s ++ ['\'', '\'', '\''] ++ rest =
      ['\'', '\'', '\''] ++ (leadingBreak s ++ (s ++ (['\'', '\'', '\''] ++ rest))) := by
    simp only [List.append_assoc]
  have hhead : '\n' ∉ s → (s ++ (['\'', '\'', '\''] ++ rest)).head? ≠ some '\n' ∧
      (s ++ (['\'', '\'', '\''] ++ rest)).head? ≠ some '\r' := by
    intro hn
    cases s with
    | nil => simp
    | cons c s =>
      simp only [List.cons_append, List.head?_cons, ne_eq, Option.some.injEq]
      refine ⟨?_, ?_⟩
      · rintro rfl
        exact hn List.mem_cons_self
      · rintro rfl
        exact absurd (hs '\r' List.mem_cons_self) (by decide)
  have hother : Text.after? ['"', '"', '"']
      (['\'', '\'', '\''] ++ (leadingBreak s ++ (s ++ (['\'', '\'', '\''] ++ rest)))) = none :=
    Text.after?_eq_none_of_head (by simp)
  rw [htext]
  unfold read?
  rw [hother, Text.after?_append]
  simp only [dropBreak_leadingBreak hhead]
  exact literalLines?_append hr hs hmark

/-- **Every text is read back from its quotes**, whatever is behind them but another quote. -/
theorem read?_write (s : Text) {rest : Text} (hd : rest.head? ≠ some '"') (hq : rest.head? ≠ some '\'') :
    read? (write s ++ rest) = some (s, rest) := by
  unfold write
  split
  · exact read?_basic hd
  split
  · rename_i h
    simp only [Bool.and_eq_true, Bool.not_eq_true', hasControl_eq_false_iff] at h
    obtain ⟨⟨hplain, hquote⟩, hbreak⟩ := h
    refine read?_literal hq fun c hc => ⟨(hplain c hc).resolve_left ?_, ?_⟩
    · rintro rfl
      simp [hc] at hbreak
    · rintro rfl
      simp [hc] at hquote
  split
  · exact read?_basicLines hd
  split
  · rename_i h
    simp only [Bool.and_eq_true, Bool.not_eq_true', hasControl_eq_false_iff, holds, Option.isSome_eq_false_iff,
      Option.isNone_iff_eq_none] at h
    exact read?_literalLines hq h.1 h.2
  split
  · exact read?_basicLines hd
  · exact read?_basic hd

end Kinds

end Quoted
end Toml
end WebScope
