import WebScope.Proofs.Toml.Quoted
import WebScope.Toml.Document

/-!
# The lines of a document are read one after the other

A line of a document is read without a look at the lines behind it. `Document.Reads t sts` says of a text of whole lines
that it gives the statements `sts` in front of whatever the text behind it gives, and costs no more fuel than it has
characters; so such texts can be put together (`Reads.append`), and a document of them has their statements
(`Reads.statements?_eq`).

- The lines that are read: blank lines (`reads_blank`), assignments of a value to a plain key (`reads_assignment`), and
  headers of items (`reads_itemHeader`).
- The values that are read: quoted texts (`isValueText_write`), truth values (`isValueText_boolean`) and the empty array
  (`isValueText_noItems`).
-/

namespace WebScope
namespace Toml
namespace Document

/-! ## Keys -/

/-- **A key that needs no quotes.** -/
structure IsPlainKey (k : Text) : Prop where
  ne_nil : k ≠ []
  chars : ∀ c ∈ k, isKeyChar c = true

theorem isPlainKey_iff {k : Text} : (k ≠ [] ∧ k.all isKeyChar = true) ↔ IsPlainKey k := by
  rw [List.all_eq_true]
  exact ⟨fun h => ⟨h.1, h.2⟩, fun h => ⟨h.ne_nil, h.chars⟩⟩

instance (k : Text) : Decidable (IsPlainKey k) := decidable_of_iff _ isPlainKey_iff

theorem ne_of_isKeyChar {c d : Char} (hc : isKeyChar c = true) (hd : isKeyChar d = false) : c ≠ d := by
  rintro rfl
  rw [hc] at hd
  cases hd

theorem dropMargin_cons {c : Char} (hc : Quoted.isMargin c = false) (s : Text) : dropMargin (c :: s) = c :: s :=
  List.dropWhile_cons_of_neg (by simp [hc])

theorem not_isMargin_of_isKeyChar {c : Char} (hc : isKeyChar c = true) : Quoted.isMargin c = false := by
  simp only [Quoted.isMargin, Bool.or_eq_false_iff, beq_eq_false_iff_ne]
  exact ⟨ne_of_isKeyChar hc (by decide), ne_of_isKeyChar hc (by decide)⟩

/-- A plain key is read up to the first other character. -/
theorem keyPart?_append {k s : Text} (hk : IsPlainKey k) (hs : ∀ c, s.head? = some c → isKeyChar c = false) :
    keyPart? (k ++ s) = some (k, s) := by
  have htake : (k ++ s).takeWhile isKeyChar = k := by
    rw [Text.takeWhile_append_of_head hs, List.takeWhile_eq_self_iff.mpr hk.chars]
  have hdrop : (k ++ s).dropWhile isKeyChar = s := by
    rw [Text.dropWhile_append_of_head hs, List.dropWhile_eq_nil_iff.mpr hk.chars, List.nil_append]
  obtain ⟨c, k', hk'⟩ := List.exists_cons_of_ne_nil hk.ne_nil
  have hc : isKeyChar c = true := hk.chars c (by rw [hk']; exact List.mem_cons_self)
  rw [keyPart?, htake, hdrop, if_neg hk.ne_nil]
  · rintro t ht
    rw [hk', List.cons_append, List.cons.injEq] at ht
    exact ne_of_isKeyChar hc (by decide) ht.1
  · rintro t ht
    rw [hk', List.cons_append, List.cons.injEq] at ht
    exact ne_of_isKeyChar hc (by decide) ht.1

/-- **A plain key is read**, with the margin behind it. -/
theorem key?_append {k s : Text} (hk : IsPlainKey k) (hs : ∀ c, s.head? = some c → isKeyChar c = false)
    (hdot : (dropMargin s).head? ≠ some '.') (room : Nat) : key? room (k ++ s) = some (([], k), dropMargin s) := by
  have hmargin : dropMargin (k ++ s) = k ++ s := by
    obtain ⟨c, k', rfl⟩ := List.exists_cons_of_ne_nil hk.ne_nil
    exact dropMargin_cons (not_isMargin_of_isKeyChar (hk.chars c List.mem_cons_self)) _
  have hpart := keyPart?_append hk hs
  -- Without a dot the room for more parts does not matter.
  cases room with
  | zero | succ room =>
    rw [key?, hmargin, hpart]
    simp only [Option.bind_eq_bind, Option.bind_some]
    split
    · rename_i h
      exact absurd (by rw [h]; rfl) hdot
    · rfl

/-! ## Values -/

/-- **The text `w` is read as the value `v`** at the end of a line, and has no margin in front. -/
structure IsValueText (w : Text) (v : Value) : Prop where
  no_margin : ∀ s, dropMargin (w ++ s) = w ++ s
  read : ∀ (fuel room : Nat) (s : Text), value? (fuel + 3) (room + 1) (w ++ '\n' :: s) = some (v, '\n' :: s)

theorem exists_write_eq (s : Text) : ∃ t, Quoted.write s = '"' :: t ∨ Quoted.write s = '\'' :: t := by
  unfold Quoted.write
  split
  · exact ⟨_, Or.inl rfl⟩
  split
  · exact ⟨_, Or.inr rfl⟩
  split
  · exact ⟨_, Or.inl rfl⟩
  split
  · exact ⟨_, Or.inr rfl⟩
  split
  · exact ⟨_, Or.inl rfl⟩
  · exact ⟨_, Or.inl rfl⟩

/-- **A text in quotes is read as the text.** -/
theorem isValueText_write (t : Text) : IsValueText (Quoted.write t) (.string t) where
  no_margin := by
    intro s
    obtain ⟨w, hw | hw⟩ := exists_write_eq t
    · rw [hw]; exact dropMargin_cons (by decide) _
    · rw [hw]; exact dropMargin_cons (by decide) _
  read := by
    intro fuel room s
    have hread : Quoted.read? (Quoted.write t ++ '\n' :: s) = some (t, '\n' :: s) :=
      Quoted.read?_write t (by simp) (by simp)
    obtain ⟨w, hw | hw⟩ := exists_write_eq t
    · rw [hw, List.cons_append] at hread ⊢
      rw [value?, hread]
      rfl
    · rw [hw, List.cons_append] at hread ⊢
      rw [value?, hread]
      rfl

/-- What starts with no bracket and no quote is read as a scalar. -/
theorem value?_scalar {c : Char} (hc : c ≠ '[' ∧ c ≠ '\x7b' ∧ c ≠ '"' ∧ c ≠ '\'') (fuel room : Nat) (s : Text) :
    value? (fuel + 1) room (c :: s) = Scalar.read? (c :: s) := by
  obtain ⟨hbracket, hbrace, hd, hq⟩ := hc
  rw [value?]
  · rintro t ht
    exact hbracket (List.cons.inj ht).1
  · rintro t ht
    exact hbrace (List.cons.inj ht).1
  · rintro t ht
    exact hd (List.cons.inj ht).1
  · rintro t ht
    exact hq (List.cons.inj ht).1

theorem isValueText_boolean (b : Bool) : IsValueText (if b then "true".toList else "false".toList) (.boolean b) := by
  cases b with
  | true => exact ⟨fun _ => rfl, fun fuel room s => value?_scalar (by decide) (fuel + 2) (room + 1) _⟩
  | false => exact ⟨fun _ => rfl, fun fuel room s => value?_scalar (by decide) (fuel + 2) (room + 1) _⟩

theorem isValueText_noItems : IsValueText ['[', ']'] (.array false []) := by
  refine ⟨fun _ => rfl, fun fuel room s => ?_⟩
  show value? (fuel + 3) (room + 1) ('[' :: ']' :: '\n' :: s) = _
  rw [value?, items?]
  rfl

/-! ## Statements -/

theorem statement?_assignment {k w : Text} {v : Value} (hk : IsPlainKey k) (hw : IsValueText w v) (s : Text) :
    statement? (k ++ " = ".toList ++ w ++ '\n' :: s) = some (.assignment ([], k) v, '\n' :: s) := by
  have htext : k ++ " = ".toList ++ w ++ '\n' :: s = k ++ (' ' :: '=' :: ' ' :: (w ++ '\n' :: s)) := by
    simp only [List.append_assoc]
    rfl
  have hkey : key? depth.pred (k ++ (' ' :: '=' :: ' ' :: (w ++ '\n' :: s))) =
      some (([], k), '=' :: ' ' :: (w ++ '\n' :: s)) := by
    refine key?_append hk ?_ ?_ _
    · intro c hc
      cases hc
      decide
    · show ('=' :: ' ' :: (w ++ '\n' :: s)).head? ≠ some '.'
      simp
  have hmargin : dropMargin (' ' :: (w ++ '\n' :: s)) = w ++ '\n' :: s := hw.no_margin _
  have hassignment : assignment? (k ++ (' ' :: '=' :: ' ' :: (w ++ '\n' :: s))) =
      some (.assignment ([], k) v, '\n' :: s) := by
    rw [assignment?, hkey]
    simp only [Option.bind_eq_bind, Option.bind_some, hmargin]
    -- The reader has three units of fuel for each character and three more; these suffice for a text of a value.
    have hread := hw.read (3 * (w ++ '\n' :: s).length) 78 s
    rw [show depth = 78 + 1 from rfl, hread]
    rfl
  rw [htext, ← hassignment]
  obtain ⟨c, k', rfl⟩ := List.exists_cons_of_ne_nil hk.ne_nil
  rw [List.cons_append, statement?]
  rintro t ht
  exact ne_of_isKeyChar (hk.chars c List.mem_cons_self) (by decide) (List.cons.inj ht).1

theorem statement?_itemHeader {k : Text} (hk : IsPlainKey k) (s : Text) :
    statement? ("[[".toList ++ k ++ "]]".toList ++ '\n' :: s) = some (.header true ([], k), '\n' :: s) := by
  have htext : "[[".toList ++ k ++ "]]".toList ++ '\n' :: s = '[' :: '[' :: (k ++ (']' :: ']' :: '\n' :: s)) := by
    simp only [List.append_assoc]
    rfl
  have hkey : key? depth.pred (k ++ (']' :: ']' :: '\n' :: s)) = some (([], k), ']' :: ']' :: '\n' :: s) := by
    refine key?_append hk ?_ ?_ _
    · intro c hc
      cases hc
      decide
    · show (']' :: ']' :: '\n' :: s).head? ≠ some '.'
      simp
  rw [htext]
  show header? ('[' :: (k ++ (']' :: ']' :: '\n' :: s))) = _
  rw [header?, hkey]
  rfl

/-! ## Lines -/

/-- **A text of whole lines gives these statements**, whatever lines are behind it. -/
def Reads (t : Text) (sts : List Statement) : Prop :=
  ∃ n ≤ t.length, ∀ (fuel : Nat) (s : Text), lines? (fuel + n) (t ++ s) = (lines? fuel s).map (sts ++ ·)

theorem reads_nil : Reads [] [] := ⟨0, Nat.le_refl 0, fun fuel s => by simp⟩

/-- **Lines are read one after the other.** -/
theorem Reads.append {t u : Text} {sts sts' : List Statement} (ht : Reads t sts) (hu : Reads u sts') :
    Reads (t ++ u) (sts ++ sts') := by
  obtain ⟨n, hn, hreadt⟩ := ht
  obtain ⟨m, hm, hreadu⟩ := hu
  refine ⟨m + n, by rw [List.length_append]; omega, fun fuel s => ?_⟩
  rw [← Nat.add_assoc, List.append_assoc, hreadt, hreadu, Option.map_map]
  congr 1
  funext rest
  exact (List.append_assoc sts sts' rest).symm

/-- A blank line gives no statement. -/
theorem reads_blank : Reads ['\n'] [] := by
  refine ⟨1, Nat.le_refl 1, fun fuel s => ?_⟩
  have hnext : nextLine? ('\n' :: s) = some s := rfl
  show lines? (fuel + 1) ('\n' :: s) = _
  rw [lines?, dropMargin_cons (by decide)]
  simp only [or_true, true_or, if_true, hnext, Option.bind_some]
  simp

/-- A line that is a statement gives this statement. -/
theorem reads_statement {c : Char} {l : Text} {st : Statement}
    (hc : Quoted.isMargin c = false ∧ c ≠ '#' ∧ c ≠ '\n' ∧ c ≠ '\r')
    (h : ∀ s, statement? (c :: l ++ '\n' :: s) = some (st, '\n' :: s)) : Reads (c :: l ++ ['\n']) [st] := by
  obtain ⟨hmargin, hcomment, hn, hr⟩ := hc
  refine ⟨1, by simp, fun fuel s => ?_⟩
  have htext : c :: l ++ ['\n'] ++ s = c :: (l ++ '\n' :: s) := by simp
  have hnext : nextLine? ('\n' :: s) = some s := rfl
  have hstatement := h s
  rw [List.cons_append] at hstatement
  rw [htext, lines?, dropMargin_cons hmargin]
  simp only [hcomment, hn, hr, or_self, if_false, hstatement, Option.bind_eq_bind, Option.bind_some, hnext]
  cases lines? fuel s <;> rfl

/-- **A line with an assignment to a plain key.** -/
theorem reads_assignment {k w : Text} {v : Value} (hk : IsPlainKey k) (hw : IsValueText w v) :
    Reads (k ++ " = ".toList ++ w ++ ['\n']) [.assignment ([], k) v] := by
  have hstatement := statement?_assignment hk hw
  obtain ⟨c, k, rfl⟩ := List.exists_cons_of_ne_nil hk.ne_nil
  have hc := hk.chars c List.mem_cons_self
  exact reads_statement ⟨not_isMargin_of_isKeyChar hc, ne_of_isKeyChar hc (by decide), ne_of_isKeyChar hc (by decide),
    ne_of_isKeyChar hc (by decide)⟩ hstatement

/-- **A line with the header of an item of a plain key.** -/
theorem reads_itemHeader {k : Text} (hk : IsPlainKey k) :
    Reads ("[[".toList ++ k ++ "]]".toList ++ ['\n']) [.header true ([], k)] :=
  reads_statement (by decide) (statement?_itemHeader hk)

/-- **A document of such lines has their statements**, unless it starts with a mark of byte order. -/
theorem Reads.statements?_eq {t : Text} {sts : List Statement} (h : Reads t sts) (hmark : t.head? ≠ some '\ufeff') :
    statements? t = some sts := by
  obtain ⟨n, hn, hread⟩ := h
  have hdrop : dropOrderMark t = t := by
    rw [dropOrderMark]
    rintro s rfl
    exact hmark rfl
  obtain ⟨fuel, hfuel⟩ : ∃ fuel, t.length + 1 = (fuel + 1) + n := ⟨t.length - n, by omega⟩
  have hall := hread (fuel + 1) []
  have hend : lines? (fuel + 1) [] = some [] := rfl
  rw [List.append_nil] at hall
  rw [statements?, hdrop, hfuel, hall, hend]
  simp

end Document
end Toml
end WebScope
