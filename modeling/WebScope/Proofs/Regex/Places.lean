import WebScope.Regex

/-!
# Sets of places decide matching

`Regex.isMatch` carries the set of all places of a text that the pieces read so far can have reached. Here such a set
is read as the set of the texts that are left at its places (`Places.Leaves`), and each piece moves it as `Regex.Takes`
says:

- a character of a class is taken from what is left (`leaves_step`), a run without line feeds likewise
  (`leaves_spread`);
- so the pieces can take all of the text from one of the places if and only if they take one of the texts left there
  (`takesFrom_iff`), and **`isMatch` decides `Takes`** (`isMatch_iff`).
-/

namespace WebScope
namespace Regex

/-- No character of a text is a line feed. -/
def NoLineFeed (s : Text) : Prop := ∀ c ∈ s, c ≠ '\n'

theorem noLineFeed_nil : NoLineFeed [] := fun _ h => absurd h List.not_mem_nil

theorem noLineFeed_cons {c : Char} {s : Text} : NoLineFeed (c :: s) ↔ c ≠ '\n' ∧ NoLineFeed s := by
  simp [NoLineFeed]

namespace Places

/-- **The text `t` is left at one of the places** of the text `s`. -/
def Leaves (bs : Places) (s t : Text) : Prop := ∃ front, s = front ++ t ∧ bs.getD front.length false = true

theorem getD_zero (bs : Places) : bs.getD 0 false = bs.headD false := by cases bs <;> rfl

theorem getD_succ (bs : Places) (n : Nat) : bs.getD (n + 1) false = bs.tail.getD n false := by cases bs <;> simp

/-- At the end of a text nothing is left. -/
theorem leaves_nil {bs : Places} {t : Text} : Leaves bs [] t ↔ bs.headD false = true ∧ t = [] := by
  constructor
  · rintro ⟨front, hs, hb⟩
    obtain ⟨rfl, rfl⟩ := List.append_eq_nil_iff.mp hs.symm
    exact ⟨bs.getD_zero ▸ hb, rfl⟩
  · rintro ⟨hb, rfl⟩
    exact ⟨[], rfl, bs.getD_zero ▸ hb⟩

/-- Either all of a text is left, or the place is behind its first character. -/
theorem leaves_cons {bs : Places} {c : Char} {s t : Text} :
    Leaves bs (c :: s) t ↔ (bs.headD false = true ∧ t = c :: s) ∨ Leaves bs.tail s t := by
  constructor
  · rintro ⟨front, hs, hb⟩
    cases front with
    | nil => exact Or.inl ⟨bs.getD_zero ▸ hb, hs.symm⟩
    | cons d front =>
      simp only [List.cons_append, List.cons.injEq] at hs
      exact Or.inr ⟨front, hs.2, bs.getD_succ front.length ▸ hb⟩
  · rintro (⟨hb, rfl⟩ | ⟨front, rfl, hb⟩)
    · exact ⟨[], rfl, bs.getD_zero ▸ hb⟩
    · exact ⟨c :: front, rfl, bs.getD_succ front.length ▸ hb⟩

/-- At no place nothing is left, not even the empty text. -/
theorem not_leaves_empty (s t : Text) : ¬Leaves [] s t := by
  rintro ⟨front, -, hb⟩
  simp at hb

/-- One character of the class is taken from what is left. -/
theorem leaves_step {p : Char → Bool} : ∀ {s t : Text} {bs : Places},
    Leaves (bs.step p s) s.tail t ↔ ∃ c, p c = true ∧ Leaves bs s (c :: t)
  | [], t, bs => by simp [step, leaves_nil]
  | c :: s, t, [] => by simp [step, not_leaves_empty]
  | [c], t, b :: bs => by
    simp only [step, List.tail_cons, leaves_nil, leaves_cons, List.headD_cons, Bool.and_eq_true]
    constructor
    · rintro ⟨⟨hb, hc⟩, rfl⟩
      exact ⟨c, hc, Or.inl ⟨hb, rfl⟩⟩
    · rintro ⟨x, hx, ⟨hb, he⟩ | ⟨-, he⟩⟩
      · cases he; exact ⟨⟨hb, hx⟩, rfl⟩
      · cases he
  | c :: d :: s, t, b :: bs => by
    have ih : Leaves (step p (d :: s) bs) s t ↔ ∃ x, p x = true ∧ Leaves bs (d :: s) (x :: t) := leaves_step
    rw [step, List.tail_cons, leaves_cons, List.tail_cons, ih]
    simp only [List.headD_cons, Bool.and_eq_true]
    constructor
    · rintro (⟨⟨hb, hc⟩, rfl⟩ | ⟨x, hx, hl⟩)
      · exact ⟨c, hc, leaves_cons.mpr (Or.inl ⟨hb, rfl⟩)⟩
      · exact ⟨x, hx, leaves_cons.mpr (Or.inr hl)⟩
    · rintro ⟨x, hx, hl⟩
      rcases leaves_cons.mp hl with ⟨hb, he⟩ | hl
      · cases he; exact Or.inl ⟨⟨hb, hx⟩, rfl⟩
      · exact Or.inr ⟨x, hx, hl⟩

/-- A run without line feeds is taken from what is left, or from the front if a run is under way there. -/
theorem leaves_spread : ∀ {s t : Text} {bs : Places} {reached : Bool},
    Leaves (bs.spread reached s) s t ↔
      (reached = true ∧ ∃ run, NoLineFeed run ∧ s = run ++ t) ∨ ∃ run, NoLineFeed run ∧ Leaves bs s (run ++ t)
  | [], t, bs, reached => by
    simp only [spread, leaves_nil, List.headD_cons, Bool.or_eq_true]
    constructor
    · rintro ⟨h | h, rfl⟩
      · exact Or.inl ⟨h, [], noLineFeed_nil, rfl⟩
      · exact Or.inr ⟨[], noLineFeed_nil, h, rfl⟩
    · rintro (⟨h, run, -, he⟩ | ⟨run, -, h, he⟩)
      · exact ⟨Or.inl h, (List.append_eq_nil_iff.mp he.symm).2⟩
      · exact ⟨Or.inr h, (List.append_eq_nil_iff.mp he).2⟩
  | c :: s, t, bs, reached => by
    rw [spread, leaves_cons, List.tail_cons, leaves_spread, List.headD_cons]
    simp only [Bool.or_eq_true, Bool.and_eq_true, bne_iff_ne, ne_eq]
    constructor
    · rintro (⟨h | h, rfl⟩ | ⟨⟨h | h, hc⟩, run, hr, rfl⟩ | ⟨run, hr, hl⟩)
      · exact Or.inl ⟨h, [], noLineFeed_nil, rfl⟩
      · exact Or.inr ⟨[], noLineFeed_nil, leaves_cons.mpr (Or.inl ⟨h, rfl⟩)⟩
      · exact Or.inl ⟨h, c :: run, noLineFeed_cons.mpr ⟨hc, hr⟩, rfl⟩
      · exact Or.inr ⟨c :: run, noLineFeed_cons.mpr ⟨hc, hr⟩, leaves_cons.mpr (Or.inl ⟨h, rfl⟩)⟩
      · exact Or.inr ⟨run, hr, leaves_cons.mpr (Or.inr hl)⟩
    · rintro (⟨h, run, hr, he⟩ | ⟨run, hr, hl⟩)
      · cases run with
        | nil => exact Or.inl ⟨Or.inl h, he.symm⟩
        | cons d run =>
          obtain ⟨hd, hr⟩ := noLineFeed_cons.mp hr
          simp only [List.cons_append, List.cons.injEq] at he
          exact Or.inr (Or.inl ⟨⟨Or.inl h, he.1 ▸ hd⟩, run, hr, he.2⟩)
      · rcases leaves_cons.mp hl with ⟨h, he⟩ | hl
        · cases run with
          | nil => exact Or.inl ⟨Or.inr h, he⟩
          | cons d run =>
            obtain ⟨hd, hr⟩ := noLineFeed_cons.mp hr
            simp only [List.cons_append, List.cons.injEq] at he
            exact Or.inr (Or.inl ⟨⟨Or.inr h, he.1 ▸ hd⟩, run, hr, he.2.symm⟩)
        · exact Or.inr (Or.inr ⟨run, hr, hl⟩)

/-- All of the text is taken at its end. -/
theorem leaves_end {bs : Places} {s : Text} : Leaves bs s [] ↔ bs.getD s.length false = true := by
  simp [Leaves]

/-- At the place in front everything is left. -/
theorem leaves_front {s t : Text} : Leaves [true] s t ↔ t = s := by
  cases s with
  | nil => simp [leaves_nil]
  | cons c s => simp [leaves_cons, not_leaves_empty]

end Places

/-! ## Pieces -/

theorem takes_nil_iff {s : Text} : Takes [] s ↔ s = [] :=
  ⟨fun h => by cases h; rfl, fun h => h ▸ .nil⟩

theorem takes_exactly_iff {c : Char} {ps : List Piece} {s : Text} :
    Takes (.exactly c :: ps) s ↔ ∃ t, s = c :: t ∧ Takes ps t :=
  ⟨fun h => by cases h with | exactly h => exact ⟨_, rfl, h⟩, fun ⟨_, he, h⟩ => he ▸ .exactly h⟩

theorem takes_any_iff {ps : List Piece} {s : Text} :
    Takes (.any :: ps) s ↔ ∃ c t, s = c :: t ∧ c ≠ '\n' ∧ Takes ps t :=
  ⟨fun h => by cases h with | any hc h => exact ⟨_, _, rfl, hc, h⟩, fun ⟨_, _, he, hc, h⟩ => he ▸ .any hc h⟩

theorem takes_anyRun_iff {ps : List Piece} {s : Text} :
    Takes (.anyRun :: ps) s ↔ ∃ run t, s = run ++ t ∧ NoLineFeed run ∧ Takes ps t :=
  ⟨fun h => by cases h with | anyRun hr h => exact ⟨_, _, rfl, hr, h⟩, fun ⟨_, _, he, hr, h⟩ => he ▸ .anyRun hr h⟩

/-- **The pieces take all of the text from one of the places** if and only if they take a text that is left there. -/
theorem takesFrom_iff : ∀ {ps : List Piece} {s : Text} {bs : Places},
    takesFrom ps s bs = true ↔ ∃ t, Places.Leaves bs s t ∧ Takes ps t
  | [], s, bs => by
    rw [takesFrom, ← Places.leaves_end]
    simp [takes_nil_iff]
  | .exactly c :: ps, s, bs => by
    rw [takesFrom, takesFrom_iff]
    simp only [Places.leaves_step, takes_exactly_iff, beq_iff_eq]
    constructor
    · rintro ⟨t, ⟨_, rfl, hl⟩, ht⟩
      exact ⟨_, hl, t, rfl, ht⟩
    · rintro ⟨_, hl, t, rfl, ht⟩
      exact ⟨t, ⟨c, rfl, hl⟩, ht⟩
  | .any :: ps, s, bs => by
    rw [takesFrom, takesFrom_iff]
    simp only [Places.leaves_step, takes_any_iff, bne_iff_ne]
    constructor
    · rintro ⟨t, ⟨c, hc, hl⟩, ht⟩
      exact ⟨_, hl, c, t, rfl, hc, ht⟩
    · rintro ⟨_, hl, c, t, rfl, hc, ht⟩
      exact ⟨t, ⟨c, hc, hl⟩, ht⟩
  | .anyRun :: ps, s, bs => by
    rw [takesFrom, takesFrom_iff]
    simp only [Places.leaves_spread, takes_anyRun_iff, Bool.false_eq_true, false_and, false_or]
    constructor
    · rintro ⟨t, ⟨run, hr, hl⟩, ht⟩
      exact ⟨_, hl, run, t, rfl, hr, ht⟩
    · rintro ⟨_, hl, run, t, rfl, hr, ht⟩
      exact ⟨t, ⟨run, hr, hl⟩, ht⟩

/-- **`isMatch` decides which texts the pieces take.** -/
theorem isMatch_iff (r : Regex) (s : Text) : r.isMatch s = true ↔ Takes r.pieces s := by
  rw [isMatch, takesFrom_iff]
  simp [Places.leaves_front]

end Regex
end WebScope
