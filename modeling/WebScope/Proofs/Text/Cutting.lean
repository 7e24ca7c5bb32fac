import Mathlib.Data.List.TakeWhile
import WebScope.Text.Basic

/-!
# Where texts are cut

The ways to take a text apart, each described by what the parts make up together: a fixed beginning or end
(`after?_eq_some_iff`, `before?_eq_some_iff`), the first separator and the last one (`cut?_eq_some_iff`,
`cut?_eq_none_iff`, `cutLast?_eq_some_iff`, `cutLast?_eq_none_iff`), the first mark (`cutMark?_eq_some_iff`,
`cutMark?_eq_none_iff`) with a text behind it (`cutMark?_append_of_some`, `cutMark?_append_cons_of_none`), all separators
(`fields_eq_splitOnP`, `fields_append_cons`), and the first character of a class (`takeWhile_append_cons`,
`takeWhile_dropWhile_append`, `exists_span`), which a text behind does not move (`takeWhile_append_of_head`,
`dropWhile_append_of_head`). Margins are trimmed however long they are (`trim_append`), and no mark with them
(`infix_trimEnd_iff`); only texts without margins are left alone (`trim_eq_self_iff`).
-/

namespace WebScope
namespace Text

/-! ## Fixed beginnings and ends -/

theorem after?_eq_some_iff {p s r : Text} : after? p s = some r ↔ s = p ++ r :=
  ⟨eq_of_after?, fun h => h ▸ after?_append p r⟩

theorem before?_eq_some_iff {p s r : Text} : before? p s = some r ↔ s = r ++ p := by
  simp only [before?, Option.map_eq_some_iff, after?_eq_some_iff]
  constructor
  · rintro ⟨t, ht, rfl⟩
    rw [← List.reverse_reverse s, ht, List.reverse_append, List.reverse_reverse]
  · rintro rfl
    exact ⟨r.reverse, List.reverse_append, List.reverse_reverse r⟩

/-! ## One separator -/

theorem cut?_append {c : Char} : ∀ {a : Text} (b : Text), c ∉ a → cut? c (a ++ c :: b) = some (a, b)
  | [], b, _ => by
    rw [List.nil_append, cut?, if_pos rfl]
  | x :: a, b, h => by
    obtain ⟨hx, ha⟩ := List.ne_and_not_mem_of_not_mem_cons h
    rw [List.cons_append, cut?, if_neg (Ne.symm hx), cut?_append b ha]
    rfl

/-- The first separator is the one before which there is none. -/
theorem cut?_eq_some_iff {c : Char} {s a b : Text} : cut? c s = some (a, b) ↔ s = a ++ c :: b ∧ c ∉ a := by
  constructor
  · intro h
    have hc : c ∈ s := by
      rw [eq_of_cut? h]
      exact List.mem_append_right a List.mem_cons_self
    obtain ⟨a', b', rfl, ha'⟩ := List.eq_append_cons_of_mem hc
    rw [cut?_append b' ha'] at h
    cases h
    exact ⟨rfl, ha'⟩
  · rintro ⟨rfl, ha⟩
    exact cut?_append b ha

/-- A text is cut unless it has no separator. -/
theorem cut?_eq_none_iff {c : Char} {s : Text} : cut? c s = none ↔ c ∉ s := by
  constructor
  · intro h hc
    obtain ⟨a, b, rfl, ha⟩ := List.eq_append_cons_of_mem hc
    rw [cut?_append b ha] at h
    cases h
  · intro hc
    rw [Option.eq_none_iff_forall_ne_some]
    rintro ⟨a, b⟩ h
    exact hc (by rw [eq_of_cut? h]; exact List.mem_append_right a List.mem_cons_self)

/-- A text is cut in one way only at the first `c`. -/
theorem append_cons_inj {c : Char} {a a' b b' : Text} (ha : c ∉ a) (ha' : c ∉ a')
    (h : a ++ c :: b = a' ++ c :: b') : a = a' ∧ b = b' := by
  have hcut := cut?_append b ha
  rw [h, cut?_append b' ha'] at hcut
  cases hcut
  exact ⟨rfl, rfl⟩

/-- A text without the separator is not cut. -/
theorem cutLast?_eq_none_iff {c : Char} : ∀ {s : Text}, cutLast? c s = none ↔ c ∉ s
  | [] => by simp [cutLast?]
  | x :: s => by
    have ih := cutLast?_eq_none_iff (c := c) (s := s)
    rw [cutLast?, List.mem_cons, not_or, ← ih]
    cases h : cutLast? c s with
    | some ab => simp
    | none =>
      by_cases hx : x = c
      · simp [hx]
      · simp [hx, Ne.symm hx]

theorem cutLast?_append {c : Char} {b : Text} (hb : c ∉ b) : ∀ a : Text, cutLast? c (a ++ c :: b) = some (a, b)
  | [] => by
    rw [List.nil_append, cutLast?, cutLast?_eq_none_iff.mpr hb]
    exact if_pos rfl
  | x :: a => by
    rw [List.cons_append, cutLast?, cutLast?_append hb a]

/-- The last separator is the one behind which there is none. -/
theorem cutLast?_eq_some_iff {c : Char} {s a b : Text} : cutLast? c s = some (a, b) ↔ s = a ++ c :: b ∧ c ∉ b := by
  constructor
  · intro h
    have hc : c ∈ s.reverse := by
      rw [eq_of_cutLast? h]
      simp
    -- The last separator is the first one from behind.
    obtain ⟨p, q, hs, hp⟩ := List.eq_append_cons_of_mem hc
    obtain rfl : s = q.reverse ++ c :: p.reverse := by
      rw [← List.reverse_reverse s, hs]
      simp
    have hp' : c ∉ p.reverse := by simpa using hp
    rw [cutLast?_append hp'] at h
    cases h
    exact ⟨rfl, hp'⟩
  · rintro ⟨rfl, hb⟩
    exact cutLast?_append hb a

/-! ## The first mark -/

/-- A mark whose first character does not occur before it is the first mark. -/
theorem cutMark?_append {c : Char} (m : Text) : ∀ {a : Text} (b : Text), c ∉ a →
    cutMark? (c :: m) (a ++ (c :: m) ++ b) = some (a, b)
  | [], b, _ => by
    show cutMark? (c :: m) (c :: (m ++ b)) = some ([], b)
    have h := after?_append (c :: m) b
    rw [List.cons_append] at h
    rw [cutMark?, h]
  | x :: a, b, h => by
    obtain ⟨hx, ha⟩ := List.ne_and_not_mem_of_not_mem_cons h
    rw [List.cons_append, List.cons_append, cutMark?, after?, if_neg hx]
    show (cutMark? (c :: m) (a ++ (c :: m) ++ b)).map _ = _
    rw [cutMark?_append m b ha]
    rfl

/-- A text behind completes a mark only if it goes on where the mark does. -/
theorem exists_of_after?_append {m s t r : Text} (hs : after? m s = none) (h : after? m (s ++ t) = some r) :
    ∃ c m', m = s ++ c :: m' ∧ t.head? = some c := by
  rcases List.append_eq_append_iff.mp (after?_eq_some_iff.mp h) with ⟨w, hm, ht⟩ | ⟨w, hs', -⟩
  · cases w with
    | nil =>
      rw [hm, List.append_nil, after?_eq_some_iff.mpr (List.append_nil s).symm] at hs
      cases hs
    | cons c m' => exact ⟨c, m', hm, by rw [ht]; rfl⟩
  · rw [hs', after?_append] at hs
    cases hs

/-- A text behind leaves the first mark as it is. -/
theorem cutMark?_append_of_some {m : Text} : ∀ {s a b : Text}, cutMark? m s = some (a, b) → ∀ t : Text,
    cutMark? m (s ++ t) = some (a, b ++ t)
  | [], a, b, h, t => by
    simp only [cutMark?, Option.map_eq_some_iff, Prod.mk.injEq] at h
    obtain ⟨r, hr, rfl, rfl⟩ := h
    obtain ⟨rfl, rfl⟩ := List.append_eq_nil_iff.mp (eq_of_after? hr).symm
    cases t <;> rfl
  | x :: s, a, b, h, t => by
    rw [cutMark?] at h
    split at h
    · rename_i r hr
      cases h
      rw [List.cons_append, cutMark?, ← List.cons_append, eq_of_after? hr, List.append_assoc, after?_append]
    · rename_i hnone
      simp only [Option.map_eq_some_iff, Prod.exists, Prod.mk.injEq] at h
      obtain ⟨a', b', h', rfl, rfl⟩ := h
      have hno : after? m (x :: (s ++ t)) = none := by
        rw [Option.eq_none_iff_forall_ne_some]
        intro r hr
        -- The mark stands in `s`, so it is too short to reach behind it from `x`.
        obtain ⟨c, m', hm, -⟩ := exists_of_after?_append hnone hr
        have hlen := congrArg List.length (eq_of_cutMark? h')
        have hlen' := congrArg List.length hm
        simp only [List.length_append, List.length_cons] at hlen hlen'
        omega
      rw [List.cons_append, cutMark?, hno, cutMark?_append_of_some h' t]
      rfl

/-- Without a mark before it, a character that is not of the mark stays before the first mark. -/
theorem cutMark?_append_cons_of_none {m : Text} {c : Char} (hc : c ∉ m) (t : Text) : ∀ {s : Text},
    cutMark? m s = none → cutMark? m (s ++ c :: t) = (cutMark? m t).map fun (a, b) => (s ++ c :: a, b)
  | [], h => by
    have hm : after? m [] = none := by simpa [cutMark?] using h
    have hno : after? m (c :: t) = none := by
      rw [Option.eq_none_iff_forall_ne_some]
      intro r hr
      obtain ⟨d, m', rfl, hd⟩ := exists_of_after?_append (t := c :: t) hm hr
      cases hd
      exact hc (by simp)
    rw [List.nil_append, cutMark?, hno]
    rfl
  | x :: s, h => by
    rw [cutMark?] at h
    split at h
    · cases h
    · rename_i hnone
      have hno : after? m (x :: (s ++ c :: t)) = none := by
        rw [Option.eq_none_iff_forall_ne_some]
        intro r hr
        obtain ⟨d, m', rfl, hd⟩ := exists_of_after?_append hnone hr
        cases hd
        exact hc (by simp)
      rw [List.cons_append, cutMark?, hno]
      simp only
      rw [cutMark?_append_cons_of_none hc t (by simpa using h), Option.map_map]
      rfl

/-- A text is cut unless the mark stands nowhere in it. -/
theorem cutMark?_eq_none_iff {m : Text} : ∀ {s : Text}, cutMark? m s = none ↔ ¬m <:+: s
  | [] => by
    rw [cutMark?, Option.map_eq_none_iff, Option.eq_none_iff_forall_ne_some, List.infix_nil]
    constructor
    · rintro h rfl
      exact h [] rfl
    · intro h r hr
      exact h (List.append_eq_nil_iff.mp (eq_of_after? hr).symm).1
  | x :: s => by
    have ih := cutMark?_eq_none_iff (m := m) (s := s)
    have hprefix : m <+: x :: s ↔ ∃ r, after? m (x :: s) = some r :=
      exists_congr fun r => by rw [after?_eq_some_iff, eq_comm]
    rw [cutMark?, List.infix_cons_iff, hprefix, not_or, ← ih]
    cases h : after? m (x :: s) with
    | none => simp
    | some r => simp

/-- **The first mark is the one with no mark before it.** -/
theorem cutMark?_eq_some_iff {m : Text} : ∀ {s a b : Text}, cutMark? m s = some (a, b) ↔
    s = a ++ m ++ b ∧ ∀ a' b', s = a' ++ m ++ b' → a.length ≤ a'.length
  | [], a, b => by
    constructor
    · intro h
      have hs := eq_of_cutMark? h
      refine ⟨hs, fun a' b' _ => ?_⟩
      simp [List.append_eq_nil_iff.mp (List.append_eq_nil_iff.mp hs.symm).1]
    · rintro ⟨hs, -⟩
      obtain ⟨rfl, rfl, rfl⟩ : a = [] ∧ m = [] ∧ b = [] := by simpa using hs.symm
      rfl
  | x :: s, a, b => by
    rw [cutMark?]
    cases hm : after? m (x :: s) with
    | some r =>
      have hs := eq_of_after? hm
      simp only [Option.some.injEq, Prod.mk.injEq]
      constructor
      · rintro ⟨rfl, rfl⟩
        exact ⟨hs, fun _ _ _ => Nat.zero_le _⟩
      · rintro ⟨he, hfirst⟩
        obtain rfl := List.length_eq_zero_iff.mp (Nat.le_zero.mp (hfirst [] r hs))
        exact ⟨rfl, List.append_cancel_left (hs.symm.trans he)⟩
    | none =>
      -- The text does not begin with the mark, so every mark in it is one of the text behind `x`.
      have hbehind : ∀ {c d : Text}, x :: s = c ++ m ++ d → ∃ c', c = x :: c' ∧ s = c' ++ m ++ d := by
        intro c d he
        cases c with
        | nil => rw [List.nil_append] at he; rw [he, after?_append] at hm; cases hm
        | cons y c' =>
          simp only [List.cons_append, List.cons.injEq] at he
          exact ⟨c', by rw [he.1], he.2⟩
      simp only [Option.map_eq_some_iff, Prod.exists, Prod.mk.injEq]
      constructor
      · rintro ⟨a', b', h, rfl, rfl⟩
        obtain ⟨hs, hfirst⟩ := cutMark?_eq_some_iff.mp h
        refine ⟨by rw [hs]; rfl, fun c d he => ?_⟩
        obtain ⟨c', rfl, hs'⟩ := hbehind he
        exact Nat.succ_le_succ (hfirst c' d hs')
      · rintro ⟨he, hfirst⟩
        obtain ⟨a', rfl, hs⟩ := hbehind he
        refine ⟨a', b, cutMark?_eq_some_iff.mpr ⟨hs, fun c d hs' => ?_⟩, rfl, rfl⟩
        exact Nat.le_of_succ_le_succ (hfirst (x :: c) d (by rw [hs']; rfl))

/-! ## All separators -/

/-- The parts between all separators are those of the library's splitting. -/
theorem fields_eq_splitOnP (p : Char → Bool) : ∀ s : Text, fields p s = s.splitOnP p
  | [] => by rw [List.splitOnP_nil]; rfl
  | c :: s => by
    have ih := fields_eq_splitOnP p s
    rw [fields, List.splitOnP_cons_eq_if_modifyHead, ← ih]
    split
    · rfl
    · cases h : fields p s with
      | nil => exact absurd h (fields_ne_nil p s)
      | cons f fs => rfl

/-- The parts of a text with a separator in it are those before the separator and those behind it. -/
theorem fields_append_cons {p : Char → Bool} {c : Char} (hc : p c = true) (s t : Text) :
    fields p (s ++ c :: t) = fields p s ++ fields p t := by
  simp only [fields_eq_splitOnP]
  exact List.splitOnP_append_cons s t hc

/-- A text without separators is its only part. -/
theorem fields_of_not_mem {p : Char → Bool} {s : Text} (h : ∀ c ∈ s, p c = false) : fields p s = [s] := by
  rw [fields_eq_splitOnP]
  exact List.splitOnP_eq_singleton h

/-- No part has a separator in it. -/
theorem not_of_mem_fields {p : Char → Bool} : ∀ {s w : Text}, w ∈ fields p s → ∀ c ∈ w, p c = false
  | [], w, hw => by
    rw [List.mem_singleton.mp hw]
    simp
  | x :: s, w, hw => by
    rw [fields] at hw
    split at hw
    · rcases List.mem_cons.mp hw with rfl | hw
      · simp
      · exact not_of_mem_fields hw
    · rename_i hx
      split at hw
      · rename_i hnil
        exact absurd hnil (fields_ne_nil p s)
      · rename_i f fs hf
        rcases List.mem_cons.mp hw with rfl | hw
        · exact List.forall_mem_cons.mpr ⟨by simpa using hx, not_of_mem_fields (hf ▸ List.mem_cons_self)⟩
        · exact not_of_mem_fields (hf ▸ List.mem_cons_of_mem _ hw)

/-! ## The first character of a class -/

section FirstOfClass

variable {p : Char → Bool} {a : Text} {c : Char}

theorem takeWhile_append_cons (ha : ∀ x ∈ a, p x = true) (hc : p c = false) (b : Text) :
    (a ++ c :: b).takeWhile p = a := by
  rw [List.takeWhile_append_of_pos ha, List.takeWhile_cons_of_neg (by simp [hc]), List.append_nil]

theorem dropWhile_append_cons (ha : ∀ x ∈ a, p x = true) (hc : p c = false) (b : Text) :
    (a ++ c :: b).dropWhile p = c :: b := by
  rw [List.dropWhile_append_of_pos ha, List.dropWhile_cons_of_neg (by simp [hc])]

variable {t : Text} {q : Char → Bool}

/-- A text behind that starts outside of the class leaves the beginning in the class as it is. -/
theorem takeWhile_append_of_head (ht : ∀ c, t.head? = some c → p c = false) (s : Text) :
    (s ++ t).takeWhile p = s.takeWhile p := by
  have htake : t.takeWhile p = [] := by
    cases t with
    | nil => rfl
    | cons c t => exact List.takeWhile_cons_of_neg (by simp [ht c rfl])
  rw [List.takeWhile_append, htake, List.append_nil]
  split
  · rename_i h
    exact (List.takeWhile_prefix p).eq_of_length h |>.symm
  · rfl

/-- A text behind that starts outside of the class is kept whole. -/
theorem dropWhile_append_of_head (ht : ∀ c, t.head? = some c → p c = false) (s : Text) :
    (s ++ t).dropWhile p = s.dropWhile p ++ t := by
  rw [List.dropWhile_append]
  split
  · rename_i h
    rw [dropWhile_eq_self ht, List.isEmpty_iff.mp h, List.nil_append]
  · rfl

/-- **A text is cut in one way only where a class ends.** -/
theorem takeWhile_dropWhile_append (ha : ∀ x ∈ a, p x = true) (ht : ∀ c, t.head? = some c → p c = false) :
    (a ++ t).takeWhile p = a ∧ (a ++ t).dropWhile p = t := by
  rw [takeWhile_append_of_head ht, List.takeWhile_eq_self_iff.mpr ha, List.dropWhile_append_of_pos ha,
    dropWhile_eq_self ht]
  exact ⟨rfl, rfl⟩

/-- Every text is cut where a class ends. -/
theorem exists_span (p : Char → Bool) (s : Text) :
    ∃ a t, s = a ++ t ∧ (∀ x ∈ a, p x = true) ∧ ∀ c, t.head? = some c → p c = false :=
  ⟨s.takeWhile p, s.dropWhile p, List.takeWhile_append_dropWhile.symm, fun _ hx => List.mem_takeWhile_imp hx,
    fun _ hc => head?_dropWhile hc⟩

/-- The beginning in a class depends on the characters of the text only. -/
theorem takeWhile_congr : ∀ {s : Text}, (∀ x ∈ s, p x = q x) → s.takeWhile p = s.takeWhile q
  | [], _ => rfl
  | x :: s, h => by
    rw [List.takeWhile_cons, List.takeWhile_cons, h x List.mem_cons_self,
      takeWhile_congr fun y hy => h y (List.mem_cons_of_mem _ hy)]

/-- What follows the beginning in a class depends on the characters of the text only. -/
theorem dropWhile_congr : ∀ {s : Text}, (∀ x ∈ s, p x = q x) → s.dropWhile p = s.dropWhile q
  | [], _ => rfl
  | x :: s, h => by
    rw [List.dropWhile_cons, List.dropWhile_cons, h x List.mem_cons_self,
      dropWhile_congr fun y hy => h y (List.mem_cons_of_mem _ hy)]

end FirstOfClass

/-! ## Margins -/

/-- **A text without margins**: neither its first nor its last character is of the class. -/
structure IsTrimmed (p : Char → Bool) (s : Text) : Prop where
  head : ∀ c, s.head? = some c → p c = false
  last : ∀ c, s.getLast? = some c → p c = false

theorem isTrimmed_trim (p : Char → Bool) (s : Text) : IsTrimmed p (trim p s) where
  head _ h := head?_trim h
  last _ h := getLast?_trimEnd h

/-- **The texts without margins are those that are left alone.** -/
theorem trim_eq_self_iff {p : Char → Bool} {s : Text} : trim p s = s ↔ IsTrimmed p s := by
  constructor
  · intro h
    rw [← h]
    exact isTrimmed_trim p s
  · rintro ⟨hhead, hlast⟩
    exact trim_eq_self hhead hlast

instance (p : Char → Bool) (s : Text) : Decidable (IsTrimmed p s) := decidable_of_iff _ trim_eq_self_iff

theorem mem_of_mem_trim {p : Char → Bool} {s : Text} {c : Char} (h : c ∈ trim p s) : c ∈ s := by
  obtain ⟨r, hr⟩ := eq_trimEnd_append p (s.dropWhile p)
  have hdrop : c ∈ s.dropWhile p := by
    rw [hr]
    exact List.mem_append_left r h
  exact (List.dropWhile_sublist p).subset hdrop

/-- What is trimmed at the front can be taken away before. -/
theorem trim_cons {p : Char → Bool} {c : Char} (hc : p c = true) (s : Text) : trim p (c :: s) = trim p s := by
  rw [trim, List.dropWhile_cons_of_pos hc, trim]

theorem trimEnd_append {p : Char → Bool} {r : Text} (hr : ∀ c ∈ r, p c = true) (s : Text) :
    trimEnd p (s ++ r) = trimEnd p s := by
  rw [trimEnd, List.reverse_append, List.dropWhile_append_of_pos fun c hc => hr c (List.mem_reverse.mp hc), trimEnd]

/-- **Margins are trimmed, however long they are.** -/
theorem trim_append {p : Char → Bool} {l r : Text} (hl : ∀ c ∈ l, p c = true) (hr : ∀ c ∈ r, p c = true) (s : Text) :
    trim p (l ++ s ++ r) = trim p s := by
  rw [trim, List.append_assoc, List.dropWhile_append_of_pos hl, List.dropWhile_append, trim]
  split
  · rename_i h
    have hr' : r.dropWhile p = [] := List.dropWhile_eq_nil_iff.mpr hr
    rw [hr', List.isEmpty_iff.mp h]
  · exact trimEnd_append hr _

/-- What follows a character that is no margin is trimmed at its end only. -/
theorem trim_append_cons {p : Char → Bool} {s : Text} {c : Char} (hs : ∀ x, s.head? = some x → p x = false)
    (hc : p c = false) (t : Text) : trim p (s ++ c :: t) = s ++ c :: trimEnd p t := by
  have hhead : ∀ x, (s ++ c :: t).head? = some x → p x = false := by
    intro x hx
    cases s with
    | nil => cases hx; exact hc
    | cons y s => exact hs x hx
  rw [trim, dropWhile_eq_self hhead, trimEnd, trimEnd, List.reverse_append, List.reverse_cons, List.append_assoc,
    List.singleton_append]
  have hdrop : (t.reverse ++ c :: s.reverse).dropWhile p = t.reverse.dropWhile p ++ c :: s.reverse :=
    dropWhile_append_of_head (fun x hx => by cases hx; exact hc) t.reverse
  rw [hdrop]
  simp

/-- What is trimmed off the end is of the class. -/
theorem exists_trimEnd_append (p : Char → Bool) (s : Text) : ∃ r, s = trimEnd p s ++ r ∧ ∀ c ∈ r, p c = true := by
  refine ⟨(s.reverse.takeWhile p).reverse, ?_, fun c hc => List.mem_takeWhile_imp (List.mem_reverse.mp hc)⟩
  rw [trimEnd, ← List.reverse_append, List.takeWhile_append_dropWhile, List.reverse_reverse]

/-- A mark without margins is not trimmed off. -/
theorem infix_trimEnd_iff {p : Char → Bool} {m : Text} (hne : m ≠ []) (hm : ∀ c ∈ m, p c = false) (s : Text) :
    m <:+: trimEnd p s ↔ m <:+: s := by
  obtain ⟨r, hs, hr⟩ := exists_trimEnd_append p s
  constructor
  · intro h
    rw [hs]
    exact h.trans (List.prefix_append _ r).isInfix
  · intro h
    by_contra hno
    have hcut := cutMark?_eq_none_iff.mpr hno
    have hnot : ¬m <:+: r := by
      intro hmr
      obtain ⟨d, m', rfl⟩ := List.exists_cons_of_ne_nil hne
      have hd := hm d List.mem_cons_self
      rw [hr d (hmr.subset List.mem_cons_self)] at hd
      cases hd
    cases r with
    | nil => exact hno (by rw [hs, List.append_nil] at h; exact h)
    | cons c r =>
      have hc : c ∉ m := fun hc => absurd ((hr c List.mem_cons_self).symm.trans (hm c hc)) nofun
      have hrest : cutMark? m r = none :=
        cutMark?_eq_none_iff.mpr fun h => hnot (h.trans (List.suffix_cons c r).isInfix)
      have hfull := cutMark?_append_cons_of_none hc r hcut
      rw [← hs, hrest] at hfull
      exact cutMark?_eq_none_iff.mp hfull h

end Text
end WebScope
