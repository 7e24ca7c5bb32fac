/-!
# Text

A text is the list of its Unicode scalar values, and every reader of the library walks it from the left. This file
holds the ways to take a text apart that the readers share:

- `Text.after?` drops a fixed beginning; it undoes `++` (`after?_append`).
- `Text.cut?`, `Text.cutLast?` and `Text.cutMark?` cut at the first or the last place of a separator; the parts and
  the separator make up the text again (`eq_of_cut?`, `eq_of_cutLast?`, `eq_of_cutMark?`).
- `Text.fields` splits at every separator, and `Text.trim` drops a class of characters at both ends.
- `Text.number?` reads the digits of a number; `Text.hexDigit` writes one of them, and two of them are read back
  (`number?_hexDigits`).
-/

namespace WebScope

/-- **A text** is the list of its Unicode scalar values. -/
abbrev Text := List Char

namespace Text

/-! ## Fixed beginnings -/

/-- What follows `p` in a text that begins with `p`. -/
def after? : Text → Text → Option Text
  | [], s => some s
  | _ :: _, [] => none
  | p :: ps, c :: s => if p = c then after? ps s else none

/-- A text that begins with `p` is cut right behind it. -/
theorem after?_append : ∀ p s : Text, after? p (p ++ s) = some s
  | [], _ => rfl
  | p :: ps, s => by simp [after?, after?_append ps s]

/-- The only text with `r` behind `p` is `p ++ r`. -/
theorem eq_of_after? : ∀ {p s r : Text}, after? p s = some r → s = p ++ r
  | [], _, _, h => by simpa [after?] using h
  | p :: ps, [], _, h => by simp [after?] at h
  | p :: ps, c :: s, r, h => by
    by_cases hc : p = c
    · simp only [after?, hc, if_true] at h
      rw [eq_of_after? h, hc]; rfl
    · simp [after?, hc] at h

/-- Whether a text ends with `p`, as the text before it. -/
def before? (p s : Text) : Option Text := (after? p.reverse s.reverse).map List.reverse

/-! ## Cutting at one place -/

/-- The parts before and behind the first `c`. -/
def cut? (c : Char) : Text → Option (Text × Text)
  | [] => none
  | x :: s => if x = c then some ([], s) else (cut? c s).map fun (a, b) => (x :: a, b)

/-- The parts before and behind the last `c`. -/
def cutLast? (c : Char) : Text → Option (Text × Text)
  | [] => none
  | x :: s =>
    match cutLast? c s with
    | some (a, b) => some (x :: a, b)
    | none => if x = c then some ([], s) else none

/-- The parts before and behind the first place where the whole mark `m` stands. -/
def cutMark? (m : Text) : Text → Option (Text × Text)
  | [] => (after? m []).map fun r => ([], r)
  | x :: s =>
    match after? m (x :: s) with
    | some r => some ([], r)
    | none => (cutMark? m s).map fun (a, b) => (x :: a, b)

/-- The parts of `cut?` and the separator make up the text. -/
theorem eq_of_cut? {c : Char} : ∀ {s a b : Text}, cut? c s = some (a, b) → s = a ++ c :: b
  | [], _, _, h => by simp [cut?] at h
  | x :: s, a, b, h => by
    by_cases hx : x = c
    · simp only [cut?, hx, if_true, Option.some.injEq, Prod.mk.injEq] at h
      obtain ⟨rfl, rfl⟩ := h; rw [hx]; rfl
    · simp only [cut?, hx, if_false, Option.map_eq_some_iff, Prod.exists] at h
      obtain ⟨a', b', h', he⟩ := h
      simp only [Prod.mk.injEq] at he
      obtain ⟨rfl, rfl⟩ := he
      rw [eq_of_cut? h']; rfl

/-- The parts of `cutLast?` and the separator make up the text. -/
theorem eq_of_cutLast? {c : Char} : ∀ {s a b : Text}, cutLast? c s = some (a, b) → s = a ++ c :: b
  | [], _, _, h => by simp [cutLast?] at h
  | x :: s, a, b, h => by
    rw [cutLast?] at h
    split at h
    · rename_i a' b' h'
      simp only [Option.some.injEq, Prod.mk.injEq] at h
      obtain ⟨rfl, rfl⟩ := h
      rw [eq_of_cutLast? h']; rfl
    · split at h
      · rename_i hx
        simp only [Option.some.injEq, Prod.mk.injEq] at h
        obtain ⟨rfl, rfl⟩ := h
        rw [hx]; rfl
      · cases h

/-- The parts of `cutMark?` and the mark make up the text. -/
theorem eq_of_cutMark? {m : Text} : ∀ {s a b : Text}, cutMark? m s = some (a, b) → s = a ++ m ++ b
  | [], a, b, h => by
    simp only [cutMark?, Option.map_eq_some_iff, Prod.mk.injEq] at h
    obtain ⟨r, hr, rfl, rfl⟩ := h
    simpa using eq_of_after? hr
  | x :: s, a, b, h => by
    rw [cutMark?] at h
    split at h
    · rename_i r hr
      simp only [Option.some.injEq, Prod.mk.injEq] at h
      obtain ⟨rfl, rfl⟩ := h
      simpa using eq_of_after? hr
    · simp only [Option.map_eq_some_iff, Prod.exists, Prod.mk.injEq] at h
      obtain ⟨a', b', h', rfl, rfl⟩ := h
      rw [eq_of_cutMark? h']; rfl

/-! ## Splitting and trimming -/

/-- The parts between the separators, in order; a text without a separator is its only part. -/
def fields (isSeparator : Char → Bool) : Text → List Text
  | [] => [[]]
  | c :: s =>
    if isSeparator c then [] :: fields isSeparator s
    else
      match fields isSeparator s with
      | [] => [[c]]
      | f :: fs => (c :: f) :: fs

/-- There is always a first part. -/
theorem fields_ne_nil (p : Char → Bool) (s : Text) : fields p s ≠ [] := by
  cases s with
  | nil => simp [fields]
  | cons c s =>
    rw [fields]
    split
    · simp
    · split <;> simp

/-- The text without the characters of a class at its end. -/
def trimEnd (p : Char → Bool) (s : Text) : Text := (s.reverse.dropWhile p).reverse

/-- The text without the characters of a class at both ends. -/
def trim (p : Char → Bool) (s : Text) : Text := trimEnd p (s.dropWhile p)

/-- A text that does not start in the class keeps its start. -/
theorem dropWhile_eq_self {p : Char → Bool} {s : Text} (h : ∀ c, s.head? = some c → p c = false) :
    s.dropWhile p = s := by
  cases s with
  | nil => rfl
  | cons c s => simp [h c rfl]

/-- What is left behind `dropWhile` does not start in the class. -/
theorem head?_dropWhile {p : Char → Bool} {s : Text} {c : Char} (h : (s.dropWhile p).head? = some c) :
    p c = false := by
  induction s with
  | nil => simp at h
  | cons x s ih =>
    by_cases hx : p x = true
    · rw [List.dropWhile_cons_of_pos hx] at h; exact ih h
    · rw [List.dropWhile_cons_of_neg hx] at h
      simp only [List.head?_cons, Option.some.injEq] at h
      subst h
      simpa using hx

/-- The end of a trimmed text is not in the class. -/
theorem getLast?_trimEnd {p : Char → Bool} {s : Text} {c : Char} (h : (trimEnd p s).getLast? = some c) :
    p c = false := by
  rw [trimEnd, List.getLast?_reverse] at h
  exact head?_dropWhile h

/-- Trimming the end leaves a beginning of the text. -/
theorem eq_trimEnd_append (p : Char → Bool) (s : Text) : ∃ r, s = trimEnd p s ++ r := by
  refine ⟨(s.reverse.takeWhile p).reverse, ?_⟩
  rw [trimEnd, ← List.reverse_append, List.takeWhile_append_dropWhile, List.reverse_reverse]

/-- The start of a trimmed text is not in the class. -/
theorem head?_trim {p : Char → Bool} {s : Text} {c : Char} (h : (trim p s).head? = some c) : p c = false := by
  obtain ⟨r, hr⟩ := eq_trimEnd_append p (s.dropWhile p)
  refine head?_dropWhile (s := s) ?_
  rw [trim] at h
  rw [hr, List.head?_append, h]
  rfl

/-- A text that does not end in the class keeps its end. -/
theorem trimEnd_eq_self {p : Char → Bool} {s : Text} (h : ∀ c, s.getLast? = some c → p c = false) :
    trimEnd p s = s := by
  rw [trimEnd, dropWhile_eq_self (by simpa using h), List.reverse_reverse]

/-- **Only margins are trimmed**: a text with none is left alone. -/
theorem trim_eq_self {p : Char → Bool} {s : Text} (hs : ∀ c, s.head? = some c → p c = false)
    (he : ∀ c, s.getLast? = some c → p c = false) : trim p s = s := by
  rw [trim, dropWhile_eq_self hs, trimEnd_eq_self he]

/-- Trimming twice is trimming once. -/
theorem trim_trim (p : Char → Bool) (s : Text) : trim p (trim p s) = trim p s :=
  trim_eq_self (fun _ h => head?_trim h) (fun _ h => getLast?_trimEnd h)

/-! ## Replacing -/

/-- The text with `r` in place of each `c`. -/
def replace (c : Char) (r s : Text) : Text := s.flatMap fun x => if x = c then r else [x]

/-- Texts are replaced in part by part. -/
theorem replace_append (c : Char) (r s t : Text) : replace c r (s ++ t) = replace c r s ++ replace c r t := by
  simp [replace]

/-! ## Letters and digits -/

/-- The text with the letters `A` to `Z` written small. -/
def lower (s : Text) : Text := s.map Char.toLower

/-- Equality that takes each letter `A` to `Z` for its small form, and nothing else for anything else. -/
def eqIgnoringCase (s t : Text) : Bool := lower s == lower t

/-- The value of a hexadecimal digit of either case. -/
def hexDigit? (c : Char) : Option Nat :=
  if '0' ≤ c ∧ c ≤ '9' then some (c.toNat - '0'.toNat)
  else if 'a' ≤ c ∧ c ≤ 'f' then some (c.toNat - 'a'.toNat + 10)
  else if 'A' ≤ c ∧ c ≤ 'F' then some (c.toNat - 'A'.toNat + 10)
  else none

/-- The hexadecimal digit of a number below sixteen, where `ten` is the letter that stands for ten. -/
def hexDigit (ten : Char) (n : Nat) : Char :=
  if n < 10 then Char.ofNat ('0'.toNat + n) else Char.ofNat (ten.toNat + (n - 10))

/-- The value of a text of digits of the base `base`; nothing when a character is no such digit. -/
def number? (base : Nat) (s : Text) : Option Nat :=
  s.foldl (fun n c =>
    match n, hexDigit? c with
    | some n, some d => if d < base then some (n * base + d) else none
    | _, _ => none) (some 0)

/-- A written digit is read back, with small letters and with capital ones. -/
theorem hexDigit?_hexDigit {ten : Char} (h : ten = 'a' ∨ ten = 'A') :
    ∀ n < 16, hexDigit? (hexDigit ten n) = some n := by
  rcases h with rfl | rfl
  · decide
  · decide

/-- A digit at the end adds one place to a number. -/
theorem number?_concat {base : Nat} {s : Text} {c : Char} {n d : Nat} (hs : number? base s = some n)
    (hc : hexDigit? c = some d) (hd : d < base) : number? base (s ++ [c]) = some (n * base + d) := by
  rw [number?, List.foldl_append, List.foldl_cons, List.foldl_nil, ← number?, hs, hc]
  exact if_pos hd

/-- **Two digits write every number below 256**, and the zeros before them add nothing. -/
theorem number?_hexDigits {ten : Char} (h : ten = 'a' ∨ ten = 'A') {n : Nat} (hn : n < 0x100) :
    number? 16 ['0', '0', hexDigit ten (n / 16), hexDigit ten (n % 16)] = some n := by
  have hdiv : n / 16 < 16 := by omega
  have hmod : n % 16 < 16 := by omega
  have hzeros : number? 16 ['0', '0'] = some 0 := rfl
  have hhigh := number?_concat hzeros (hexDigit?_hexDigit h _ hdiv) hdiv
  have hboth := number?_concat hhigh (hexDigit?_hexDigit h _ hmod) hmod
  rw [Nat.zero_mul, Nat.zero_add, Nat.div_add_mod'] at hboth
  exact hboth

/-- The digits of a natural number in base ten. -/
def ofNat (n : Nat) : Text := Nat.toDigits 10 n

end Text
end WebScope
