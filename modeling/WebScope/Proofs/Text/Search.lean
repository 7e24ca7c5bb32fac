import WebScope.Text.Basic

/-!
# Searching a text

Expressions that are looked for in a text from left to right. They know where lines start and end, what they repeat
takes as many characters as the rest of the expression allows, and their groups keep what was taken in them.

An expression can take the front of a text in several ways, and the first of them counts (`SearchExpression.ways`).
`SearchExpression.scan` walks through a text: where the expression takes something the search goes on behind that, and
all other characters are passed. `search` keeps what was found, `replace` puts what a group holds in its place.

- The first way of two expressions in a row is found by trying the ways of the first one (`head?_ways_both`), and of a
  repetition it is the longest (`head?_repeated`).
- A scan steps over what it finds (`scan_of_some`) and passes every other character (`scan_of_none`).
-/

namespace WebScope

/-- **An expression to be looked for.** -/
inductive SearchExpression
  | lineStart
  | lineEnd
  /-- One character of a class. -/
  | oneOf (p : Char → Bool)
  /-- Any number of characters of a class, the more the better. -/
  | many (p : Char → Bool)
  | both (a b : SearchExpression)
  | group (a : SearchExpression)

namespace SearchExpression

/-- One way to take the front of a text: what is taken, what is left, and what the groups hold. -/
structure Way where
  taken : Text
  rest : Text
  groups : List Text := []

/-- Whether a line starts between two characters. A carriage return and a line feed behind it are one line end. -/
def startsLine (before next : Option Char) : Bool :=
  match before with
  | none => true
  | some c => c == '\n' || (c == '\r' && next != some '\n')

/-- Whether a line ends between two characters. -/
def endsLine (before next : Option Char) : Bool :=
  match next with
  | none => true
  | some c => c == '\r' || (c == '\n' && before != some '\r')

/-- The ways to take characters of a class, from the most to none. -/
def repeated (p : Char → Bool) : Text → List Way
  | [] => [⟨[], [], []⟩]
  | c :: s =>
    (if p c then (repeated p s).map fun w => { w with taken := c :: w.taken } else []) ++ [⟨[], c :: s, []⟩]

/-- **The ways in which an expression takes the front of a text** that stands behind `before`, the best first. -/
def ways : SearchExpression → Option Char → Text → List Way
  | lineStart, before, s => if startsLine before s.head? then [⟨[], s, []⟩] else []
  | lineEnd, before, s => if endsLine before s.head? then [⟨[], s, []⟩] else []
  | oneOf _, _, [] => []
  | oneOf p, _, c :: s => if p c then [⟨[c], s, []⟩] else []
  | many p, _, s => repeated p s
  | both a b, before, s =>
    (ways a before s).flatMap fun w => (ways b (w.taken.getLast?.or before) w.rest).map fun w' =>
      ⟨w.taken ++ w'.taken, w'.rest, w.groups ++ w'.groups⟩
  | group a, before, s => (ways a before s).map fun w => { w with groups := w.taken :: w.groups }

/-- A stretch of a text that was searched. -/
inductive Stretch
  | passed (c : Char)
  | found (groups : List Text)

/-- What was found in a stretch. -/
def Stretch.groups? : Stretch → Option (List Text)
  | passed _ => none
  | found groups => some groups

/-- What stands for a stretch when the first group replaces what was found. -/
def Stretch.replacement : Stretch → Text
  | passed c => [c]
  | found groups => groups.headD []

/-- The stretches of a text behind `before`, from its `n`-th character on: the characters before that are taken. What
takes no character is not found. -/
def scan (e : SearchExpression) : Nat → Option Char → Text → List Stretch
  | _, _, [] => []
  | n + 1, _, c :: s => scan e n (some c) s
  | 0, before, c :: s =>
    match (ways e before (c :: s)).head? with
    | some ⟨_ :: t, _, groups⟩ => .found groups :: scan e t.length (some c) s
    | _ => .passed c :: scan e 0 (some c) s

/-- **What the groups hold wherever the expression is found**, from left to right. -/
def search (e : SearchExpression) (s : Text) : List (List Text) := (scan e 0 none s).filterMap Stretch.groups?

/-- **The text with the first group in place of what is found.** -/
def replace (e : SearchExpression) (s : Text) : Text := (scan e 0 none s).flatMap Stretch.replacement

variable {e : SearchExpression} {before : Option Char}

/-! ## The first way -/

theorem head?_ways_both (a b : SearchExpression) (before : Option Char) (s : Text) :
    (ways (both a b) before s).head? = (ways a before s).findSome? fun w =>
      (ways b (w.taken.getLast?.or before) w.rest).head?.map fun w' =>
        ⟨w.taken ++ w'.taken, w'.rest, w.groups ++ w'.groups⟩ := by
  simp only [ways, List.head?_flatMap, List.head?_map]

/-- **The first way to repeat is the longest.** -/
theorem head?_repeated (p : Char → Bool) : ∀ s : Text,
    (repeated p s).head? = some ⟨s.takeWhile p, s.dropWhile p, []⟩
  | [] => rfl
  | c :: s => by
    rw [repeated]
    by_cases hc : p c = true
    · rw [if_pos hc, List.head?_append, List.head?_map, head?_repeated p s, List.takeWhile_cons_of_pos hc,
        List.dropWhile_cons_of_pos hc]
      rfl
    · rw [if_neg hc, List.takeWhile_cons_of_neg hc, List.dropWhile_cons_of_neg hc]
      rfl

/-! ## The steps of a scan -/

/-- What stands before a text, as far as it is seen behind a character more. -/
theorem getLast?_cons_or (c : Char) (l : Text) (before : Option Char) :
    (c :: l).getLast?.or before = l.getLast?.or (some c) := by
  rw [List.getLast?_cons]
  cases l.getLast? <;> rfl

theorem scan_length : ∀ (l : Text) (before : Option Char) (t : Text),
    scan e l.length before (l ++ t) = scan e 0 (l.getLast?.or before) t
  | [], _, _ => rfl
  | c :: l, before, t => by
    rw [List.length_cons, List.cons_append, scan, scan_length l, getLast?_cons_or]

/-- **A scan steps over what is found.** -/
theorem scan_of_some {c : Char} {l t : Text} {groups : List Text}
    (h : (ways e before (c :: l ++ t)).head? = some ⟨c :: l, t, groups⟩) :
    scan e 0 before (c :: l ++ t) = .found groups :: scan e 0 ((c :: l).getLast?.or before) t := by
  rw [List.cons_append] at h ⊢
  rw [scan, h]
  simp only
  rw [scan_length l, getLast?_cons_or]

/-- **A scan passes a character at which nothing is found.** -/
theorem scan_of_none {c : Char} {s : Text} (h : (ways e before (c :: s)).head? = none) :
    scan e 0 before (c :: s) = .passed c :: scan e 0 (some c) s := by
  rw [scan, h]

end SearchExpression
end WebScope
