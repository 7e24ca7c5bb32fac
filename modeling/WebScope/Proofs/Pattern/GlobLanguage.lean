import WebScope.Pattern.Glob
import WebScope.Proofs.Regex.Places

/-!
# The expression of a glob means what the glob means

`Glob.source` writes an expression in three passes over the whole text: escapes, then `?`, then `*`. The passes do not
get into each other's way, because what the first one adds is no wildcard and what the others put in is not escaped;
so each character of the glob is written on its own (`Glob.body_cons`, `written`) and read back as one piece
(`pieces?_body`), and the pieces take the texts of the glob (`takes_map_pieceOf`).

Main statement: the expression of every glob is well formed, it matches the language of the glob, and it compiles
unless it grows past the limit (`source_language`).
-/

namespace WebScope
namespace Regex

/-! ## Reading one piece -/

/-- The closing anchor ends the pieces. -/
theorem pieces?_anchor : pieces? ['\\', 'z'] = some [] := rfl

/-- A backslash before an operator is the operator itself. -/
theorem pieces?_escaped {c : Char} (hc : isOperator c = true) (s : Text) :
    pieces? ('\\' :: c :: s) = (pieces? s).map (.exactly c :: ·) := by
  rw [pieces?]
  · rw [if_pos hc]
  · rintro rfl; exact absurd hc (by decide)

/-- A dot before a star is any run. -/
theorem pieces?_run (s : Text) : pieces? ('.' :: '*' :: s) = (pieces? s).map (.anyRun :: ·) := by
  rw [pieces?]

/-- A dot before anything else is any character. -/
theorem pieces?_any {s : Text} (hs : s.head? ≠ some '*') : pieces? ('.' :: s) = (pieces? s).map (.any :: ·) := by
  rw [pieces?]
  rintro r rfl
  exact hs rfl

/-- A character that is no operator is itself. -/
theorem pieces?_plain {c : Char} (hc : isOperator c = false) (s : Text) :
    pieces? (c :: s) = (pieces? s).map (.exactly c :: ·) := by
  have hb : c ≠ '\\' := by rintro rfl; exact absurd hc (by decide)
  have hd : c ≠ '.' := by rintro rfl; exact absurd hc (by decide)
  rw [pieces?]
  · rw [if_neg (by simp [hc])]
  · intro h; exact absurd h hb
  · intro d r h; exact absurd h hb
  · intro r h; exact absurd h hd
  · intro h; exact absurd h hd

end Regex

namespace Glob

/-! ## The three passes, one character at a time -/

/-- The expression of a glob between its anchors. -/
def body (g : Text) : Text := Text.replace '*' ['.', '*'] (Text.replace '?' ['.'] (escape g))

/-- Each character is written on its own. -/
theorem body_cons (c : Char) (g : Text) : body (c :: g) = body [c] ++ body g := by
  have hescape : escape (c :: g) = escape [c] ++ escape g := by simp [escape]
  rw [body, hescape, Text.replace_append, Text.replace_append]
  rfl

/-- **What is written for a character of a glob.** -/
inductive Written : Char → Text → Prop
  | one : Written '?' ['.']
  | run : Written '*' ['.', '*']
  | escaped {c : Char} : c ≠ '?' → c ≠ '*' → Regex.isOperator c = true → Written c ['\\', c]
  | plain {c : Char} : c ≠ '?' → c ≠ '*' → Regex.isOperator c = false → Written c [c]

/-- The escaped characters are the operators that are no wildcards. -/
theorem contains_escapedChars {c : Char} (hq : c ≠ '?') (hs : c ≠ '*') :
    escapedChars.contains c = Regex.isOperator c := by
  rw [Bool.eq_iff_iff]
  simp only [Regex.isOperator, escapedChars, List.contains_eq_mem, decide_eq_true_eq, List.mem_cons, List.not_mem_nil]
  grind

/-- The three passes write every character. -/
theorem written (c : Char) : Written c (body [c]) := by
  by_cases hq : c = '?'
  · subst hq; exact .one
  by_cases hs : c = '*'
  · subst hs; exact .run
  have hescape : escape [c] = if Regex.isOperator c then ['\\', c] else [c] := by
    rw [← contains_escapedChars hq hs, escape, List.flatMap_singleton]
  cases ho : Regex.isOperator c with
  | true =>
    have hbody : body [c] = ['\\', c] := by
      rw [body, hescape, ho, if_pos rfl]
      simp [Text.replace, hq, hs]
    rw [hbody]
    exact .escaped hq hs ho
  | false =>
    have hbody : body [c] = [c] := by
      rw [body, hescape, ho, if_neg Bool.false_ne_true]
      simp [Text.replace, hq, hs]
    rw [hbody]
    exact .plain hq hs ho

/-- What is written for a glob never starts with a star, so that no `.` of a `?` is read as a run. -/
theorem head?_body_ne (g r : Text) (hr : r.head? ≠ some '*') : (body g ++ r).head? ≠ some '*' := by
  cases g with
  | nil => exact hr
  | cons c g =>
    have hw := written c
    rw [body_cons]
    generalize body [c] = w at hw
    cases hw with
    | one => simp
    | run => simp
    | escaped => simp
    | plain _ hs => simpa using hs

/-! ## Pieces -/

/-- The piece that a character of a glob stands for. -/
def pieceOf (c : Char) : Piece := if c = '?' then .any else if c = '*' then .anyRun else .exactly c

/-- A character that is no wildcard stands for itself. -/
theorem pieceOf_of_ne {c : Char} (hq : c ≠ '?') (hs : c ≠ '*') : pieceOf c = .exactly c := by
  rw [pieceOf, if_neg hq, if_neg hs]

/-- **The expression of a glob is read back** as one piece for each character. -/
theorem pieces?_body : ∀ g : Text, Regex.pieces? (body g ++ ['\\', 'z']) = some (g.map pieceOf)
  | [] => Regex.pieces?_anchor
  | c :: g => by
    have ih := pieces?_body g
    have hw := written c
    rw [body_cons, List.append_assoc, List.map_cons]
    generalize body [c] = w at hw
    cases hw with
    | one =>
      show Regex.pieces? ('.' :: (body g ++ ['\\', 'z'])) = _
      rw [Regex.pieces?_any (head?_body_ne g _ (by simp)), ih]
      rfl
    | run =>
      show Regex.pieces? ('.' :: '*' :: (body g ++ ['\\', 'z'])) = _
      rw [Regex.pieces?_run, ih]
      rfl
    | escaped hq hs ho =>
      show Regex.pieces? ('\\' :: c :: (body g ++ ['\\', 'z'])) = _
      rw [Regex.pieces?_escaped ho, ih, pieceOf_of_ne hq hs]
      rfl
    | plain hq hs ho =>
      show Regex.pieces? (c :: (body g ++ ['\\', 'z'])) = _
      rw [Regex.pieces?_plain ho, ih, pieceOf_of_ne hq hs]
      rfl

/-- The pieces between the anchors of the expression of a glob. -/
theorem piecesOfSource?_source (g : Text) : Regex.piecesOfSource? (source g) = some (g.map pieceOf) := by
  have hsource : source g = ['\\', 'A'] ++ (body g ++ ['\\', 'z']) := by rw [← List.append_assoc]; rfl
  rw [Regex.piecesOfSource?, hsource, Text.after?_append]
  exact pieces?_body g

/-! ## Languages -/

/-- The pieces of a glob take exactly the texts that the glob matches. -/
theorem takes_map_pieceOf : ∀ {g t : Text}, Regex.Takes (g.map pieceOf) t ↔ Matches g t
  | [], t => by
    rw [List.map_nil, Regex.takes_nil_iff]
    exact ⟨fun h => h ▸ .nil, fun h => by cases h; rfl⟩
  | c :: g, t => by
    rw [List.map_cons]
    by_cases hq : c = '?'
    · subst hq
      show Regex.Takes (.any :: g.map pieceOf) t ↔ _
      rw [Regex.takes_any_iff]
      constructor
      · rintro ⟨d, t, rfl, hd, h⟩
        exact .one hd (takes_map_pieceOf.mp h)
      · intro h
        cases h with
        | one hd h => exact ⟨_, _, rfl, hd, takes_map_pieceOf.mpr h⟩
        | char hq => exact absurd rfl hq
    · by_cases hs : c = '*'
      · subst hs
        show Regex.Takes (.anyRun :: g.map pieceOf) t ↔ _
        rw [Regex.takes_anyRun_iff]
        constructor
        · rintro ⟨run, t, rfl, hr, h⟩
          exact .run hr (takes_map_pieceOf.mp h)
        · intro h
          cases h with
          | run hr h => exact ⟨_, _, rfl, hr, takes_map_pieceOf.mpr h⟩
          | char _ hs => exact absurd rfl hs
      · rw [pieceOf_of_ne hq hs, Regex.takes_exactly_iff]
        constructor
        · rintro ⟨t, rfl, h⟩
          exact .char hq hs (takes_map_pieceOf.mp h)
        · intro h
          cases h with
          | one => exact absurd rfl hq
          | run => exact absurd rfl hs
          | char _ _ h => exact ⟨_, rfl, takes_map_pieceOf.mpr h⟩

/-- **A glob compiles** to the expression of its pieces unless that would grow past the limit. -/
theorem compile_eq (g : Text) :
    compile g = if Regex.sizeLimit < Regex.size (g.map pieceOf) then .error .tooLarge
      else .ok ⟨source g, g.map pieceOf⟩ := by
  rw [compile, Regex.compile, piecesOfSource?_source]

theorem eq_of_compile {g : Text} {r : Regex} (h : compile g = .ok r) : r = ⟨source g, g.map pieceOf⟩ := by
  rw [compile_eq] at h
  split at h
  · cases h
  · cases h
    rfl

/-- A compiled glob matches the language of the glob. -/
theorem isMatch_of_compile {g : Text} {r : Regex} (h : compile g = .ok r) (t : Text) :
    r.isMatch t = true ↔ Matches g t := by
  rw [eq_of_compile h, Regex.isMatch_iff, takes_map_pieceOf]

/-- **The expression of a glob means what the glob means**: it is well formed, what it matches, as a relation and as
it is decided, is the language of the glob, and it is compiled unless its program would be larger than the limit. -/
theorem source_language (g : Text) :
    ∃ ps, Regex.piecesOfSource? (source g) = some ps ∧
      (∀ t, Regex.Takes ps t ↔ Matches g t) ∧
      (∀ t, Regex.isMatch ⟨source g, ps⟩ t = true ↔ Matches g t) ∧
      compile g = if Regex.sizeLimit < Regex.size ps then .error .tooLarge else .ok ⟨source g, ps⟩ := by
  refine ⟨g.map pieceOf, piecesOfSource?_source g, fun t => takes_map_pieceOf, fun t => ?_, compile_eq g⟩
  rw [Regex.isMatch_iff]
  exact takes_map_pieceOf

end Glob
end WebScope
