import WebScope.Proofs.Header.Lines
import WebScope.Proofs.Text.Search

/-!
# Headers are found by searching

A block is described by two expressions: one that finds the continued lines, `\r\n([ \t])`, whose group replaces what
is found, and one that finds the headers in what is left, `^(\S+):(.*)$`, where lines start and end at carriage returns,
at line feeds and at both together. The second one looks at the whole text, and repeats as often as it can. Reading goes
line by line instead, and cuts each line at a mark.

- Replacing is unfolding (`flatMap_replacement_scan`).
- Of all ways to take a name the first one before a mark is cut at the last mark (`findSome?_repeated`), so the line of a
  header is found whole (`head?_ways_fieldExpression`).
- Nothing is found within a line (`foundBehind_within`) and each line is searched on its own (`foundBehind_line`), so the
  search goes line by line (`foundBehind_eq`).
- **Reading a block is searching it** (`ofBlock_eq_search`).
-/

namespace WebScope
namespace Header

open SearchExpression (Stretch ways scan repeated startsLine endsLine head?_ways_both head?_repeated getLast?_cons_or
  scan_of_some scan_of_none)

/-! ## The expressions -/

/-- Whether a character is none of the blanks. -/
abbrev isSolid (c : Char) : Bool := !Text.isBlank c

/-- Whether a character stays within its line. -/
abbrev isInLine (c : Char) : Bool := !Text.isLineBreak c

/-- What is unfolded: `\r\n([ \t])`. -/
def foldExpression : SearchExpression :=
  .both (.oneOf (· == '\r')) (.both (.oneOf (· == '\n')) (.group (.oneOf fun c => c == ' ' || c == '\t')))

/-- The name of a field: `\S+`. -/
def nameExpression : SearchExpression := .both (.oneOf isSolid) (.many isSolid)

/-- The mark, the value and the end of the line: `:(.*)$`. -/
def valueExpression : SearchExpression :=
  .both (.oneOf (· == keyMark)) (.both (.group (.many isInLine)) .lineEnd)

/-- **The line of a header**: `^(\S+):(.*)$`. -/
def fieldExpression : SearchExpression := .both .lineStart (.both (.group nameExpression) valueExpression)

/-- The header that the groups of a line give. -/
def ofGroups (groups : List Text) : Header :=
  { key := groups.getD 0 [], value := Text.trimBlanks (groups.getD 1 []) }

/-! ## Unfolding -/

theorem head?_ways_foldExpression {c : Char} (hc : c = ' ' ∨ c = '\t') (before : Option Char) (s : Text) :
    (ways foldExpression before ('\r' :: '\n' :: c :: s)).head? = some ⟨['\r', '\n', c], s, [[c]]⟩ := by
  rcases hc with rfl | rfl <;> rfl

theorem head?_ways_foldExpression_of_not {s : Text} (h : ¬Folds s) (before : Option Char) :
    (ways foldExpression before s).head? = none := by
  match s with
  | [] => rfl
  | [x] => simp [foldExpression, ways]
  | [x, y] => simp [foldExpression, ways]
  | x :: y :: z :: s =>
    by_cases hx : x = '\r'
    · by_cases hy : y = '\n'
      · have hz : ¬(z = ' ' ∨ z = '\t') := fun hz => h ⟨z, s, by rw [hx, hy], hz⟩
        simp [foldExpression, ways, hx, hy, hz]
      · simp [foldExpression, ways, hx, hy]
    · simp [foldExpression, ways, hx]

/-- **Unfolding is replacing.** -/
theorem flatMap_replacement_scan : ∀ (s : Text) (before : Option Char),
    (scan foldExpression 0 before s).flatMap Stretch.replacement = unfoldLines s
  | [], _ => rfl
  | x :: s, before => by
    by_cases h : Folds (x :: s)
    · obtain ⟨c, r, he, hc⟩ := h
      cases he
      have hscan := scan_of_some (e := foldExpression) (c := '\r') (l := ['\n', c]) (t := r)
        (head?_ways_foldExpression hc before r)
      rw [unfoldLines_fold hc, ← flatMap_replacement_scan r]
      exact congrArg (List.flatMap Stretch.replacement) hscan
    · rw [unfoldLines_of_not_folds h, scan_of_none (head?_ways_foldExpression_of_not h before), List.flatMap_cons,
        flatMap_replacement_scan s]
      rfl
termination_by s => s.length

/-! ## The line of a header -/

theorem isSolid_keyMark : isSolid keyMark = true := by decide

/-- The ways to repeat before a mark: of those behind which the mark stands, the first is the one before the last mark. -/
theorem findSome?_repeated {α : Type} : ∀ (s : Text) {f : SearchExpression.Way → Option α},
    (∀ t r, r.head? ≠ some keyMark → f ⟨t, r, []⟩ = none) → (∀ t r, (f ⟨t, keyMark :: r, []⟩).isSome = true) →
      (repeated isSolid s).findSome? f = (Text.cutLast? keyMark (s.takeWhile isSolid)).bind fun (a, b) =>
        f ⟨a, keyMark :: (b ++ s.dropWhile isSolid), []⟩
  | [], f, hnone, _ => by
    have hf := hnone [] [] nofun
    simp [repeated, Text.cutLast?, hf]
  | c :: s, f, hnone, hsome => by
    have hlast : c ≠ keyMark → f ⟨[], c :: s, []⟩ = none := fun hc => hnone [] (c :: s) (by simpa using hc)
    rw [repeated]
    by_cases hc : isSolid c = true
    · have ih := findSome?_repeated s (f := fun w => f { w with taken := c :: w.taken })
        (fun t r => hnone (c :: t) r) (fun t r => hsome (c :: t) r)
      have hhead : (((repeated isSolid s).map fun w => { w with taken := c :: w.taken }).findSome? f) =
          (Text.cutLast? keyMark (s.takeWhile isSolid)).bind fun (a, b) =>
            f ⟨c :: a, keyMark :: (b ++ s.dropWhile isSolid), []⟩ := by
        rw [List.findSome?_map]
        exact ih
      rw [if_pos hc, List.findSome?_append, hhead, List.takeWhile_cons_of_pos hc, List.dropWhile_cons_of_pos hc,
        Text.cutLast?]
      cases Text.cutLast? keyMark (s.takeWhile isSolid) with
      | some cut => exact Option.or_of_isSome (hsome _ _)
      | none =>
        by_cases hmark : c = keyMark
        · simp [hmark, List.takeWhile_append_dropWhile]
        · simp [hmark, hlast hmark]
    · have hmark : c ≠ keyMark := by
        rintro rfl
        exact hc isSolid_keyMark
      rw [if_neg hc, List.takeWhile_cons_of_neg hc]
      simp [hlast hmark, Text.cutLast?]

theorem isInLine_eq_false_iff {c : Char} : isInLine c = false ↔ c = '\r' ∨ c = '\n' := by
  simp only [isInLine, Bool.not_eq_false', Text.isLineBreak, Bool.or_eq_true, beq_iff_eq]

theorem isInLine_of_isSolid {c : Char} (h : isSolid c = true) : isInLine c = true := by
  by_contra hc
  rw [Bool.not_eq_true, isInLine, Bool.not_eq_false'] at hc
  rw [isSolid, Text.isBlank_of_isLineBreak hc] at h
  cases h

/-- A line ends before a line break and at the end of the text. -/
theorem endsLine_getLast? {r t : Text} (hr : ∀ c ∈ r, isInLine c = true)
    (ht : ∀ c, t.head? = some c → isInLine c = false) {before : Char} (hb : isInLine before = true) :
    endsLine (r.getLast?.or (some before)) t.head? = true := by
  have hbefore : r.getLast?.or (some before) ≠ some '\r' := by
    intro h
    cases hl : r.getLast? with
    | none =>
      rw [hl] at h
      cases h
      exact absurd hb (by decide)
    | some d =>
      rw [hl] at h
      cases h
      exact absurd (hr _ (List.mem_of_getLast? hl)) (by decide)
  cases t with
  | nil => rfl
  | cons c t =>
    rcases isInLine_eq_false_iff.mp (ht c rfl) with rfl | rfl
    · rfl
    · simpa [endsLine] using hbefore

/-- **A value reaches to the end of its line.** -/
theorem head?_ways_valueExpression {r t : Text} (hr : ∀ c ∈ r, isInLine c = true)
    (ht : ∀ c, t.head? = some c → isInLine c = false) (before : Option Char) :
    (ways valueExpression before (keyMark :: (r ++ t))).head? = some ⟨keyMark :: r, t, [r]⟩ := by
  obtain ⟨htake, hdrop⟩ := Text.takeWhile_dropWhile_append hr ht
  have hgroup : (ways (.group (.many isInLine)) (some keyMark) (r ++ t)).head? = some ⟨r, t, [r]⟩ := by
    rw [ways, List.head?_map, ways, head?_repeated, htake, hdrop]
    rfl
  have hend : (ways .lineEnd (r.getLast?.or (some keyMark)) t).head? = some ⟨[], t, []⟩ := by
    rw [ways, if_pos (endsLine_getLast? hr ht (by decide))]
    rfl
  have hmark : ways (.oneOf (· == keyMark)) before (keyMark :: (r ++ t)) = [⟨[keyMark], r ++ t, []⟩] := by
    rw [ways, if_pos (by decide)]
  obtain ⟨ws, hws⟩ := List.head?_eq_some_iff.mp hgroup
  rw [valueExpression, head?_ways_both, hmark]
  simp only [List.findSome?_singleton, List.getLast?_singleton, Option.some_or]
  rw [head?_ways_both, hws, List.findSome?_cons]
  simp only [hend, Option.map_some, List.append_nil, List.cons_append, List.nil_append]

theorem head?_ways_valueExpression_of_ne {s : Text} (h : s.head? ≠ some keyMark) (before : Option Char) :
    (ways valueExpression before s).head? = none := by
  cases s with
  | nil => rfl
  | cons c s =>
    have hc : c ≠ keyMark := by simpa using h
    simp [valueExpression, ways, hc]

/-- What the groups hold in a line, if it is the line of a header. -/
def groups? (line : Text) : Option (List Text) :=
  match Text.cutLast? keyMark (line.takeWhile isSolid) with
  | some (key, rest) => if key = [] then none else some [key, rest ++ line.dropWhile isSolid]
  | none => none

theorem ofFieldLine?_eq (line : Text) : ofFieldLine? line = (groups? line).map ofGroups := by
  rw [ofFieldLine?, groups?]
  cases Text.cutLast? keyMark (line.takeWhile isSolid) with
  | none => rfl
  | some cut =>
    by_cases hkey : cut.1 = []
    · simp [hkey]
    · simp [hkey, ofGroups]

theorem ways_name {c : Char} (hc : isSolid c = true) (before : Option Char) (s : Text) :
    ways (.group nameExpression) before (c :: s) =
      (repeated isSolid s).map fun w => ⟨c :: w.taken, w.rest, (c :: w.taken) :: w.groups⟩ := by
  simp only [nameExpression, ways, hc, if_true, List.flatMap_cons, List.flatMap_nil, List.append_nil, List.map_map]
  rfl

theorem ways_name_of_blank {s : Text} (hs : ∀ c, s.head? = some c → isSolid c = false) (before : Option Char) :
    ways (.group nameExpression) before s = [] := by
  cases s with
  | nil => rfl
  | cons c s =>
    have hc := hs c rfl
    simp only [nameExpression, ways, hc, Bool.false_eq_true, if_false, List.flatMap_nil, List.map_nil]

/-- Nothing is found before a blank. -/
theorem head?_ways_fieldExpression_of_blank {s : Text} (hs : ∀ c, s.head? = some c → isSolid c = false)
    (before : Option Char) : (ways fieldExpression before s).head? = none := by
  rw [fieldExpression, head?_ways_both, ways]
  split
  · simp only [List.findSome?_singleton, head?_ways_both, ways_name_of_blank hs, List.findSome?_nil, Option.map_none]
  · rfl

/-- Nothing is found within a line. -/
theorem head?_ways_fieldExpression_of_not_startsLine {s : Text} {before : Option Char}
    (h : startsLine before s.head? = false) : (ways fieldExpression before s).head? = none := by
  rw [fieldExpression, head?_ways_both, ways, h]
  rfl

theorem exists_head?_ways_valueExpression (before : Option Char) (s : Text) :
    ((ways valueExpression before (keyMark :: s)).head?).isSome = true := by
  obtain ⟨r, t, rfl, hr, ht⟩ := Text.exists_span isInLine s
  rw [head?_ways_valueExpression hr ht]
  rfl

/-- **The name of a field reaches to the last mark before a blank.** -/
theorem head?_ways_body {c : Char} (hc : isSolid c = true) (before : Option Char) (s : Text) :
    (ways (.both (.group nameExpression) valueExpression) before (c :: s)).head? =
      (Text.cutLast? keyMark (s.takeWhile isSolid)).bind fun (a, b) =>
        (ways valueExpression ((c :: a).getLast?.or before) (keyMark :: (b ++ s.dropWhile isSolid))).head?.map
          fun w => ⟨c :: a ++ w.taken, w.rest, (c :: a) :: w.groups⟩ := by
  rw [head?_ways_both, ways_name hc, List.findSome?_map]
  refine findSome?_repeated s (fun t r hr => ?_) (fun t r => ?_)
  · show ((ways valueExpression _ r).head?).map _ = none
    rw [head?_ways_valueExpression_of_ne hr]
    rfl
  · show (((ways valueExpression _ (keyMark :: r)).head?).map _).isSome = true
    rw [Option.isSome_map]
    exact exists_head?_ways_valueExpression _ r

/-- **A line of a header is found whole**, with what its groups hold. -/
theorem head?_ways_fieldExpression {l t : Text} (hl : ∀ c ∈ l, isInLine c = true)
    (ht : ∀ c, t.head? = some c → isInLine c = false) {before : Option Char}
    (hb : startsLine before (l ++ t).head? = true) :
    (ways fieldExpression before (l ++ t)).head? = (groups? l).map fun groups => ⟨l, t, groups⟩ := by
  have htail : ∀ c, t.head? = some c → isSolid c = false := by
    intro c hc
    by_contra hs
    have := isInLine_of_isSolid (by simpa using hs)
    rw [ht c hc] at this
    cases this
  match l with
  | [] =>
    rw [List.nil_append, head?_ways_fieldExpression_of_blank htail]
    rfl
  | c :: l =>
    by_cases hc : isSolid c = true
    · have hstart : ways .lineStart before (c :: (l ++ t)) = [⟨[], c :: (l ++ t), []⟩] := by
        rw [ways]
        exact if_pos hb
      have hline : l.takeWhile isSolid ++ l.dropWhile isSolid = l := List.takeWhile_append_dropWhile
      rw [List.cons_append, fieldExpression, head?_ways_both, hstart, List.findSome?_singleton]
      simp only [List.getLast?_nil, Option.none_or, List.nil_append, Option.map_id']
      rw [head?_ways_body hc, Text.takeWhile_append_of_head htail, Text.dropWhile_append_of_head htail, groups?,
        List.takeWhile_cons_of_pos hc, List.dropWhile_cons_of_pos hc, Text.cutLast?]
      cases hcut : Text.cutLast? keyMark (l.takeWhile isSolid) with
      | none =>
        by_cases hmark : c = keyMark
        · simp [hmark]
        · simp [hmark]
      | some cut =>
        obtain ⟨a, b⟩ := cut
        have hvalue : ∀ x ∈ b ++ l.dropWhile isSolid, isInLine x = true := by
          intro x hx
          refine hl x (List.mem_cons_of_mem c ?_)
          rw [← hline, Text.eq_of_cutLast? hcut]
          rcases List.mem_append.mp hx with hx | hx
          · exact List.mem_append_left _ (List.mem_append_right a (List.mem_cons_of_mem _ hx))
          · exact List.mem_append_right _ hx
        have hsplit : c :: a ++ keyMark :: (b ++ l.dropWhile isSolid) = c :: l := by
          rw [Text.eq_of_cutLast? hcut] at hline
          simpa using hline
        simp only [Option.bind_some, ← List.append_assoc, head?_ways_valueExpression hvalue ht, Option.map_some,
          reduceCtorEq, if_false]
        rw [hsplit]
    · have hhead : ∀ d, (c :: l ++ t).head? = some d → isSolid d = false := by
        intro d hd
        cases hd
        simpa using hc
      rw [head?_ways_fieldExpression_of_blank hhead, groups?, List.takeWhile_cons_of_neg hc]
      rfl

/-! ## The search through all lines -/

/-- What is found in the rest of a text behind `before`. -/
def foundBehind (before : Option Char) (s : Text) : List (List Text) :=
  (scan fieldExpression 0 before s).filterMap Stretch.groups?

theorem foundBehind_of_none {before : Option Char} {c : Char} {s : Text}
    (h : (ways fieldExpression before (c :: s)).head? = none) : foundBehind before (c :: s) = foundBehind (some c) s := by
  rw [foundBehind, scan_of_none h]
  rfl

/-- Within a line nothing is found. -/
theorem foundBehind_within (t : Text) : ∀ {l : Text} {d : Char}, (∀ c ∈ l, isInLine c = true) → isInLine d = true →
    foundBehind (some d) (l ++ t) = foundBehind (l.getLast?.or (some d)) t
  | [], _, _, _ => rfl
  | c :: l, d, hl, hd => by
    obtain ⟨hc, hl⟩ := List.forall_mem_cons.mp hl
    have hstart : startsLine (some d) (c :: (l ++ t)).head? = false := by
      have hd' : d ≠ '\r' ∧ d ≠ '\n' := by
        refine not_or.mp fun h => ?_
        rw [isInLine_eq_false_iff.mpr h] at hd
        cases hd
      simp [startsLine, hd'.1, hd'.2]
    rw [List.cons_append, foundBehind_of_none (head?_ways_fieldExpression_of_not_startsLine hstart),
      foundBehind_within t hl hc, getLast?_cons_or]

/-- **A line is searched on its own**, where a line starts. -/
theorem foundBehind_line {l t : Text} (hl : ∀ c ∈ l, isInLine c = true) (ht : ∀ c, t.head? = some c → isInLine c = false)
    {before : Option Char} (hb : ∀ c, before = some c → isInLine c = false) :
    foundBehind before (l ++ t) = (groups? l).toList ++ foundBehind (l.getLast?.or before) t := by
  cases l with
  | nil => rfl
  | cons c l =>
    obtain ⟨hc, hl'⟩ := List.forall_mem_cons.mp hl
    have hstart : startsLine before (c :: l ++ t).head? = true := by
      have hc' : c ≠ '\n' := by
        rintro rfl
        exact absurd hc (by decide)
      cases before with
      | none => rfl
      | some d => rcases isInLine_eq_false_iff.mp (hb d rfl) with rfl | rfl <;> simp [startsLine, hc']
    have hways := head?_ways_fieldExpression hl ht hstart
    cases hg : groups? (c :: l) with
    | none =>
      rw [hg, List.cons_append] at hways
      rw [List.cons_append, foundBehind_of_none hways, foundBehind_within t hl' hc, getLast?_cons_or]
      rfl
    | some groups =>
      rw [hg] at hways
      rw [foundBehind, scan_of_some hways]
      rfl

/-- **The search finds the lines of headers**, one by one. -/
theorem foundBehind_eq : ∀ (s : Text) {before : Option Char}, (∀ c, before = some c → isInLine c = false) →
    foundBehind before s = (Text.fields Text.isLineBreak s).filterMap groups?
  | s, before, hb => by
    obtain ⟨l, t, hs, hl, ht⟩ := Text.exists_span isInLine s
    have hfields : Text.fields Text.isLineBreak l = [l] :=
      Text.fields_of_not_mem fun c hc => by simpa [isInLine] using hl c hc
    match t with
    | [] =>
      rw [hs, foundBehind_line hl ht hb, List.append_nil, hfields, List.filterMap_cons]
      cases groups? l <;> rfl
    | c :: t =>
      have hc : isInLine c = false := ht c rfl
      have hbreak : Text.isLineBreak c = true := by simpa [isInLine] using hc
      have hblank : ∀ x, (c :: t).head? = some x → isSolid x = false := by
        rintro x ⟨⟩
        rw [isSolid, Text.isBlank_of_isLineBreak hbreak]
        rfl
      have hbefore : ∀ x, some c = some x → isInLine x = false := by
        rintro x ⟨⟩
        exact hc
      have ih := foundBehind_eq t hbefore
      rw [hs, foundBehind_line hl ht hb, foundBehind_of_none (head?_ways_fieldExpression_of_blank hblank _), ih,
        Text.fields_append_cons hbreak, hfields, List.singleton_append, List.filterMap_cons]
      cases groups? l <;> rfl
termination_by s => s.length
decreasing_by
  rw [hs, List.length_append, List.length_cons]
  omega

/-- **Reading a block is searching it**: what is found in the unfolded text are the headers. -/
theorem ofBlock_eq_search (block : Text) :
    ofBlock block = (fieldExpression.search (foldExpression.replace block)).map ofGroups := by
  have hsearch : fieldExpression.search (unfoldLines block) =
      (Text.fields Text.isLineBreak (unfoldLines block)).filterMap groups? := foundBehind_eq _ nofun
  rw [SearchExpression.replace, flatMap_replacement_scan, hsearch, ofBlock, List.map_filterMap]
  exact congrArg (List.filterMap · _) (funext ofFieldLine?_eq)

end Header
end WebScope
