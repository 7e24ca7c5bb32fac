import WebScope.Pattern.Basic
import WebScope.Proofs.Pattern.Grammar

/-!
# Splitting a pattern

A pattern is described in two ways beside the splitter: as three segments of the grammar that make it up
(`Segments.Forms`), and by one anchored expression with a group for each segment,

    ((?:http|https|file|ftp|\*)(?:\+(?:http|https|file|ftp|\*))*)://(\*|\*\.[^*/]+|[^*/]+|)(/.*)

(`Segments.expression`). Alternatives of the expression overlap, and it says nothing of the order in which they are
tried; that does not matter, because no text is made up from segments in two ways.

- What each part of the expression takes is the form of its segment (`takes_protocolList_iff`, `takes_host_iff`,
  `takes_path_iff`), so **the splitter finds what the groups of the expression hold** (`takes_expression_iff`).
- **The splitter accepts exactly the grammar, and the grammar is unambiguous** (`ofText?_unambiguous`).
-/

namespace WebScope

/-! ## Expressions with groups -/

/-- **An expression with groups.** What is repeated holds no groups. -/
inductive GroupedExpression
  | word (s : Text)
  | oneOf (p : Char → Bool)
  | both (a b : GroupedExpression)
  | either (a b : GroupedExpression)
  | many (a : GroupedExpression)
  | group (a : GroupedExpression)

namespace GroupedExpression

/-- **The texts that an expression takes**, with what its groups hold, in the order in which they open. -/
inductive Takes : GroupedExpression → Text → List Text → Prop
  | word {s : Text} : Takes (.word s) s []
  | oneOf {p : Char → Bool} {c : Char} : p c = true → Takes (.oneOf p) [c] []
  | both {a b : GroupedExpression} {s t : Text} {g g' : List Text} :
    Takes a s g → Takes b t g' → Takes (.both a b) (s ++ t) (g ++ g')
  | left {a b : GroupedExpression} {s : Text} {g : List Text} : Takes a s g → Takes (.either a b) s g
  | right {a b : GroupedExpression} {s : Text} {g : List Text} : Takes b s g → Takes (.either a b) s g
  | none {a : GroupedExpression} : Takes (.many a) [] []
  | more {a : GroupedExpression} {s t : Text} : Takes a s [] → Takes (.many a) t [] → Takes (.many a) (s ++ t) []
  | group {a : GroupedExpression} {s : Text} {g : List Text} : Takes a s g → Takes (.group a) s (s :: g)

variable {a b : GroupedExpression} {p : Char → Bool} {s : Text} {g : List Text}

theorem takes_word_iff {w : Text} : Takes (.word w) s g ↔ s = w ∧ g = [] :=
  ⟨fun h => by cases h; exact ⟨rfl, rfl⟩, fun ⟨hs, hg⟩ => hs ▸ hg ▸ .word⟩

theorem takes_oneOf_iff : Takes (.oneOf p) s g ↔ (∃ c, s = [c] ∧ p c = true) ∧ g = [] := by
  constructor
  · intro h
    cases h with
    | oneOf hc => exact ⟨⟨_, rfl, hc⟩, rfl⟩
  · rintro ⟨⟨c, rfl, hc⟩, rfl⟩
    exact .oneOf hc

theorem takes_both_iff :
    Takes (.both a b) s g ↔ ∃ t u gt gu, s = t ++ u ∧ g = gt ++ gu ∧ Takes a t gt ∧ Takes b u gu := by
  constructor
  · intro h
    cases h with
    | both ha hb => exact ⟨_, _, _, _, rfl, rfl, ha, hb⟩
  · rintro ⟨t, u, gt, gu, rfl, rfl, ha, hb⟩
    exact .both ha hb

theorem takes_either_iff : Takes (.either a b) s g ↔ Takes a s g ∨ Takes b s g := by
  constructor
  · intro h
    cases h with
    | left h => exact Or.inl h
    | right h => exact Or.inr h
  · rintro (h | h)
    · exact .left h
    · exact .right h

theorem takes_group_iff : Takes (.group a) s g ↔ ∃ g', g = s :: g' ∧ Takes a s g' :=
  ⟨fun h => by cases h with | group h => exact ⟨_, rfl, h⟩, fun ⟨_, hg, h⟩ => hg ▸ .group h⟩

/-- A repetition takes texts that are put together from texts of what is repeated. -/
theorem takes_many_iff :
    Takes (.many a) s g ↔ (∃ ts : List Text, s = ts.flatten ∧ ∀ t ∈ ts, Takes a t []) ∧ g = [] := by
  constructor
  · intro h
    generalize he : GroupedExpression.many a = e at h
    induction h with
    | none => exact ⟨⟨[], rfl, by simp⟩, rfl⟩
    | more h _ _ ih =>
      cases he
      obtain ⟨⟨ts, rfl, hts⟩, -⟩ := ih rfl
      exact ⟨⟨_ :: ts, rfl, List.forall_mem_cons.mpr ⟨h, hts⟩⟩, rfl⟩
    | _ => cases he
  · rintro ⟨⟨ts, rfl, hts⟩, rfl⟩
    induction ts with
    | nil => exact .none
    | cons t ts ih =>
      obtain ⟨ht, hts⟩ := List.forall_mem_cons.mp hts
      exact .more ht (ih hts)

theorem takes_many_oneOf_iff : Takes (.many (.oneOf p)) s g ↔ (∀ c ∈ s, p c = true) ∧ g = [] := by
  rw [takes_many_iff]
  refine and_congr_left fun _ => ⟨?_, fun h => ⟨s.map ([·]), ?_, ?_⟩⟩
  · rintro ⟨ts, rfl, hts⟩ c hc
    obtain ⟨t, ht, hct⟩ := List.mem_flatten.mp hc
    obtain ⟨⟨d, rfl, hd⟩, -⟩ := takes_oneOf_iff.mp (hts t ht)
    rwa [List.mem_singleton.mp hct]
  · rw [← List.flatMap_def, List.flatMap_singleton']
  · intro t ht
    obtain ⟨c, hc, rfl⟩ := List.mem_map.mp ht
    exact .oneOf (h c hc)

end GroupedExpression

namespace Segments

open GroupedExpression (Takes takes_word_iff takes_oneOf_iff takes_both_iff takes_either_iff takes_group_iff
  takes_many_iff takes_many_oneOf_iff)

/-! ## The expression of patterns -/

/-- One protocol: one of the protocols that patterns can name, or `*`. -/
def protocolExpression : GroupedExpression :=
  allowedProtocols.foldr (fun p e => .either (.word p) e) (.word matchAll)

/-- A protocol list. -/
def protocolListExpression : GroupedExpression :=
  .both protocolExpression (.many (.both (.word [protocolDelimiter]) protocolExpression))

/-- A host name. -/
def nameExpression : GroupedExpression :=
  .both (.oneOf fun c => c != '*' && c != '/') (.many (.oneOf fun c => c != '*' && c != '/'))

/-- A host. -/
def hostExpression : GroupedExpression :=
  .either (.word matchAll) (.either (.both (.word "*.".toList) nameExpression) (.either nameExpression (.word [])))

/-- A path. -/
def pathExpression : GroupedExpression := .both (.word ['/']) (.many (.oneOf (· != '\n')))

/-- **The expression of patterns**, with a group for each segment. -/
def expression : GroupedExpression :=
  .both (.group protocolListExpression) (.both (.word hostMark) (.both (.group hostExpression) (.group pathExpression)))

section Parts

variable {s : Text} {g : List Text}

theorem takes_protocol_iff : Takes protocolExpression s g ↔ (s ∈ allowedProtocols ∨ s = matchAll) ∧ g = [] := by
  unfold protocolExpression
  induction allowedProtocols with
  | nil => simp [takes_word_iff]
  | cons p ps ih =>
    rw [List.foldr_cons, takes_either_iff, takes_word_iff, ih, ← or_and_right, List.mem_cons, or_assoc]

/-- Texts joined by a separator: the first one, then the separator before each of the others. -/
theorem intercalate_cons (c : Char) (p : Text) (ps : List Text) :
    [c].intercalate (p :: ps) = p ++ (ps.map ([c] ++ ·)).flatten := by
  induction ps generalizing p with
  | nil => simp
  | cons q ps ih => rw [List.intercalate_cons_cons, ih]; simp

theorem takes_protocolList_iff : Takes protocolListExpression s g ↔ (∃ ps, Lists ps s) ∧ g = [] := by
  have hnext : ∀ t, Takes (.both (.word [protocolDelimiter]) protocolExpression) t [] ↔
      ∃ p, t = [protocolDelimiter] ++ p ∧ (p ∈ allowedProtocols ∨ p = matchAll) := by
    intro t
    simp only [takes_both_iff, takes_word_iff, takes_protocol_iff]
    constructor
    · rintro ⟨_, p, _, _, rfl, -, ⟨rfl, -⟩, hp, -⟩
      exact ⟨p, rfl, hp⟩
    · rintro ⟨p, rfl, hp⟩
      exact ⟨_, p, [], [], rfl, rfl, ⟨rfl, rfl⟩, hp, rfl⟩
  simp only [protocolListExpression, takes_both_iff, takes_protocol_iff, takes_many_iff, hnext]
  constructor
  · rintro ⟨p, _, _, _, rfl, rfl, ⟨hp, rfl⟩, ⟨ts, rfl, hts⟩, rfl⟩
    have hps : ∃ ps : List Text, ts = ps.map ([protocolDelimiter] ++ ·) ∧
        ∀ q ∈ ps, q ∈ allowedProtocols ∨ q = matchAll := by
      induction ts with
      | nil => exact ⟨[], rfl, by simp⟩
      | cons t ts ih =>
        obtain ⟨⟨q, rfl, hq⟩, hrest⟩ := List.forall_mem_cons.mp hts
        obtain ⟨ps, rfl, hps⟩ := ih hrest
        exact ⟨q :: ps, rfl, List.forall_mem_cons.mpr ⟨hq, hps⟩⟩
    obtain ⟨ps, rfl, hps⟩ := hps
    exact ⟨⟨p :: ps, by simp, List.forall_mem_cons.mpr ⟨hp, hps⟩, (intercalate_cons _ p ps).symm⟩, rfl⟩
  · rintro ⟨⟨ps, hne, hnamed, rfl⟩, rfl⟩
    obtain ⟨p, ps, rfl⟩ := List.exists_cons_of_ne_nil hne
    obtain ⟨hp, hps⟩ := List.forall_mem_cons.mp hnamed
    refine ⟨p, _, [], [], intercalate_cons _ p ps, rfl, ⟨hp, rfl⟩, ⟨_, rfl, ?_⟩, rfl⟩
    intro t ht
    obtain ⟨q, hq, rfl⟩ := List.mem_map.mp ht
    exact ⟨q, rfl, hps q hq⟩

theorem takes_name_iff : Takes nameExpression s g ↔ IsHostName s ∧ g = [] := by
  simp only [nameExpression, takes_both_iff, takes_oneOf_iff, takes_many_oneOf_iff, ← isName_iff]
  constructor
  · rintro ⟨_, t, _, _, rfl, rfl, ⟨⟨c, rfl, hc⟩, rfl⟩, ht, rfl⟩
    refine ⟨?_, rfl⟩
    simp only [isName, Bool.and_eq_true, List.all_eq_true]
    exact ⟨rfl, List.forall_mem_cons.mpr ⟨by simpa using hc, by simpa using ht⟩⟩
  · rintro ⟨hs, rfl⟩
    simp only [isName, Bool.and_eq_true, bne_iff_ne, List.all_eq_true] at hs
    obtain ⟨c, t, rfl⟩ := List.exists_cons_of_ne_nil hs.1
    obtain ⟨hc, ht⟩ := List.forall_mem_cons.mp hs.2
    exact ⟨[c], t, [], [], rfl, rfl, ⟨⟨c, rfl, by simpa using hc⟩, rfl⟩, by simpa using ht, rfl⟩

theorem takes_host_iff : Takes hostExpression s g ↔ HostForm s ∧ g = [] := by
  have hbelow : Takes (.both (.word "*.".toList) nameExpression) s g ↔
      (∃ t, s = '*' :: '.' :: t ∧ IsHostName t) ∧ g = [] := by
    simp only [takes_both_iff, takes_word_iff, takes_name_iff]
    constructor
    · rintro ⟨_, t, _, _, rfl, rfl, ⟨rfl, rfl⟩, ht, rfl⟩
      exact ⟨⟨t, rfl, ht⟩, rfl⟩
    · rintro ⟨⟨t, rfl, ht⟩, rfl⟩
      exact ⟨_, t, [], [], rfl, rfl, ⟨rfl, rfl⟩, ht, rfl⟩
  simp only [hostExpression, takes_either_iff, takes_word_iff, hbelow, takes_name_iff, ← or_and_right]
  refine and_congr_left fun _ => ⟨?_, fun h => ?_⟩
  · rintro (rfl | ⟨t, rfl, ht⟩ | hs | rfl)
    · exact .any
    · exact .below ht
    · exact .name hs
    · exact .empty
  · cases h with
    | empty => exact Or.inr (Or.inr (Or.inr rfl))
    | any => exact Or.inl rfl
    | below ht => exact Or.inr (Or.inl ⟨_, rfl, ht⟩)
    | name hs => exact Or.inr (Or.inr (Or.inl hs))

theorem takes_path_iff : Takes pathExpression s g ↔ PathForm s ∧ g = [] := by
  simp only [pathExpression, takes_both_iff, takes_word_iff, takes_many_oneOf_iff, bne_iff_ne, PathForm]
  constructor
  · rintro ⟨_, t, _, _, rfl, rfl, ⟨rfl, rfl⟩, ht, rfl⟩
    exact ⟨⟨t, rfl, fun hn => ht _ hn rfl⟩, rfl⟩
  · rintro ⟨⟨t, rfl, ht⟩, rfl⟩
    exact ⟨_, t, [], [], rfl, rfl, ⟨rfl, rfl⟩, fun c hc he => ht (he ▸ hc), rfl⟩

end Parts

/-! ## The splitter -/

/-- **The text `raw` is made up from three segments of the grammar**: a protocol list, `://`, a host and a path. -/
structure Forms (raw protocols host path : Text) : Prop where
  text : raw = protocols ++ "://".toList ++ host ++ path
  protocols : ∃ ps, Lists ps protocols
  host : HostForm host
  path : PathForm path

/-- The splitter finds the segments that make up a text. -/
theorem ofText?_iff_forms {raw : Text} {s : Segments} :
    ofText? raw = some s ↔ Forms raw s.protocols s.host s.path := by
  rw [ofText?_eq_some_iff]
  exact ⟨fun ⟨ht, hp, hh, hpath⟩ => ⟨ht, hp, hh, hpath⟩, fun ⟨ht, hp, hh, hpath⟩ => ⟨ht, hp, hh, hpath⟩⟩

/-- **The splitter finds what the groups of the expression hold**, in whatever way a text is taken by it. -/
theorem takes_expression_iff {raw : Text} {groups : List Text} :
    Takes expression raw groups ↔ ∃ s, ofText? raw = some s ∧ groups = [s.protocols, s.host, s.path] := by
  simp only [expression, takes_both_iff, takes_group_iff, takes_word_iff, takes_protocolList_iff, takes_host_iff,
    takes_path_iff, ofText?_iff_forms]
  constructor
  · rintro ⟨p, _, _, _, rfl, rfl, ⟨_, rfl, hp, rfl⟩, _, _, _, _, rfl, rfl, ⟨rfl, rfl⟩,
      h, t, _, _, rfl, rfl, ⟨_, rfl, hh, rfl⟩, _, rfl, ht, rfl⟩
    exact ⟨⟨p, h, t⟩, ⟨by simp [hostMark], hp, hh, ht⟩, rfl⟩
  · rintro ⟨⟨p, h, t⟩, ⟨rfl, hp, hh, ht⟩, rfl⟩
    have htext : p ++ "://".toList ++ h ++ t = p ++ (hostMark ++ (h ++ t)) := by simp [hostMark]
    exact ⟨p, _, [p], [h, t], htext, rfl, ⟨[], rfl, hp, rfl⟩, hostMark, h ++ t, [], [h, t], rfl, rfl, ⟨rfl, rfl⟩,
      h, t, [h], [t], rfl, rfl, ⟨[], rfl, hh, rfl⟩, [], rfl, ht, rfl⟩

/-- **The splitter accepts exactly the grammar, and the grammar is unambiguous**: it finds three segments if and only if
they make up the text, no other three do, and it finds none if no three do; the empty text and `<all_urls>` are such
texts. -/
theorem ofText?_unambiguous (raw : Text) :
    (∀ p h t, ofText? raw = some ⟨p, h, t⟩ ↔ Forms raw p h t) ∧
      (∀ p h t p' h' t', Forms raw p h t → Forms raw p' h' t' → p = p' ∧ h = h' ∧ t = t') ∧
      (∀ s, ofText? raw = some s → s.protocols ++ "://".toList ++ s.host ++ s.path = raw) ∧
      (ofText? raw = none ↔ ¬∃ p h t, Forms raw p h t) ∧
      ofText? [] = none ∧ ofText? matchAllUrls = none := by
  have hforms : ∀ p h t, ofText? raw = some ⟨p, h, t⟩ ↔ Forms raw p h t := fun p h t => ofText?_iff_forms
  refine ⟨hforms, ?_, ?_, ?_, rfl, by decide +kernel⟩
  · intro p h t p' h' t' hf hf'
    have heq : some (Segments.mk p h t) = some ⟨p', h', t'⟩ :=
      ((hforms p h t).mpr hf).symm.trans ((hforms p' h' t').mpr hf')
    simpa using heq
  · intro s hs
    exact (eq_of_ofText? hs).symm
  · rw [Option.eq_none_iff_forall_ne_some]
    constructor
    · rintro hnone ⟨p, h, t, hf⟩
      exact hnone _ ((hforms p h t).mpr hf)
    · intro hno s hs
      exact hno ⟨_, _, _, ofText?_iff_forms.mp hs⟩

end Segments
end WebScope
