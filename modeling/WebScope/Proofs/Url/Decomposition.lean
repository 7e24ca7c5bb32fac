import WebScope.Proofs.Url.PathShape
import WebScope.Proofs.Url.Query
import WebScope.Proofs.Url.Remote

/-!
# How the text of a URL comes apart

The parts of a URL with a mark are cut out of its text by one search after the other: for the first `://`, for the end
of the authority, for the last `@` in it, and for the query. Here the text is put together again instead: protocol,
mark, authority, path and query (`Parts.ComesApart`).

- What the searches find comes apart in this way (`Parts.comesApart_of_cut`), and a text that comes apart is cut there
  (`Parts.ComesApart.written?_eq`), so there is one way only (`Parts.written?_eq_some_iff`).
- Characters up to the space do not matter at both ends of a text (`Parts.trim_margins`).
- **The parts of a URL with a mark are those that its text comes apart into** (`Parts.ofText_iff_comesApart`).
-/

namespace WebScope
namespace Parts

/-- **How a text with a mark comes apart**: protocol, mark, authority, path and query, in this order. -/
structure ComesApart (s : Text) (p : Parts) (authority path query : Text) : Prop where
  text : s = p.protocol ++ "://".toList ++ authority ++ path ++ query
  /-- No mark stands before the one behind the protocol. -/
  first : ∀ before behind, s = before ++ "://".toList ++ behind → p.protocol.length ≤ before.length
  authority_free : '/' ∉ authority ∧ '?' ∉ authority ∧ '#' ∉ authority
  path_form : path = [] ∨ ∃ r, path = '/' :: r
  path_free : '?' ∉ path ∧ '#' ∉ path
  query_form : query = [] ∨ ∃ c r, query = c :: r ∧ (c = '?' ∨ c = '#')
  /-- The remote is the authority without user information. -/
  remote : '@' ∉ authority ∧ p.remote = authority ∨ ∃ user, authority = user ++ '@' :: p.remote ∧ '@' ∉ p.remote
  /-- A missing path is the root. -/
  root : p.path = if path = [] then ['/'] else path

/-! ## The classes of the cuts -/

theorem not_isEnd_iff {s : Text} :
    (∀ c ∈ s, (!Authority.isEnd false c) = true) ↔ '/' ∉ s ∧ '?' ∉ s ∧ '#' ∉ s := by
  simp only [Authority.isEnd, Bool.false_and, Bool.or_false, Bool.not_eq_true', Bool.or_eq_false_iff,
    beq_eq_false_iff_ne]
  constructor
  · intro h
    exact ⟨fun hm => (h _ hm).1.1 rfl, fun hm => (h _ hm).1.2 rfl, fun hm => (h _ hm).2 rfl⟩
  · rintro ⟨hslash, hquery, hfragment⟩ c hc
    exact ⟨⟨fun he => hslash (he ▸ hc), fun he => hquery (he ▸ hc)⟩, fun he => hfragment (he ▸ hc)⟩

theorem not_startsQuery_iff {s : Text} : (∀ c ∈ s, (!startsQuery c) = true) ↔ '?' ∉ s ∧ '#' ∉ s := by
  simp only [startsQuery, Bool.not_eq_true', Bool.or_eq_false_iff, beq_eq_false_iff_ne]
  constructor
  · intro h
    exact ⟨fun hm => (h _ hm).1 rfl, fun hm => (h _ hm).2 rfl⟩
  · rintro ⟨hquery, hfragment⟩ c hc
    exact ⟨fun he => hquery (he ▸ hc), fun he => hfragment (he ▸ hc)⟩

/-- What ends an authority is a path or a query. -/
theorem isEnd_iff {c : Char} : (!Authority.isEnd false c) = false ↔ c = '/' ∨ startsQuery c = true := by
  simp only [Bool.not_eq_false', Authority.isEnd, startsQuery, Bool.false_and, Bool.or_false, Bool.or_eq_true,
    beq_iff_eq, or_assoc]

/-! ## Cutting -/

theorem comesApart_of_cut {s protocol rest : Text} (h : Text.cutMark? mark s = some (protocol, rest)) :
    let authority := rest.takeWhile (!Authority.isEnd false ·)
    let tail := rest.dropWhile (!Authority.isEnd false ·)
    let path := tail.takeWhile (!startsQuery ·)
    ComesApart s ⟨protocol, remoteOf authority, pathOf path⟩ authority path (tail.dropWhile (!startsQuery ·)) := by
  intro authority tail path
  obtain ⟨hs, hfirst⟩ := Text.cutMark?_eq_some_iff.mp h
  have hauthority : ∀ c ∈ authority, (!Authority.isEnd false c) = true := fun _ hc =>
    List.mem_takeWhile_imp (p := (!Authority.isEnd false ·)) hc
  have hpath : ∀ c ∈ path, (!startsQuery c) = true := fun _ hc =>
    List.mem_takeWhile_imp (p := (!startsQuery ·)) hc
  refine ⟨?_, hfirst, not_isEnd_iff.mp hauthority, ?_, not_startsQuery_iff.mp hpath, ?_,
    remoteOf_eq_iff.mp rfl, rfl⟩
  · have hrest : rest = authority ++ (path ++ tail.dropWhile (!startsQuery ·)) := by
      rw [List.takeWhile_append_dropWhile, List.takeWhile_append_dropWhile]
    rw [hs, hrest, ← List.append_assoc, ← List.append_assoc]
    rfl
  · rcases hp : path with _ | ⟨c, r⟩
    · exact Or.inl rfl
    · -- The first character of the path ends the authority and starts no query.
      have hc : tail.head? = some c := by
        have htail : tail = path ++ tail.dropWhile (!startsQuery ·) := List.takeWhile_append_dropWhile.symm
        rw [htail, hp]
        rfl
      have hnot := hpath c (by rw [hp]; exact List.mem_cons_self)
      rcases isEnd_iff.mp (Text.head?_dropWhile hc) with rfl | hquery
      · exact Or.inr ⟨r, rfl⟩
      · rw [hquery] at hnot
        cases hnot
  · rcases hq : tail.dropWhile (!startsQuery ·) with _ | ⟨c, r⟩
    · exact Or.inl rfl
    · have hc : (!startsQuery c) = false := Text.head?_dropWhile (by rw [hq]; rfl)
      exact Or.inr ⟨c, r, rfl, startsQuery_iff.mp (by simpa using hc)⟩

section ComesApart

variable {s authority path query : Text} {p : Parts} (h : ComesApart s p authority path query)

include h

theorem ComesApart.startsQuery_of_head {c : Char} (hc : query.head? = some c) : (!startsQuery c) = false := by
  rcases h.query_form with rfl | ⟨d, r, rfl, hd⟩
  · cases hc
  · cases hc
    rcases hd with rfl | rfl <;> rfl

theorem ComesApart.isEnd_of_head {c : Char} (hc : (path ++ query).head? = some c) :
    (!Authority.isEnd false c) = false := by
  rw [isEnd_iff]
  rcases h.path_form with rfl | ⟨r, rfl⟩
  · exact Or.inr (by simpa using h.startsQuery_of_head hc)
  · cases hc
    exact Or.inl rfl

/-- **A text that comes apart is cut into these parts.** -/
theorem ComesApart.written?_eq : written? s = some p := by
  have hcut : Text.cutMark? mark s = some (p.protocol, authority ++ (path ++ query)) :=
    Text.cutMark?_eq_some_iff.mpr ⟨by rw [h.text]; simp [mark], h.first⟩
  obtain ⟨hauthority, htail⟩ :=
    Text.takeWhile_dropWhile_append (not_isEnd_iff.mpr h.authority_free) fun _ hc => h.isEnd_of_head hc
  obtain ⟨hpath, -⟩ :=
    Text.takeWhile_dropWhile_append (not_startsQuery_iff.mpr h.path_free) fun _ hc => h.startsQuery_of_head hc
  rw [written?, hcut, Option.map_some]
  simp only [hauthority, htail, hpath, remoteOf_eq_iff.mpr h.remote]
  rw [pathOf, ← h.root]

theorem ComesApart.remote_free : '/' ∉ p.remote ∧ '?' ∉ p.remote ∧ '#' ∉ p.remote ∧ '@' ∉ p.remote := by
  obtain ⟨hslash, hquery, hfragment⟩ := h.authority_free
  have hr : remoteOf authority = p.remote := remoteOf_eq_iff.mpr h.remote
  rw [← hr]
  exact ⟨fun hm => hslash (mem_of_mem_remoteOf hm), fun hm => hquery (mem_of_mem_remoteOf hm),
    fun hm => hfragment (mem_of_mem_remoteOf hm), not_mem_remoteOf authority⟩

theorem ComesApart.path_rooted : (∃ r, p.path = '/' :: r) ∧ '?' ∉ p.path ∧ '#' ∉ p.path := by
  rw [h.root]
  rcases h.path_form with rfl | ⟨r, rfl⟩
  · exact ⟨⟨[], rfl⟩, by decide, by decide⟩
  · exact ⟨⟨r, rfl⟩, h.path_free⟩

end ComesApart

/-- **The parts that are written in a text are those that it comes apart into.** -/
theorem written?_eq_some_iff {s : Text} {p : Parts} :
    written? s = some p ↔ ∃ authority path query, ComesApart s p authority path query := by
  constructor
  · intro h
    simp only [written?, Option.map_eq_some_iff, Prod.exists] at h
    obtain ⟨protocol, rest, hcut, rfl⟩ := h
    exact ⟨_, _, _, comesApart_of_cut hcut⟩
  · rintro ⟨_, _, _, h⟩
    exact h.written?_eq

/-! ## Margins -/

theorem trim_margins {before behind : Text} (hbefore : ∀ c ∈ before, c ≤ ' ') (hbehind : ∀ c ∈ behind, c ≤ ' ')
    (input : Text) :
    Text.trim Url.isMargin (before ++ input ++ behind) = Text.trim Url.isMargin input :=
  Text.trim_append (fun c hc => decide_eq_true (hbefore c hc)) (fun c hc => decide_eq_true (hbehind c hc)) input

/-- **The parts of a URL with a mark are those that its text comes apart into**, whatever stands in its margins, and
there are no others. -/
theorem ofText_iff_comesApart (input : Text) :
    (∀ url, Url.parse input = .ok url → "://".toList <:+: Text.trim Url.isMargin input →
      ∃ parts, ofText input = .ok parts ∧
        (∀ p, (∃ authority path query, ComesApart (Text.trim Url.isMargin input) p authority path query) ↔ p = parts) ∧
        ('/' ∉ parts.remote ∧ '?' ∉ parts.remote ∧ '#' ∉ parts.remote ∧ '@' ∉ parts.remote) ∧
        (∃ r, parts.path = '/' :: r) ∧ '?' ∉ parts.path ∧ '#' ∉ parts.path) ∧
      ∀ before behind, (∀ c ∈ before, c ≤ ' ') → (∀ c ∈ behind, c ≤ ' ') →
        ofText (before ++ input ++ behind) = ofText input ∧
          Url.parse (before ++ input ++ behind) = Url.parse input := by
  constructor
  · intro url hu hm
    obtain ⟨parts, hparts⟩ : ∃ parts, written? (Text.trim Url.isMargin input) = some parts := by
      rw [← Option.ne_none_iff_exists', ne_eq, written?, Option.map_eq_none_iff, Text.cutMark?_eq_none_iff, not_not]
      exact hm
    obtain ⟨_, _, _, h⟩ := written?_eq_some_iff.mp hparts
    refine ⟨parts, ofText_eq_ok_iff.mpr ⟨url, hu, by rw [hparts]; rfl⟩, fun p => ?_, h.remote_free, h.path_rooted⟩
    rw [← written?_eq_some_iff, hparts, Option.some.injEq, eq_comm]
  · intro before behind hbefore hbehind
    have ht := trim_margins hbefore hbehind input
    constructor
    · rw [← ofText_trim, ht, ofText_trim]
    · rw [← Url.parse_trim, ht, Url.parse_trim]

/-- With two `@` in the authority, no path, a mark in the query and blanks around, there is one way to come apart, and more
blanks and controls around it make no difference. -/
theorem comesApart_of_two_users :
    let input := "\t http://me@a@b.com:80?u=ftp://c/@ \n".toList
    let url : Url := ⟨"http".toList, some (.domain "b.com".toList), none, "/".toList⟩
    let before := "\x01 ".toList
    let behind := "\r\x1f".toList
    Url.parse input = .ok url ∧ "://".toList <:+: Text.trim Url.isMargin input ∧
      (∀ p, (∃ authority path query, ComesApart (Text.trim Url.isMargin input) p authority path query) ↔
        p = ⟨"http".toList, "b.com:80".toList, "/".toList⟩) ∧
      (∀ c ∈ before, c ≤ ' ') ∧ (∀ c ∈ behind, c ≤ ' ') ∧ ofText (before ++ input ++ behind) = ofText input := by
  intro input url before behind
  have hu : Url.parse input = .ok url := by decide +kernel
  have hm : "://".toList <:+: Text.trim Url.isMargin input := by decide +kernel
  obtain ⟨hapart, hmargins⟩ := ofText_iff_comesApart input
  obtain ⟨parts, hparts, hunique, -⟩ := hapart url hu hm
  have hvalue : ofText input = .ok ⟨"http".toList, "b.com:80".toList, "/".toList⟩ := by decide +kernel
  obtain rfl := Except.ok.inj (hparts.symm.trans hvalue)
  have hbefore : ∀ c ∈ before, c ≤ ' ' := by simp [before]
  have hbehind : ∀ c ∈ behind, c ≤ ' ' := by simp [behind]
  exact ⟨hu, hm, hunique, hbefore, hbehind, (hmargins before behind hbefore hbehind).1⟩

end Parts
end WebScope
