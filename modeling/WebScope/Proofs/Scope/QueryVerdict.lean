import WebScope.Proofs.Pattern.Meaning
import WebScope.Proofs.Scope.RuleByRule
import WebScope.Proofs.Url.Query

/-!
# Verdicts and queries

A rule is about the place and the path of a URL, so its query should not matter. It does not, as long as it takes no
part in the parts (`Parts.QueryApart`). If the URL is written without `://` and its query brings that mark along, all of
the text up to the mark becomes the protocol, which no pattern can name: then only patterns that match everything match.

- The test of a text with a query (`Pattern.test_append_query`) is that of the text, or whether the pattern matches
  everything.
- **Exactly when a query changes no verdict**, of a pattern and of a list of rules (`append_query_verdict_iff`);
  `changed_by_query` is a query that takes a URL out of scope.
-/

namespace WebScope

namespace Pattern

/-- Parts with a protocol that patterns cannot name are admitted by those that match everything only. -/
theorem admits_of_not_mem_allowedProtocols {parts : Parts} (h : parts.protocol ∉ allowedProtocols) (p : Pattern) :
    p.admits parts = p.isMatchAll := by
  have hno : p.admitsProtocol parts.protocol = false := by
    rw [admitsProtocol, Option.any_eq_false]
    intro r _
    simp [h]
  simp [admits, hno]

/-- No protocol that patterns can name has the start of a query in it. -/
theorem not_mem_allowedProtocols {c : Char} (hc : Parts.startsQuery c = true) {protocol : Text} (h : c ∈ protocol) :
    protocol ∉ allowedProtocols := by
  intro hp
  simp only [allowedProtocols, List.mem_cons, List.not_mem_nil, or_false] at hp
  rcases Parts.startsQuery_iff.mp hc with rfl | rfl <;> rcases hp with rfl | rfl | rfl | rfl <;> revert h <;> decide

end Pattern

section Query

variable {u q : Text} {c : Char} (hu : Url.IsWritten u) (hc : Parts.startsQuery c = true)
  (hq : ∃ url, Url.parse (u ++ c :: q) = .ok url)

include hu hc hq

/-- **The test of a text with a query.** -/
theorem Pattern.test_append_query (p : Pattern) :
    p.test (u ++ c :: q) = if Parts.QueryApart u q then p.test u else p.isMatchAll := by
  obtain ⟨url, hq⟩ := hq
  split
  · rename_i ha
    have hparts := Parts.ofText_append_query hu hc hq ha
    cases h : Parts.ofText u with
    | ok parts => rw [test_of_ok h, test_of_ok (hparts.trans h)]
    | error e => rw [test_of_error h, test_of_error (hparts.trans h)]
  · rename_i ha
    obtain ⟨parts, hparts, hmem⟩ := Parts.mem_protocol_of_not_queryApart hu hc hq ha
    rw [test_of_ok hparts, admits_of_not_mem_allowedProtocols (not_mem_allowedProtocols hc hmem)]

/-- When a query changes nothing for a pattern. -/
theorem Pattern.test_append_query_eq_iff (p : Pattern) :
    p.test (u ++ c :: q) = p.test u ↔ Parts.QueryApart u q ∨ p.isMatchAll = true ∨ p.test u = false := by
  have hall : p.isMatchAll = true → p.test u = true := fun h => test_iff.mpr (.inl h)
  rw [test_append_query hu hc hq]
  split
  · rename_i ha
    simp [ha]
  · rename_i ha
    simp only [ha, false_or]
    constructor
    · intro he
      cases ht : p.test u with
      | true => exact .inl (he.trans ht)
      | false => exact .inr rfl
    · rintro (hm | ht)
      · rw [hm, hall hm]
      · rw [ht, ← Bool.not_eq_true]
        exact fun hm => Bool.noConfusion (ht.symm.trans (hall hm))

/-- **When a query changes no verdict**: exactly if it takes no part in the parts, or if no pattern that is asked
matches the text without it, those apart that match everything. -/
theorem append_query_verdict_iff :
    (∀ p : Pattern, p.test (u ++ c :: q) = p.test u ↔
      Parts.QueryApart u q ∨ p.isMatchAll = true ∨ p.test u = false) ∧
    ∀ rules : List Rule, evaluate rules (u ++ c :: q) = evaluate rules u ↔
      Parts.QueryApart u q ∨ ∀ r ∈ rules, r.enabled = true → r.pattern.isMatchAll = true ∨ r.pattern.test u = false := by
  refine ⟨Pattern.test_append_query_eq_iff hu hc hq, fun rules => ?_⟩
  rw [evaluate_eq_iff]
  simp only [Pattern.test_append_query_eq_iff hu hc hq]
  by_cases ha : Parts.QueryApart u q <;> simp [ha]

end Query

/-- A URL in the query of another one changes no verdict. -/
theorem evaluate_of_url_in_query :
    let u := "https://api.example.com/v2/users".toList
    let q := "next=http://me@evil.com/#top".toList
    Url.IsWritten u ∧ Parts.startsQuery '?' = true ∧ (∃ url, Url.parse (u ++ '?' :: q) = .ok url) ∧
      ∀ rules, evaluate rules (u ++ '?' :: q) = evaluate rules u := by
  intro u q
  have hparses : Url.parse u =
      .ok ⟨"https".toList, some (.domain "api.example.com".toList), none, "/v2/users".toList⟩ := by decide +kernel
  have hu : Url.IsWritten u := by
    refine ⟨⟨_, hparses⟩, ?_, ?_⟩
    all_goals
      rintro c ⟨⟩
      decide
  have hq : Url.parse (u ++ '?' :: q) =
      .ok ⟨"https".toList, some (.domain "api.example.com".toList), none, "/v2/users".toList⟩ := by decide +kernel
  exact ⟨hu, rfl, ⟨_, hq⟩, fun rules =>
    ((append_query_verdict_iff hu rfl ⟨_, hq⟩).2 rules).mpr (Or.inl (Or.inl (by decide +kernel)))⟩

/-- Without slashes, a URL in the query takes the text out of the reach of patterns. -/
theorem changed_by_query :
    let u := "http:a.com".toList
    let q := "next=http://b.com".toList
    (∃ url, Url.parse u = .ok url) ∧ (∀ c ∈ u, Parts.startsQuery c = false) ∧ u.head? = some 'h' ∧
      u.getLast? = some 'm' ∧ (∃ url, Url.parse (u ++ '?' :: q) = .ok url) ∧
      (Pattern.ofText "*://*/*".toList).test u = true ∧
      (Pattern.ofText "*://*/*".toList).test (u ++ '?' :: q) = false := by
  intro u q
  have hu : Url.parse u = .ok ⟨"http".toList, some (.domain "a.com".toList), none, "/".toList⟩ := by decide +kernel
  have hq : Url.parse (u ++ '?' :: q) = .ok ⟨"http".toList, some (.domain "a.com".toList), none, "/".toList⟩ := by
    decide +kernel
  have hno : u.all (!Parts.startsQuery ·) = true := by decide +kernel
  exact ⟨⟨_, hu⟩, by simpa using hno, rfl, rfl, ⟨_, hq⟩, by decide +kernel, by decide +kernel⟩

end WebScope
