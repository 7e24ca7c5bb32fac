import WebScope.Proofs.Pattern.Satisfiable
import WebScope.Proofs.Scope.InvalidRules

/-!
# What warnings say

A command warns of patterns that are not valid, and a pattern that is not valid matches nothing. It is not the other way
round: the grammar takes hosts and paths that no parts have, so that a pattern can be valid and match nothing, and no
command warns of it.

- A test warns of its pattern exactly if the pattern is not valid (`warnings_test`), and a scope of its rules
  (`Scope.mem_warnings_iff`).
- The patterns that are not valid are those that match nothing, as long as what is valid can be met
  (`Pattern.invalid_iff_matches_nothing_iff`).

Main statement: **when validity and warnings tell what matches nothing** (`validity_tells_iff`).
-/

namespace WebScope

namespace Pattern

/-- **The texts of which validity tells whether they match anything**: if they are valid, they can be met. -/
def ValidityTells (raw : Text) : Prop := (ofText raw).isValid = true → IsMeetable raw

/-- The patterns that are valid are those that match something, if validity tells. -/
theorem valid_iff_matches_iff (raw : Text) :
    ((ofText raw).isValid = true ↔ ∃ u, (ofText raw).test u = true) ↔ ValidityTells raw := by
  rw [exists_test_iff, iff_self_and]
  rfl

/-- The patterns that are not valid are those that match nothing, if validity tells. -/
theorem invalid_iff_matches_nothing_iff (raw : Text) :
    ((ofText raw).isValid = false ↔ ∀ u, (ofText raw).test u = false) ↔ ValidityTells raw := by
  rw [test_eq_false_iff, iff_self_or, ← Bool.not_eq_true, not_imp_not]
  rfl

end Pattern

/-- A test warns of its pattern exactly if the pattern is not valid. -/
theorem warnings_test (raw : Text) (urls : List Text) (content : Option (Option Text)) :
    ((Command.test raw urls).run content).warnings ≠ [] ↔ (Pattern.ofText raw).isValid = false := by
  show (Pattern.ofText raw).warnings ≠ [] ↔ _
  rw [Pattern.warnings]
  cases (Pattern.ofText raw).isValid <;> simp

/-- A scope is warned of the rules that are not valid, at their indices. -/
theorem Scope.mem_warnings_iff {s : Scope} {i : Nat} {r : Rule} (hr : s.rules[i]? = some r) :
    .rule i r.pattern.raw ∈ s.warnings ↔ r.pattern.isValid = false := by
  simp only [warnings_eq, List.mem_map, Prod.exists, mem_invalidRules, Warning.rule.injEq]
  constructor
  · rintro ⟨_, r', ⟨hr', hinvalid⟩, rfl, -⟩
    obtain rfl := Option.some.inj (hr.symm.trans hr')
    exact hinvalid
  · exact fun hinvalid => ⟨i, r, ⟨hr, hinvalid⟩, rfl, rfl⟩

/-- **When validity and warnings tell what matches nothing**: exactly if what is valid can be met. Then, and only then, a
pattern is valid if it matches something, a test of it warns if it matches nothing, and so does the loading of a scope
with a rule that has it, at the index of the rule; the command for scopes passes on what the loading warns of. -/
theorem validity_tells_iff (raw : Text) :
    (((Pattern.ofText raw).isValid = true ↔ ∃ u, (Pattern.ofText raw).test u = true) ↔ Pattern.ValidityTells raw) ∧
      (∀ urls content,
        (((Command.test raw urls).run content).warnings ≠ [] ↔ ∀ u, (Pattern.ofText raw).test u = false) ↔
          Pattern.ValidityTells raw) ∧
      ∀ {content : Option (Option Text)} {s : Scope}, Scope.load content = .ok s →
        ∀ {i : Nat} {r : Rule}, s.rules[i]? = some r → r.pattern.raw = raw → ∀ file urls,
          ((Command.scope file urls).run content).warnings = s.warnings ∧
            ((.rule i raw ∈ s.warnings ↔ ∀ u, r.pattern.test u = false) ↔ Pattern.ValidityTells raw) := by
  refine ⟨Pattern.valid_iff_matches_iff raw, fun urls content => ?_, ?_⟩
  · rw [warnings_test]
    exact Pattern.invalid_iff_matches_nothing_iff raw
  · rintro content s hload i r hr rfl file urls
    constructor
    · simp only [Command.run, hload]
    · have hpattern := Rule.ofText_raw_pattern (Scope.isBuilt_of_load hload r (List.mem_of_getElem? hr))
      have htells := Pattern.invalid_iff_matches_nothing_iff r.pattern.raw
      rw [hpattern] at htells
      rw [Scope.mem_warnings_iff hr]
      exact htells

/-- A rule for what stands behind a fragment mark, and a rule that is not valid. -/
def Scope.unmet : Scope :=
  ⟨[⟨.excluding, .ofText "http://a.com/#/inbox".toList, true⟩, ⟨.including, .ofText "a.com".toList, true⟩]⟩

/-- The rule that is not valid is warned of, as it matches nothing; the other is not, although it matches nothing either.
Behind a suffix, with a port and with wildcards, something is matched. -/
theorem validity_tells_of_unmet :
    let content := some (some Scope.unmet.toToml)
    let wild := "ftp+*://*.a b:80/?*/@".toList
    Scope.load content = .ok Scope.unmet ∧
      (.rule 1 "a.com".toList ∈ Scope.unmet.warnings ↔ ∀ u, (Pattern.ofText "a.com".toList).test u = false) ∧
      ¬(.rule 0 "http://a.com/#/inbox".toList ∈ Scope.unmet.warnings ↔
        ∀ u, (Pattern.ofText "http://a.com/#/inbox".toList).test u = false) ∧
      ((Pattern.ofText wild).isValid = true ↔ ∃ u, (Pattern.ofText wild).test u = true) := by
  intro content wild
  have hbuilt : Scope.unmet.IsBuilt := by
    simp only [Scope.IsBuilt, Scope.unmet, List.forall_mem_cons, List.not_mem_nil, false_implies, implies_true, and_true]
    exact ⟨⟨⟨.text _, []⟩, rfl⟩, ⟨⟨.text _, []⟩, rfl⟩⟩
  have hload : Scope.load content = .ok Scope.unmet := Scope.load_toToml hbuilt
  have hfragment : ¬Pattern.ValidityTells "http://a.com/#/inbox".toList := by
    intro htells
    have hsegments : Segments.ofText? "http://a.com/#/inbox".toList =
        some ⟨"http".toList, "a.com".toList, "/#/inbox".toList⟩ := by decide +kernel
    exact absurd (htells (by decide +kernel) _ hsegments) (by decide +kernel)
  have hinvalid : Pattern.ValidityTells "a.com".toList := fun hvalid => absurd hvalid (by decide +kernel)
  have hwild : Pattern.ValidityTells wild := by
    intro _ s hs
    have hsegments : Segments.ofText? wild = some ⟨"ftp+*".toList, "*.a b:80".toList, "/?*/@".toList⟩ := by
      decide +kernel
    obtain rfl := Option.some.inj (hs.symm.trans hsegments)
    decide +kernel
  obtain ⟨-, -, hsecond⟩ := validity_tells_iff "a.com".toList
  obtain ⟨-, -, hfirst⟩ := validity_tells_iff "http://a.com/#/inbox".toList
  refine ⟨hload, ?_, ?_, (validity_tells_iff wild).1.mpr hwild⟩
  · exact (hsecond hload (i := 1) rfl rfl [] []).2.mpr hinvalid
  · exact mt (hfirst hload (i := 0) rfl rfl [] []).2.mp hfragment

/-- **A pattern can be valid and match nothing**, and a test does not warn of it: no remote holds user information. -/
theorem valid_and_matches_nothing :
    let raw := "http://me@a.com/*".toList
    (Pattern.ofText raw).isValid = true ∧ (∀ u, (Pattern.ofText raw).test u = false) ∧
      ((Command.test raw []).run none).warnings = [] := by
  intro raw
  have hsegments : Segments.ofText? raw = some ⟨"http".toList, "me@a.com".toList, "/*".toList⟩ := by decide +kernel
  refine ⟨by decide +kernel, (Pattern.test_eq_false_iff raw).mpr (.inr fun h => ?_), by decide +kernel⟩
  exact absurd (h _ hsegments) (by decide +kernel)

end WebScope
