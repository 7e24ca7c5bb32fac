import WebScope.Pattern.Matching

/-!
# Scope rules

A rule includes the URLs that its pattern matches, or excludes them, and can be switched off. A scope is a list of
rules; a rule whose pattern is not valid is kept, and reported as invalid.
Main statement: the invalid rules are the rules with a pattern that is not valid, each at its index
(`mem_invalidRules`).
-/

namespace WebScope

/-- What a rule does with the URLs it matches. -/
inductive RuleKind
  | including
  | excluding
  deriving DecidableEq, Repr

namespace RuleKind

/-- The name of a kind. -/
def name : RuleKind → Text
  | .including => "include".toList
  | .excluding => "exclude".toList

/-- The kind of a name. -/
def ofName? (s : Text) : Option RuleKind :=
  if s = name .including then some .including else if s = name .excluding then some .excluding else none

/-- A kind is read back from its name. -/
theorem ofName?_name (k : RuleKind) : ofName? k.name = some k := by cases k <;> rfl

end RuleKind

/-- **A scope rule.** -/
structure Rule where
  kind : RuleKind
  pattern : Pattern
  enabled : Bool := true
  deriving Repr, BEq

/-- **A scope**: its rules in order. -/
structure Scope where
  rules : List Rule := []
  deriving Repr, BEq

namespace Scope

/-- The rules whose patterns are not valid, with their indices. -/
def invalidRules (s : Scope) : List (Nat × Rule) :=
  (s.rules.zipIdx.filter fun (r, _) => !r.pattern.isValid).map fun (r, i) => (i, r)

/-- The scope with a rule added at the end. -/
def push (s : Scope) (r : Rule) : Scope := ⟨s.rules ++ [r]⟩

/-- **The invalid rules are those with a pattern that is not valid.** -/
theorem mem_invalidRules {s : Scope} {i : Nat} {r : Rule} :
    (i, r) ∈ s.invalidRules ↔ s.rules[i]? = some r ∧ r.pattern.isValid = false := by
  simp only [invalidRules, List.mem_map, List.mem_filter, Prod.exists, Prod.mk.injEq, List.mem_zipIdx_iff_getElem?,
    Bool.not_eq_true']
  constructor
  · rintro ⟨r', i', ⟨hm, hv⟩, rfl, rfl⟩
    exact ⟨hm, hv⟩
  · rintro ⟨hm, hv⟩
    exact ⟨r, i, ⟨hm, hv⟩, rfl, rfl⟩

end Scope
end WebScope
