import WebScope.Command.Outcome
import WebScope.Proofs.Scope.FileRuns
import WebScope.Proofs.Scope.RuleLists

/-!
# Invalid rules

A rule with a pattern that is not valid is kept in its scope. It is warned of when the scope is read, it is listed when
somebody asks for it, and it takes no part in any evaluation.

- One rule is warned of behind the warnings there are, if it is invalid (`Warning.note_eq`); so **the warnings are the
  list of invalid rules**, in its order (`Scope.warnings_eq`).
- The rules that are listed are those whose text is rejected, for every scope that can be had
  (`Scope.listsRejected_invalidRules`): their patterns have kept the record of their text.
- No invalid rule hits anything (`Rule.hits_of_not_isValid`), so none is noted (`not_mem_indices_of_invalid`).

Main statement: **invalid rules are warned of and inert** (`invalid_rules_warned_and_inert`).
-/

namespace WebScope

/-! ## Warnings -/

namespace Warning

/-- One rule is warned of behind the warnings there are, if it is invalid. -/
theorem note_eq (ws : List Warning) (r : Rule) (i : Nat) :
    note ws (r, i) = ws ++ if r.pattern.isValid then [] else [.rule i r.pattern.raw] := by
  cases h : r.pattern.isValid <;> simp [note, h]

/-- **The warnings on the way** are those of the invalid rules, in order. -/
theorem foldl_note : ∀ (l : List (Rule × Nat)) (ws : List Warning),
    l.foldl note ws =
      ws ++ (l.filter fun (r, _) => !r.pattern.isValid).map fun (r, i) => .rule i r.pattern.raw
  | [], ws => by simp
  | (r, i) :: l, ws => by
    rw [List.foldl_cons, foldl_note l, note_eq, List.append_assoc, List.filter_cons]
    cases h : r.pattern.isValid <;> simp [h]

end Warning

/-- **The warnings of a scope are its invalid rules**, in their order. -/
theorem Scope.warnings_eq (s : Scope) :
    s.warnings = s.invalidRules.map fun (i, r) => .rule i r.pattern.raw := by
  rw [warnings, Warning.foldl_note, List.nil_append, invalidRules, List.map_map]
  rfl

/-! ## What is rejected -/

/-- **A text is rejected** if it does not compile, and is not the one that needs no record. -/
def IsRejected (raw : Text) : Prop := raw ≠ matchAllUrls ∧ ∃ e, Record.compile raw = .error e

/-- A pattern that has kept the record of its text is valid unless its text is rejected. -/
theorem Pattern.isValid_eq_false_iff {p : Pattern} (h : p.compiled = compiledForm p.raw) :
    p.isValid = false ↔ IsRejected p.raw := by
  rw [isValid, Bool.or_eq_false_iff, isMatchAll, beq_eq_false_iff_ne, Option.isSome_eq_false_iff,
    Option.isNone_iff_eq_none, h, compiledForm_eq_none_iff, IsRejected]
  constructor
  · rintro ⟨hall, he⟩
    exact ⟨hall, he.resolve_left hall⟩
  · rintro ⟨hall, he⟩
    exact ⟨hall, .inr he⟩

/-- A rule that can be had is invalid if its text is rejected. -/
theorem Rule.isValid_eq_false_iff {r : Rule} (h : r.IsBuilt) :
    r.pattern.isValid = false ↔ IsRejected r.pattern.raw := by
  obtain ⟨history, hpattern⟩ := h
  exact Pattern.isValid_eq_false_iff (hpattern ▸ (Pattern.settled_pattern history).compiled)

/-- What it is for a list of indices to list the rules with a rejected text: it ascends, and it holds their indices,
whether they are switched on or not. -/
def ListsRejected (rules : List Rule) (indices : List Nat) : Prop :=
  indices.Pairwise (· < ·) ∧ ∀ i, i ∈ indices ↔ ∃ r, rules[i]? = some r ∧ IsRejected r.pattern.raw

namespace Scope

/-- The indices of the invalid rules. -/
def invalidIndices (s : Scope) : List Nat := s.invalidRules.map (·.1)

theorem mem_invalidIndices {s : Scope} {i : Nat} :
    i ∈ s.invalidIndices ↔ ∃ r, s.rules[i]? = some r ∧ r.pattern.isValid = false := by
  simp only [invalidIndices, List.mem_map, Prod.exists, mem_invalidRules]
  constructor
  · rintro ⟨_, r, hr, rfl⟩
    exact ⟨r, hr⟩
  · rintro ⟨r, hr⟩
    exact ⟨i, r, hr, rfl⟩

/-- Invalid rules are listed in the order of the rules. -/
theorem pairwise_invalidIndices (s : Scope) : s.invalidIndices.Pairwise (· < ·) := by
  have hindices : s.invalidIndices = (s.rules.zipIdx.filter fun (r, _) => !r.pattern.isValid).map (·.2) := by
    rw [invalidIndices, invalidRules, List.map_map]
    rfl
  rw [hindices]
  exact pairwise_filter_zipIdx s.rules _

/-- **The invalid rules of a scope that can be had** are those with a rejected text. -/
theorem listsRejected_invalidRules {s : Scope} (h : s.IsBuilt) : ListsRejected s.rules s.invalidIndices := by
  refine ⟨s.pairwise_invalidIndices, fun i => ?_⟩
  rw [mem_invalidIndices]
  refine exists_congr fun r => and_congr_right fun hr => ?_
  exact Rule.isValid_eq_false_iff (h r (List.mem_of_getElem? hr))

end Scope

/-! ## Evaluations -/

/-- **No invalid rule hits anything**, of either kind. -/
theorem Rule.hits_of_not_isValid {r : Rule} (h : r.pattern.isValid = false) (k : RuleKind) (url : Text) :
    r.hits k url = false := by
  rw [Rule.hits, Pattern.test_eq_false h, Bool.and_false]

/-- The index of an invalid rule is never noted. -/
theorem not_mem_indices_of_invalid {s : Scope} {i : Nat} (h : i ∈ s.invalidIndices) (k : RuleKind) (url : Text) :
    i ∉ (evaluate s.rules url).indices k := by
  obtain ⟨r, hr, hinvalid⟩ := Scope.mem_invalidIndices.mp h
  rw [mem_indices_evaluate]
  rintro ⟨r', hr', hhits⟩
  obtain rfl := Option.some.inj (hr.symm.trans hr')
  rw [Rule.hits_of_not_isValid hinvalid] at hhits
  cases hhits

/-- **Invalid rules are warned of and inert.** A scope that is read from a document is warned of with its list of invalid
rules, in that order, and the list holds the indices of the rules with a rejected text. On any run, also one that adds
rules, switches them and sets their patterns, that is what the list holds; no rule in it is ever noted, whatever the text
is, and the verdict is the same when these rules are left out. -/
theorem invalid_rules_warned_and_inert :
    (∀ {document : Text} {s : Scope}, Scope.ofToml? document = some s →
        s.warnings = s.invalidRules.map (fun (i, r) => .rule i r.pattern.raw) ∧
          ListsRejected s.rules s.invalidIndices) ∧
      ∀ {steps : List Session.Step}, (∀ step ∈ steps, step.IsBuilt) →
        let s := (Session.after steps).scope
        ListsRejected s.rules s.invalidIndices ∧
          ∀ url, (∀ i ∈ s.invalidIndices,
              i ∉ (evaluate s.rules url).including ∧ i ∉ (evaluate s.rules url).excluding) ∧
            isInScope (s.rules.filter (·.pattern.isValid)) url = isInScope s.rules url := by
  refine ⟨fun {_ s} hread => ?_, fun {steps} hsteps => ?_⟩
  · exact ⟨s.warnings_eq, Scope.listsRejected_invalidRules (Scope.isBuilt_of_ofToml? hread)⟩
  · refine ⟨Scope.listsRejected_invalidRules (Session.isBuilt_after hsteps), fun url => ⟨fun i hi => ?_, ?_⟩⟩
    · exact ⟨not_mem_indices_of_invalid hi .including url, not_mem_indices_of_invalid hi .excluding url⟩
    · exact isInScope_filter fun r _ hr k => Rule.hits_of_not_isValid hr k url

/-- Adds an invalid rule and a valid one, switches the first off, and then makes the first valid and the second invalid. -/
def Session.swap : List Session.Step :=
  [.push ⟨.including, .ofText "bogus".toList, true⟩, .push ⟨.including, .ofText "*://*/*".toList, true⟩, .enable 0 false,
    .setPattern 0 ⟨some "ftp://*/*".toList⟩, .setPattern 1 ⟨some "http://a.com".toList⟩]

/-- The rule that is invalid in the end is the second: it is the one that the document of the scope is warned of, and it no
longer includes anything. -/
theorem invalid_rules_of_swap :
    let s := (Session.after Session.swap).scope
    let url := "http://a.com/".toList
    (∀ step ∈ Session.swap, step.IsBuilt) ∧ Scope.ofToml? s.toToml = some s ∧
      s.warnings = s.invalidRules.map (fun (i, r) => .rule i r.pattern.raw) ∧ s.invalidIndices = [1] ∧
      1 ∉ (evaluate s.rules url).including ∧
      isInScope (s.rules.filter (·.pattern.isValid)) url = isInScope s.rules url := by
  intro s url
  obtain ⟨hdocument, hrun⟩ := invalid_rules_warned_and_inert
  have hswap : ∀ step ∈ Session.swap, step.IsBuilt := by
    simp only [Session.swap, List.forall_mem_cons, List.not_mem_nil, false_implies, implies_true, and_true]
    exact ⟨⟨⟨.text _, []⟩, rfl⟩, ⟨⟨.text _, []⟩, rfl⟩, trivial, trivial, trivial⟩
  have hread : Scope.ofToml? s.toToml = some s := Scope.ofToml?_toToml (Session.isBuilt_after hswap)
  have hinvalid : s.invalidIndices = [1] := by decide +kernel
  have hfirst : 1 ∈ s.invalidIndices := hinvalid ▸ List.mem_singleton_self 1
  obtain ⟨-, hinert⟩ := hrun hswap
  obtain ⟨hnot, hverdict⟩ := hinert url
  exact ⟨hswap, hread, (hdocument hread).1, hinvalid, (hnot 1 hfirst).1, hverdict⟩

end WebScope
