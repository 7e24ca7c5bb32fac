import WebScope.Scope.Evaluation

/-!
# A scope, rule by rule

`evaluate` reads a text as a URL once, and every rule looks at the parts it found. Here the outcome is described by
testing each rule on its own (`Rule.hits`), whether the text is a URL or not.

- One rule is noted at the end of its kind, if it applies (`indices_note`); so the rules noted on the way are those
  that apply, in order (`indices_foldl_note`).
- The indices of a kind are the rules of that kind that hit the text (`indices_evaluate`, `mem_indices_evaluate`), in
  ascending order (`pairwise_indices_evaluate`); so texts fare alike if and only if the patterns match them alike
  (`evaluate_eq_iff`).
- **Rule by rule**: both lists and the verdict are what the tests of the single rules make them
  (`evaluate_rule_by_rule`).
-/

namespace WebScope

namespace Evaluation

/-- The indices noted under a kind. -/
def indices (e : Evaluation) : RuleKind → List Nat
  | .including => e.including
  | .excluding => e.excluding

/-- One rule is noted at the end of its kind, if it applies. -/
theorem indices_note (parts : Option Parts) (e : Evaluation) (r : Rule) (i : Nat) (k : RuleKind) :
    (e.note parts (r, i)).indices k = e.indices k ++ if r.kind = k ∧ r.applies parts = true then [i] else [] := by
  unfold note
  by_cases ha : r.applies parts = true
  · cases hr : r.kind <;> cases k <;> simp [ha, hr, indices]
  · simp [ha]

/-- **The rules noted on the way** are those of the kind that apply, in order. -/
theorem indices_foldl_note (parts : Option Parts) (k : RuleKind) : ∀ (l : List (Rule × Nat)) (e : Evaluation),
    (l.foldl (note parts) e).indices k =
      e.indices k ++ (l.filter fun (r, _) => r.kind == k && r.applies parts).map (·.2)
  | [], e => by simp
  | (r, i) :: l, e => by
    rw [List.foldl_cons, indices_foldl_note parts k l, indices_note, List.filter_cons, List.append_assoc]
    by_cases h : r.kind = k ∧ r.applies parts = true
    · rw [if_pos h, if_pos (by simpa using h)]
      rfl
    · rw [if_neg h, if_neg (by simpa using h)]
      rfl

/-- The verdict leaves the indices alone. -/
theorem indices_conclude (e : Evaluation) (k : RuleKind) : e.conclude.indices k = e.indices k := by
  cases k <;> rfl

/-- The verdict: something includes, nothing excludes. -/
theorem inScope_conclude_iff (e : Evaluation) :
    e.conclude.inScope = true ↔ e.indices .excluding = [] ∧ e.indices .including ≠ [] := by
  show (e.excluding.isEmpty && !e.including.isEmpty) = true ↔ _
  simp [indices]

end Evaluation

/-- **Whether a rule hits a text**: it is switched on, of the kind, and its pattern matches the text. -/
def Rule.hits (r : Rule) (kind : RuleKind) (url : Text) : Bool := r.enabled && r.kind == kind && r.pattern.test url

/-- The three conditions under which a rule hits a text. -/
theorem Rule.hits_iff (r : Rule) (kind : RuleKind) (url : Text) :
    r.hits kind url = true ↔ r.enabled = true ∧ r.kind = kind ∧ r.pattern.test url = true := by
  simp [Rule.hits, and_assoc]

section Evaluate

variable (rules : List Rule) (url : Text)

/-- The indices of a kind are those of the rules that hit the text. -/
theorem indices_evaluate (k : RuleKind) :
    (evaluate rules url).indices k = (rules.zipIdx.filter fun (r, _) => r.hits k url).map (·.2) := by
  unfold evaluate
  rw [Evaluation.indices_conclude, Evaluation.indices_foldl_note, List.filter_filter]
  have hnone : (({} : Evaluation).indices k) = [] := by cases k <;> rfl
  rw [hnone, List.nil_append]
  congr 2
  funext ⟨r, i⟩
  simp only [applies_partsOf, Rule.hits]
  rw [Bool.and_comm, Bool.and_assoc]

/-- An index is noted if and only if the rule there hits the text. -/
theorem mem_indices_evaluate (k : RuleKind) (i : Nat) :
    i ∈ (evaluate rules url).indices k ↔ ∃ r, rules[i]? = some r ∧ r.hits k url = true := by
  rw [indices_evaluate]
  simp only [List.mem_map, List.mem_filter, Prod.exists, List.mem_zipIdx_iff_getElem?]
  constructor
  · rintro ⟨r, j, ⟨hr, hh⟩, rfl⟩
    exact ⟨r, hr, hh⟩
  · rintro ⟨r, hr, hh⟩
    exact ⟨r, i, ⟨hr, hh⟩, rfl⟩

/-- Indices that are picked from those of all rules ascend. -/
theorem pairwise_filter_zipIdx (p : Rule × Nat → Bool) : ((rules.zipIdx.filter p).map (·.2)).Pairwise (· < ·) := by
  refine List.Pairwise.sublist (List.filter_sublist.map Prod.snd) ?_
  rw [List.zipIdx_map_snd]
  exact List.pairwise_lt_range'

/-- The indices are noted in ascending order. -/
theorem pairwise_indices_evaluate (k : RuleKind) : ((evaluate rules url).indices k).Pairwise (· < ·) := by
  rw [indices_evaluate]
  exact pairwise_filter_zipIdx rules _

/-- No rule of a kind is noted if and only if none hits the text. -/
theorem indices_evaluate_eq_nil_iff (k : RuleKind) :
    (evaluate rules url).indices k = [] ↔ ∀ r ∈ rules, r.hits k url = false := by
  rw [List.eq_nil_iff_forall_not_mem]
  simp only [mem_indices_evaluate, not_exists, not_and, Bool.not_eq_true]
  constructor
  · intro h r hr
    obtain ⟨i, hi⟩ := List.mem_iff_getElem?.mp hr
    exact h i r hi
  · intro h i r hi
    exact h r (List.mem_of_getElem? hi)

/-- The verdict, read off the indices. -/
theorem inScope_evaluate_iff_indices :
    (evaluate rules url).inScope = true ↔
      (evaluate rules url).indices .excluding = [] ∧ (evaluate rules url).indices .including ≠ [] := by
  unfold evaluate
  rw [Evaluation.inScope_conclude_iff, Evaluation.indices_conclude, Evaluation.indices_conclude]

/-- **The verdict**: no rule that excludes hits the text, and a rule that includes does. -/
theorem inScope_evaluate_iff :
    (evaluate rules url).inScope = true ↔
      (∀ r ∈ rules, r.hits .excluding url = false) ∧ ∃ r ∈ rules, r.hits .including url = true := by
  rw [inScope_evaluate_iff_indices, ne_eq, indices_evaluate_eq_nil_iff, indices_evaluate_eq_nil_iff]
  simp

/-- The verdict as a computation over all rules. -/
theorem isInScope_eq_any :
    isInScope rules url = (!rules.any (·.hits .excluding url) && rules.any (·.hits .including url)) := by
  rw [Bool.eq_iff_iff, isInScope, inScope_evaluate_iff]
  simp

end Evaluate

/-- The index of a rule that is switched on is noted if its pattern matches. -/
theorem mem_indices_evaluate_of_getElem? {rules : List Rule} {i : Nat} {r : Rule} (hr : rules[i]? = some r)
    (hen : r.enabled = true) (url : Text) :
    i ∈ (evaluate rules url).indices r.kind ↔ r.pattern.test url = true := by
  rw [mem_indices_evaluate, hr]
  simp [Rule.hits_iff, hen]

/-- **Texts fare alike** if and only if the patterns of the rules that are switched on match them alike. -/
theorem evaluate_eq_iff {rules : List Rule} {url url' : Text} : evaluate rules url = evaluate rules url' ↔
    ∀ r ∈ rules, r.enabled = true → r.pattern.test url = r.pattern.test url' := by
  constructor
  · intro h r hr hen
    obtain ⟨i, hi⟩ := List.mem_iff_getElem?.mp hr
    rw [Bool.eq_iff_iff, ← mem_indices_evaluate_of_getElem? hi hen, ← mem_indices_evaluate_of_getElem? hi hen, h]
  · intro h
    have hhits : ∀ r ∈ rules, ∀ k, r.hits k url = r.hits k url' := by
      intro r hr k
      cases hen : r.enabled with
      | false => simp [Rule.hits, hen]
      | true => simp only [Rule.hits, h r hr hen]
    have hindices : ∀ k, (evaluate rules url).indices k = (evaluate rules url').indices k := by
      intro k
      rw [indices_evaluate, indices_evaluate]
      congr 1
      refine List.filter_congr fun ri hri => ?_
      exact hhits ri.1 (List.fst_mem_of_mem_zipIdx hri) k
    have hin : (evaluate rules url).including = (evaluate rules url').including := hindices .including
    have hex : (evaluate rules url).excluding = (evaluate rules url').excluding := hindices .excluding
    have hverdict : ∀ t, evaluate rules t =
        ⟨(evaluate rules t).excluding.isEmpty && !(evaluate rules t).including.isEmpty,
          (evaluate rules t).including, (evaluate rules t).excluding⟩ := fun _ => rfl
    rw [hverdict url, hin, hex]
    exact (hverdict url').symm

/-- What it is for a list of indices to list the rules that hit a text: it ascends, and it holds their indices. -/
def ListsHits (rules : List Rule) (kind : RuleKind) (url : Text) (indices : List Nat) : Prop :=
  indices.Pairwise (· < ·) ∧ ∀ i, i ∈ indices ↔
    ∃ r, rules[i]? = some r ∧ r.enabled = true ∧ r.kind = kind ∧ r.pattern.test url = true

/-- **Rule by rule**: whatever the rules and the text, the evaluation lists the rules that hit the text when each is
tested on its own, and the text is in scope if none of them excludes it and one includes it. -/
theorem evaluate_rule_by_rule (rules : List Rule) (url : Text) :
    ListsHits rules .including url (evaluate rules url).including ∧
      ListsHits rules .excluding url (evaluate rules url).excluding ∧
      ((evaluate rules url).inScope = true ↔
        (∀ r ∈ rules, r.enabled = true → r.kind = .excluding → r.pattern.test url = false) ∧
          ∃ r ∈ rules, r.enabled = true ∧ r.kind = .including ∧ r.pattern.test url = true) := by
  have hlists : ∀ k, ListsHits rules k url ((evaluate rules url).indices k) := fun k =>
    ⟨pairwise_indices_evaluate rules url k, fun i => by simp only [mem_indices_evaluate, Rule.hits_iff]⟩
  refine ⟨hlists .including, hlists .excluding, ?_⟩
  simp only [inScope_evaluate_iff, Rule.hits_iff, ← Bool.not_eq_true, not_and]

end WebScope
