import WebScope.Proofs.Scope.RuleByRule

/-!
# Lists of rules

What becomes of an evaluation when the list of rules is edited: put together, reordered, thinned out or added to.

- Lists behind each other are evaluated on their own, the indices of the second moved behind the first
  (`indices_evaluate_append`).
- The verdict asks which rules there are, not where they stand or how often (`isInScope_of_same_rules`).
- Rules that hit nothing can be left out: the indices of the others move to their ranks (`indices_evaluate_filter`),
  which keeps their order and the rules they stand for (`rank_lt_rank`, `getElem?_filter_rank`).
- One more rule pulls the verdict to its own side only (`isInScope_insert_excluding`, `isInScope_insert_including`).

Main statement: **the algebra of rule lists** (`rule_list_algebra`).
-/

namespace WebScope

/-! ## Behind each other -/

section Append

variable (url : Text) (k : RuleKind)

/-- **Lists of rules behind each other** are evaluated on their own. -/
theorem indices_evaluate_append (rules more : List Rule) :
    (evaluate (rules ++ more) url).indices k =
      (evaluate rules url).indices k ++ ((evaluate more url).indices k).map (rules.length + ·) := by
  have hmoved : more.zipIdx (0 + rules.length) = more.zipIdx.map (Prod.map id (rules.length + ·)) := by
    rw [Nat.zero_add, List.zipIdx_eq_map_add]
    rfl
  simp only [indices_evaluate]
  rw [List.zipIdx_append, hmoved, List.filter_append, List.map_append, List.filter_map, List.map_map, List.map_map]
  rfl

theorem indices_evaluate_singleton (r : Rule) :
    (evaluate [r] url).indices k = if r.hits k url then [0] else [] := by
  rw [indices_evaluate]
  cases h : r.hits k url <;> simp [h]

/-- The first rule has the index `0`, and the indices of the others are one higher. -/
theorem indices_evaluate_cons (r : Rule) (rules : List Rule) :
    (evaluate (r :: rules) url).indices k =
      (if r.hits k url then [0] else []) ++ ((evaluate rules url).indices k).map (· + 1) := by
  rw [← List.singleton_append, indices_evaluate_append, indices_evaluate_singleton]
  simp only [List.length_singleton, Nat.add_comm 1]

end Append

/-! ## The same rules -/

/-- **The verdict asks which rules there are**, not where they stand or how often. -/
theorem isInScope_of_same_rules {rules rules' : List Rule} (h : ∀ r, r ∈ rules ↔ r ∈ rules') (url : Text) :
    isInScope rules url = isInScope rules' url := by
  rw [Bool.eq_iff_iff, isInScope, isInScope, inScope_evaluate_iff, inScope_evaluate_iff]
  simp only [h]

/-! ## Leaving rules out -/

/-- **The rank of an index**: how many of the rules before it are kept. -/
def rank (keep : Rule → Bool) (rules : List Rule) (i : Nat) : Nat := (rules.take i).countP keep

section Rank

variable {keep : Rule → Bool} {rules : List Rule}

theorem rank_cons (r : Rule) (i : Nat) :
    rank keep (r :: rules) (i + 1) = rank keep rules i + if keep r then 1 else 0 := by
  rw [rank, List.take_succ_cons, List.countP_cons, rank]

/-- Ranks are in the order of the indices of rules that are kept. -/
theorem rank_lt_rank {i j : Nat} {r : Rule} (hr : rules[i]? = some r) (hk : keep r = true) (hij : i < j) :
    rank keep rules i < rank keep rules j := by
  have hnext : rank keep rules (i + 1) = rank keep rules i + 1 := by
    rw [rank, List.take_add_one, hr, List.countP_append, rank]
    simp [hk]
  have hle : rank keep rules (i + 1) ≤ rank keep rules j :=
    (List.take_prefix_take_left (Nat.succ_le_of_lt hij)).sublist.countP_le
  omega

/-- The rule at an index is found at its rank among the rules that are kept. -/
theorem getElem?_filter_rank : ∀ {rules : List Rule} {i : Nat} {r : Rule}, rules[i]? = some r → keep r = true →
    (rules.filter keep)[rank keep rules i]? = some r
  | s :: rules, 0, r, hr, hk => by
    obtain rfl : s = r := Option.some.inj hr
    rw [List.filter_cons_of_pos hk]
    rfl
  | s :: rules, i + 1, r, hr, hk => by
    have ih : (rules.filter keep)[rank keep rules i]? = some r := getElem?_filter_rank hr hk
    rw [rank_cons]
    cases hs : keep s with
    | true => rw [List.filter_cons_of_pos hs, if_pos rfl, List.getElem?_cons_succ, ih]
    | false => rw [List.filter_cons_of_neg (by simp [hs]), if_neg Bool.false_ne_true, Nat.add_zero, ih]

end Rank

/-- **Rules that hit nothing can be left out**: the indices of the others move to their ranks. -/
theorem indices_evaluate_filter {keep : Rule → Bool} {url : Text} {k : RuleKind} : ∀ {rules : List Rule},
    (∀ r ∈ rules, keep r = false → r.hits k url = false) →
      (evaluate (rules.filter keep) url).indices k = ((evaluate rules url).indices k).map (rank keep rules)
  | [], _ => by cases k <;> rfl
  | r :: rules, h => by
    obtain ⟨hr, hrules⟩ := List.forall_mem_cons.mp h
    have ih := indices_evaluate_filter hrules
    cases hkeep : keep r with
    | true =>
      have hmoved : rank keep (r :: rules) ∘ (· + 1) = (· + 1) ∘ rank keep rules := by
        funext i
        simp [rank_cons, hkeep]
      rw [List.filter_cons_of_pos hkeep, indices_evaluate_cons, ih, indices_evaluate_cons, List.map_append,
        List.map_map, List.map_map, hmoved]
      cases r.hits k url <;> rfl
    | false =>
      have hsame : rank keep (r :: rules) ∘ (· + 1) = rank keep rules := by
        funext i
        simp [rank_cons, hkeep]
      rw [List.filter_cons_of_neg (by simp [hkeep]), ih, indices_evaluate_cons, hr hkeep, List.map_append, List.map_map,
        hsame]
      rfl

/-- Leaving out rules that hit nothing leaves the verdict as it is. -/
theorem isInScope_filter {keep : Rule → Bool} {rules : List Rule} {url : Text}
    (h : ∀ r ∈ rules, keep r = false → ∀ k, r.hits k url = false) :
    isInScope (rules.filter keep) url = isInScope rules url := by
  have hindices : ∀ k, (evaluate (rules.filter keep) url).indices k =
      ((evaluate rules url).indices k).map (rank keep rules) :=
    fun k => indices_evaluate_filter fun r hr hkeep => h r hr hkeep k
  rw [Bool.eq_iff_iff, isInScope, isInScope, inScope_evaluate_iff_indices, inScope_evaluate_iff_indices, hindices,
    hindices, ne_eq, List.map_eq_nil_iff, List.map_eq_nil_iff]

/-- A rule that is switched off hits nothing. -/
theorem Rule.hits_of_not_enabled {r : Rule} (h : r.enabled = false) (k : RuleKind) (url : Text) :
    r.hits k url = false := by
  rw [Rule.hits, h, Bool.false_and, Bool.false_and]

/-! ## One more rule -/

section Insert

variable {before after : List Rule} {r : Rule} {url : Text}

/-- A rule that excludes puts nothing in scope. -/
theorem isInScope_insert_excluding (hk : r.kind = .excluding) (h : isInScope (before ++ r :: after) url = true) :
    isInScope (before ++ after) url = true := by
  obtain ⟨hnone, r', hr', hhits⟩ := (inScope_evaluate_iff _ url).mp h
  have hmem : ∀ s, s ∈ before ++ after → s ∈ before ++ r :: after := fun s hs =>
    (List.Sublist.append_left (List.sublist_cons_self r after) before).subset hs
  refine (inScope_evaluate_iff _ url).mpr ⟨fun s hs => hnone s (hmem s hs), r', ?_, hhits⟩
  -- The rule that includes is another one.
  have hne : r' ≠ r := by
    rintro rfl
    rw [Rule.hits_iff, hk] at hhits
    cases hhits.2.1
  simpa [hne] using hr'

/-- A rule that includes puts nothing out of scope. -/
theorem isInScope_insert_including (hk : r.kind = .including) (h : isInScope (before ++ after) url = true) :
    isInScope (before ++ r :: after) url = true := by
  obtain ⟨hnone, r', hr', hhits⟩ := (inScope_evaluate_iff _ url).mp h
  refine (inScope_evaluate_iff _ url).mpr ⟨fun s hs => ?_, r', ?_, hhits⟩
  · rcases List.mem_append.mp hs with hs | hs
    · exact hnone s (List.mem_append_left _ hs)
    · rcases List.mem_cons.mp hs with rfl | hs
      · simp [Rule.hits, hk]
      · exact hnone s (List.mem_append_right _ hs)
  · exact (List.Sublist.append_left (List.sublist_cons_self r after) before).subset hr'

end Insert

/-- **The algebra of rule lists.** Of two lists behind each other, the indices are those of the first and, moved behind
them, those of the second, and a text is in scope if neither list excludes it and one of them includes it. Rules can be
reordered. Rules that are switched off can be left out: the verdict stays, and the indices move to their ranks, which
keeps their order and the rules they stand for. And one more rule, anywhere, puts nothing in scope if it excludes, and
nothing out of scope if it includes. -/
theorem rule_list_algebra (A B : List Rule) (url : Text) :
    (∀ k, (evaluate (A ++ B) url).indices k =
        (evaluate A url).indices k ++ ((evaluate B url).indices k).map (A.length + ·)) ∧
      (isInScope (A ++ B) url = true ↔
        ((evaluate A url).excluding = [] ∧ (evaluate B url).excluding = []) ∧
          ((evaluate A url).including ≠ [] ∨ (evaluate B url).including ≠ [])) ∧
      (A.Perm B → isInScope A url = isInScope B url) ∧
      (isInScope (A.filter (·.enabled)) url = isInScope A url ∧
        ∀ k, (evaluate (A.filter (·.enabled)) url).indices k =
            ((evaluate A url).indices k).map (rank (·.enabled) A) ∧
          ∀ i ∈ (evaluate A url).indices k, (A.filter (·.enabled))[rank (·.enabled) A i]? = A[i]? ∧
            ∀ j, i < j → rank (·.enabled) A i < rank (·.enabled) A j) ∧
      ∀ r : Rule,
        (r.kind = .excluding → isInScope (A ++ B) url = false → isInScope (A ++ r :: B) url = false) ∧
          (r.kind = .including → isInScope (A ++ B) url = true → isInScope (A ++ r :: B) url = true) := by
  refine ⟨fun k => indices_evaluate_append url k A B, ?_, fun h => isInScope_of_same_rules (fun _ => h.mem_iff) url,
    ⟨?_, fun k => ⟨?_, fun i hi => ?_⟩⟩, fun r => ⟨fun hk h => ?_, isInScope_insert_including⟩⟩
  · rw [isInScope, inScope_evaluate_iff_indices]
    simp only [indices_evaluate_append, List.append_eq_nil_iff, ne_eq, List.map_eq_nil_iff,
      Classical.not_and_iff_not_or_not]
    rfl
  · exact isInScope_filter fun r _ hr k => Rule.hits_of_not_enabled hr k url
  · exact indices_evaluate_filter fun r _ hr => Rule.hits_of_not_enabled hr k url
  · obtain ⟨r, hr, hhits⟩ := (mem_indices_evaluate A url k i).mp hi
    have hen : r.enabled = true := ((r.hits_iff k url).mp hhits).1
    exact ⟨by rw [hr]; exact getElem?_filter_rank hr hen, fun j hij => rank_lt_rank hr hen hij⟩
  · rw [← Bool.not_eq_true] at h ⊢
    exact fun hin => h (isInScope_insert_excluding hk hin)

/-- A rule that includes, one that is switched off, and one that excludes: behind each other in both orders, thinned out,
and with one more rule between the two lists. -/
theorem rules_edited :
    let A : List Rule := [⟨.including, .ofText "https://*.a.com/*".toList, true⟩,
      ⟨.excluding, .ofText "*://*/*".toList, false⟩, ⟨.excluding, .ofText "https://x.a.com/*".toList, true⟩]
    let B := A.reverse
    let inside := "https://b.a.com/".toList
    let outside := "https://x.a.com/".toList
    let excluding : Rule := ⟨.excluding, .ofText "ftp://*/*".toList, true⟩
    let including : Rule := ⟨.including, .ofText "https://*/*".toList, true⟩
    A.Perm B ∧ isInScope A inside = isInScope B inside ∧
      2 ∈ (evaluate A outside).indices .excluding ∧
      (A.filter (·.enabled))[rank (·.enabled) A 2]? = A[2]? ∧ rank (·.enabled) A 2 < rank (·.enabled) A 3 ∧
      isInScope (A ++ B) outside = false ∧ isInScope (A ++ excluding :: B) outside = false ∧
      isInScope (A ++ B) inside = true ∧ isInScope (A ++ including :: B) inside = true := by
  intro A B inside outside excluding including
  have hperm : A.Perm B := (List.reverse_perm A).symm
  have hmem : 2 ∈ (evaluate A outside).indices .excluding := by decide +kernel
  have hout : isInScope (A ++ B) outside = false := by decide +kernel
  have hin : isInScope (A ++ B) inside = true := by decide +kernel
  obtain ⟨-, -, hreordered, -, hinserted⟩ := rule_list_algebra A B inside
  obtain ⟨-, -, -, ⟨-, hthinned⟩, hinserted'⟩ := rule_list_algebra A B outside
  obtain ⟨hsame, hless⟩ := (hthinned .excluding).2 2 hmem
  exact ⟨hperm, hreordered hperm, hmem, hsame, hless 3 (by decide), hout, (hinserted' excluding).1 rfl hout, hin,
    (hinserted including).2 rfl hin⟩

end WebScope
