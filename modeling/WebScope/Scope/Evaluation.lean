import WebScope.Scope.Rule

/-!
# Evaluating a scope

A text is in scope if a rule includes it and none excludes it. The text is read as a URL once, and all rules look at the
same parts; to a text that is no URL only the rules apply that match everything. Rules that are switched off do not
count.
Main statement: what a rule finds in the parts of a text is what its pattern finds in the text (`applies_partsOf`).
-/

namespace WebScope

/-- The parts of a text, if it is a URL. -/
def partsOf (url : Text) : Option Parts := (Parts.ofText url).toOption

/-- Whether a rule matches parts; without parts, whether it matches everything. -/
def Rule.applies (r : Rule) : Option Parts → Bool
  | some parts => r.pattern.admits parts
  | none => r.pattern.isMatchAll

/-- **How a text fares in a scope.** -/
structure Evaluation where
  inScope : Bool := false
  /-- The indices of the rules that include the text. -/
  including : List Nat := []
  /-- The indices of the rules that exclude the text. -/
  excluding : List Nat := []
  deriving DecidableEq, Repr

namespace Evaluation

/-- The evaluation behind one more rule, at the index `i`: a rule that applies is noted under its kind. -/
def note (parts : Option Parts) (e : Evaluation) : Rule × Nat → Evaluation
  | (r, i) =>
    if r.applies parts then
      match r.kind with
      | .including => { e with including := e.including ++ [i] }
      | .excluding => { e with excluding := e.excluding ++ [i] }
    else e

/-- The evaluation with its verdict. Rules that exclude win over rules that include. -/
def conclude (e : Evaluation) : Evaluation := { e with inScope := e.excluding.isEmpty && !e.including.isEmpty }

end Evaluation

/-- **Evaluates a text**: notes the rules that are switched on, one after the other. -/
def evaluate (rules : List Rule) (url : Text) : Evaluation :=
  ((rules.zipIdx.filter fun (r, _) => r.enabled).foldl (Evaluation.note (partsOf url)) {}).conclude

/-- Whether a text is in scope. -/
def isInScope (rules : List Rule) (url : Text) : Bool := (evaluate rules url).inScope

/-- **A rule applies to the parts of a text if its pattern matches the text.** -/
theorem applies_partsOf (r : Rule) (url : Text) : r.applies (partsOf url) = r.pattern.test url := by
  cases h : Parts.ofText url with
  | ok parts => simp [Rule.applies, partsOf, h, Except.toOption, Pattern.test_of_ok h]
  | error e => simp [Rule.applies, partsOf, h, Except.toOption, Pattern.test_of_error h]

end WebScope
