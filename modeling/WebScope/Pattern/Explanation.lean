import WebScope.Pattern.Matching

/-!
# Explanations

`Pattern.explain` tells how a test went: which parts were looked at, what each stage said, and where the test ended.
A stage that was not reached has no answer.
Main statements: the verdict of the stages is that the parts are admitted (`matched_explainParts`), and the verdict of an
explanation is the one of the test (`matched_explain`).
-/

namespace WebScope

/-- **How the test of a text went.** -/
structure Explanation where
  /-- The text of the pattern. -/
  pattern : Text
  /-- Whether the pattern matches everything, so that nothing was looked at. -/
  matchAll : Bool
  /-- Whether the pattern has a record. -/
  compiled : Bool
  /-- The parts of the URL. -/
  url : Option Parts := none
  /-- Why the text is no URL. -/
  urlError : Option Url.ParseError := none
  protocol : Option Bool := none
  host : Option Bool := none
  path : Option Bool := none
  /-- The verdict. -/
  matched : Bool := false
  deriving DecidableEq, Repr

namespace Pattern

/-- The stages of a test, each of them run only if the one before it admits. -/
def explainParts (p : Pattern) (parts : Parts) : Explanation :=
  let start : Explanation := { pattern := p.raw, matchAll := false, compiled := true, url := some parts }
  if p.admitsProtocol parts.protocol then
    if p.admitsRemote parts.remote then
      let path := p.admitsPath parts.path
      { start with protocol := some true, host := some true, path := some path, matched := path }
    else { start with protocol := some true, host := some false }
  else { start with protocol := some false }

/-- **Explains the test of a text.** -/
def explain (p : Pattern) (url : Text) : Explanation :=
  if p.isMatchAll then { pattern := p.raw, matchAll := true, compiled := p.compiled.isSome, matched := true }
  else if p.compiled.isNone then { pattern := p.raw, matchAll := false, compiled := false }
  else
    match Parts.ofText url with
    | .ok parts => explainParts p parts
    | .error e => { pattern := p.raw, matchAll := false, compiled := true, urlError := some e }

/-- The verdict of the stages is that the parts are admitted. -/
theorem matched_explainParts {p : Pattern} (h : p.isMatchAll = false) (parts : Parts) :
    (p.explainParts parts).matched = p.admits parts := by
  simp only [explainParts, admits, h, Bool.false_or]
  split
  · split <;> simp_all
  · simp_all

/-- **The verdict of an explanation is the one of the test.** -/
theorem matched_explain (p : Pattern) (url : Text) : (p.explain url).matched = p.test url := by
  unfold explain test
  split
  · rfl
  · rename_i hall
    split
    · rfl
    · cases Parts.ofText url with
      | ok parts => exact matched_explainParts (by simpa using hall) parts
      | error e => rfl

end Pattern
end WebScope
