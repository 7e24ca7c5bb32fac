import WebScope.Pattern.Explanation

/-!
# Reports of tests

An explanation reports how a test went, stage by stage. Here it is said what makes a report truthful, without running
the stages: which of its fields are there, and that what is there is what the pattern says of the reported parts.

- A stage has an answer exactly if it was reached (`Explanation.Answers`), and then there is only one answer that it can
  have (`Explanation.Answers.unique`).
- So a text has one truthful report at most (`Explanation.Truthful.unique`), and explaining gives it
  (`Pattern.truthful_explain`).
- **An explanation is the truthful report, and its verdict is that of the test** (`Pattern.explain_eq_iff_truthful`).
-/

namespace WebScope
namespace Explanation

/-- **What a report says of a stage**: there is an answer exactly if the stage was reached, and it is what the stage says
of the reported parts. -/
structure Answers (reached : Prop) (url : Option Parts) (stage : Parts → Bool) (answer : Option Bool) : Prop where
  isSome_iff : answer.isSome = true ↔ reached
  eq : ∀ parts b, url = some parts → answer = some b → b = stage parts

section Answers

variable {reached : Prop} {url : Option Parts} {stage : Parts → Bool} {answer answer' : Option Bool}

theorem answers_none (h : ¬reached) : Answers reached url stage none where
  isSome_iff := by simpa using h
  eq := nofun

theorem answers_some (h : reached) (parts : Parts) : Answers reached (some parts) stage (some (stage parts)) where
  isSome_iff := by simpa using h
  eq := by
    rintro _ _ ⟨⟩ ⟨⟩
    rfl

theorem answers_ite {b : Bool} (h : b = true ↔ reached) (parts : Parts) :
    Answers reached (some parts) stage (if b then some (stage parts) else none) := by
  cases b with
  | true => exact answers_some (h.mp rfl) parts
  | false => exact answers_none fun hr => nomatch h.mpr hr

/-- **A stage has one answer at most**, if it is reached with parts only. -/
theorem Answers.unique (h : Answers reached url stage answer) (h' : Answers reached url stage answer')
    (hurl : reached → url.isSome = true) : answer = answer' := by
  by_cases hr : reached
  · obtain ⟨parts, hparts⟩ := Option.isSome_iff_exists.mp (hurl hr)
    obtain ⟨b, hb⟩ := Option.isSome_iff_exists.mp (h.isSome_iff.mpr hr)
    obtain ⟨b', hb'⟩ := Option.isSome_iff_exists.mp (h'.isSome_iff.mpr hr)
    rw [hb, hb', h.eq parts b hparts hb, h'.eq parts b' hparts hb']
  · have hnone : ∀ {a : Option Bool}, Answers reached url stage a → a = Option.none := fun ha => by
      rw [← Option.not_isSome_iff_eq_none, ha.isSome_iff]
      exact hr
    rw [hnone h, hnone h']

end Answers

/-- **A truthful report** of the test of a text. -/
structure Truthful (p : Pattern) (url : Text) (e : Explanation) : Prop where
  pattern : e.pattern = p.raw
  matchAll : e.matchAll = p.isMatchAll
  compiled : e.compiled = p.compiled.isSome
  verdict : e.matched = true ↔ e.matchAll = true ∨ e.path = some true
  /-- A pattern that matches everything, or nothing, does not look at the text. -/
  unread : e.matchAll = true ∨ e.compiled = false →
    e.url = none ∧ e.urlError = none ∧ e.protocol = none ∧ e.host = none ∧ e.path = none
  /-- Every other pattern reads it, and tells its parts or why there are none. -/
  read : e.matchAll = false → e.compiled = true → (e.url.isSome = true ↔ e.urlError = none) ∧
    (∀ parts, e.url = some parts ↔ Parts.ofText url = .ok parts) ∧
    ∀ error, e.urlError = some error ↔ Parts.ofText url = .error error
  protocol : Answers (e.url.isSome = true) e.url (fun parts => p.admitsProtocol parts.protocol) e.protocol
  host : Answers (e.protocol = some true) e.url (fun parts => p.admitsRemote parts.remote) e.host
  path : Answers (e.host = some true) e.url (fun parts => p.admitsPath parts.path) e.path

namespace Truthful

variable {p : Pattern} {url : Text} {e e' : Explanation}

/-- Stages are reached with parts only, because each of them is reached through the one before it. -/
theorem isSome_url_of_protocol (h : Truthful p url e) (hs : e.protocol = some true) : e.url.isSome = true :=
  h.protocol.isSome_iff.mp (by rw [hs]; rfl)

theorem isSome_url_of_host (h : Truthful p url e) (hs : e.host = some true) : e.url.isSome = true :=
  h.isSome_url_of_protocol (h.host.isSome_iff.mp (by rw [hs]; rfl))

/-- What was read off the text is the same in all truthful reports. -/
theorem url_unique (h : Truthful p url e) (h' : Truthful p url e') : e.url = e'.url ∧ e.urlError = e'.urlError := by
  have hall : e'.matchAll = e.matchAll := h'.matchAll.trans h.matchAll.symm
  have hcompiled : e'.compiled = e.compiled := h'.compiled.trans h.compiled.symm
  by_cases hread : e.matchAll = true ∨ e.compiled = false
  · obtain ⟨hu, he, -⟩ := h.unread hread
    obtain ⟨hu', he', -⟩ := h'.unread (by rwa [hall, hcompiled])
    exact ⟨hu.trans hu'.symm, he.trans he'.symm⟩
  · simp only [not_or, Bool.not_eq_true, Bool.not_eq_false] at hread
    obtain ⟨-, hurl, herror⟩ := h.read hread.1 hread.2
    obtain ⟨-, hurl', herror'⟩ := h'.read (hall.trans hread.1) (hcompiled.trans hread.2)
    exact ⟨Option.ext fun parts => (hurl parts).trans (hurl' parts).symm,
      Option.ext fun error => (herror error).trans (herror' error).symm⟩

/-- **A text has one truthful report at most.** -/
theorem unique (h : Truthful p url e) (h' : Truthful p url e') : e = e' := by
  obtain ⟨hurl, herror⟩ := h.url_unique h'
  have hprotocol : e.protocol = e'.protocol := by
    have hp := h'.protocol
    rw [← hurl] at hp
    exact h.protocol.unique hp id
  have hhost : e.host = e'.host := by
    have hh := h'.host
    rw [← hurl, ← hprotocol] at hh
    exact h.host.unique hh h.isSome_url_of_protocol
  have hpath : e.path = e'.path := by
    have hp := h'.path
    rw [← hurl, ← hhost] at hp
    exact h.path.unique hp h.isSome_url_of_host
  have hall : e.matchAll = e'.matchAll := h.matchAll.trans h'.matchAll.symm
  have hmatched : e.matched = e'.matched := by
    rw [Bool.eq_iff_iff, h.verdict, h'.verdict, hall, hpath]
  cases e
  cases e'
  simp only [Explanation.mk.injEq]
  exact ⟨h.pattern.trans h'.pattern.symm, hall, h.compiled.trans h'.compiled.symm, hurl, herror, hprotocol, hhost,
    hpath, hmatched⟩

end Truthful
end Explanation

namespace Pattern

open Explanation (Truthful answers_none answers_some answers_ite)

variable (p : Pattern) (url : Text)

/-- The report of the stages, with the condition for each of them. -/
theorem explainParts_eq (parts : Parts) :
    let first := p.admitsProtocol parts.protocol
    let second := p.admitsRemote parts.remote
    let third := p.admitsPath parts.path
    p.explainParts parts = ⟨p.raw, false, true, some parts, none, some first, if first then some second else none,
      if first && second then some third else none, first && second && third⟩ := by
  intro first second third
  unfold explainParts
  cases hfirst : p.admitsProtocol parts.protocol with
  | false => simp [first, hfirst]
  | true =>
    cases hsecond : p.admitsRemote parts.remote with
    | false => simp [first, second, hfirst, hsecond]
    | true => simp [first, second, third, hfirst, hsecond]

/-- The report of the stages is truthful. -/
theorem truthful_explainParts {parts : Parts} (ha : p.isMatchAll = false) (hc : p.compiled.isSome = true)
    (hu : Parts.ofText url = .ok parts) : Truthful p url (p.explainParts parts) := by
  rw [explainParts_eq]
  exact
    { pattern := rfl
      matchAll := ha.symm
      compiled := hc.symm
      verdict := by simp [and_assoc]
      unread := by simp
      read := by simp [hu]
      protocol := answers_some rfl parts
      host := answers_ite (by simp) parts
      path := answers_ite (by simp) parts }

/-- A report without parts is truthful, if it tells why there are none when the text was read. -/
theorem truthful_of_no_parts (error : Option Url.ParseError)
    (hunread : p.isMatchAll = true ∨ p.compiled.isSome = false → error = none)
    (hread : p.isMatchAll = false → p.compiled.isSome = true → ∃ r, error = some r ∧ Parts.ofText url = .error r) :
    Truthful p url ⟨p.raw, p.isMatchAll, p.compiled.isSome, none, error, none, none, none, p.isMatchAll⟩ where
  pattern := rfl
  matchAll := rfl
  compiled := rfl
  verdict := by simp
  unread h := ⟨rfl, hunread h, rfl, rfl, rfl⟩
  read ha hc := by
    obtain ⟨r, rfl, hr⟩ := hread ha hc
    simp [hr]
  protocol := answers_none (by simp)
  host := answers_none (by simp)
  path := answers_none (by simp)

/-- **Explaining gives a truthful report.** -/
theorem truthful_explain : Truthful p url (p.explain url) := by
  unfold explain
  cases ha : p.isMatchAll with
  | true =>
    have h := truthful_of_no_parts p url none (fun _ => rfl) (by simp [ha])
    rwa [ha] at h
  | false =>
    cases hc : p.compiled with
    | none =>
      have h := truthful_of_no_parts p url none (fun _ => rfl) (by simp [hc])
      rwa [ha, hc] at h
    | some r =>
      cases hu : Parts.ofText url with
      | ok parts => exact truthful_explainParts p url ha (by rw [hc]; rfl) hu
      | error error =>
        have h := truthful_of_no_parts p url (some error) (by simp [ha, hc]) fun _ _ => ⟨error, rfl, hu⟩
        rwa [ha, hc] at h

/-- **An explanation is the truthful report, and its verdict is that of the test**, whatever the pattern and the text. -/
theorem explain_eq_iff_truthful :
    (p.explain url).matched = p.test url ∧ ∀ e, p.explain url = e ↔ Truthful p url e := by
  refine ⟨matched_explain p url, fun e => ⟨?_, ?_⟩⟩
  · rintro rfl
    exact truthful_explain p url
  · exact (truthful_explain p url).unique

end Pattern
end WebScope
