import WebScope.Proofs.Pattern.Meaning
import WebScope.Proofs.Scope.RuleByRule
import WebScope.Proofs.Url.PathShape

/-!
# The pattern that catches all

The pattern `*://*/*` names every protocol, every host and every path, and a rule that excludes with it is meant to put
everything out of scope. Its path is a slash and any run of characters, but runs stop at line feeds, and a line feed
stays in a path that is cut out of a text.

- What `*://*/*` says of a URL is that its protocol can be named and its path has no line feed
  (`Pattern.test_catchAll_iff`).
- **It catches exactly the URLs without a line feed in their path**, as a pattern and as a rule that excludes
  (`catchAll_catches_iff`); `catchAll_misses` is one that it misses.
-/

namespace WebScope

/-! ## One pattern -/

/-- The glob `/*` matches every path without a line feed. -/
theorem Glob.matches_anyPath_iff {t : Text} : Glob.Matches ['/', '*'] t ↔ ∃ r, t = '/' :: r ∧ '\n' ∉ r := by
  constructor
  · intro h
    cases h with
    | char _ _ h =>
      cases h with
      | run hrun h =>
        cases h
        exact ⟨_, rfl, fun hm => hrun _ (by simpa using hm) rfl⟩
      | char _ hstar => exact absurd rfl hstar
  · rintro ⟨r, rfl, hr⟩
    have hrun : Glob.Matches ['*'] (r ++ []) := .run (fun c hc he => hr (he ▸ hc)) .nil
    rw [List.append_nil] at hrun
    exact .char (by decide) (by decide) hrun

namespace Pattern

/-- **The pattern of every protocol, every host and every path.** -/
def catchAll : Pattern := ofText "*://*/*".toList

theorem reads_catchAll : Segments.Reads "*://*/*".toList [matchAll] matchAll ['/', '*'] :=
  Segments.reads_toText (Segments.lists_singleton (.inr rfl)) .any ⟨['*'], rfl, by decide⟩

/-- **What the pattern says of a URL.** -/
theorem test_catchAll_iff {u : Text} {parts : Parts} (h : Parts.ofText u = .ok parts) :
    catchAll.test u = true ↔ parts.protocol ∈ allowedProtocols ∧ ∃ r, parts.path = '/' :: r ∧ '\n' ∉ r := by
  have hcompile : ∃ r, Glob.compile ['/', '*'] = .ok r := by
    rw [Glob.compile_eq, if_neg (by decide +kernel)]
    exact ⟨_, rfl⟩
  rw [catchAll, test_iff_of_reads reads_catchAll, ← Glob.matches_anyPath_iff]
  constructor
  · rintro ⟨-, parts', hparts, hcovers⟩
    cases h.symm.trans hparts
    exact ⟨hcovers.allowed, hcovers.inLanguage⟩
  · rintro ⟨hallowed, hpath⟩
    exact ⟨hcompile, parts, h, hallowed, .inr (List.mem_singleton_self _), .inl rfl, hpath⟩

end Pattern

/-! ## A rule that excludes with it -/

/-- **A rule that excludes what a pattern matches** is among the rules. -/
def Excludes (rules : List Rule) (p : Pattern) : Prop :=
  ∃ r ∈ rules, r.enabled = true ∧ r.kind = .excluding ∧ r.pattern = p

/-- What an excluding rule matches is out of scope, whatever the other rules are, and nothing else is. -/
theorem isInScope_of_excludes_iff (p : Pattern) (u : Text) :
    (∀ rules, Excludes rules p → isInScope rules u = false) ↔ p.test u = true := by
  constructor
  · intro h
    -- With a rule that includes everything beside it, only the excluding rule can put the text out of scope.
    have hexcludes : Excludes [⟨.including, {}, true⟩, ⟨.excluding, p, true⟩] p :=
      ⟨⟨.excluding, p, true⟩, by simp, rfl, rfl, rfl⟩
    have hout := h _ hexcludes
    have hinclude : ({} : Pattern).test u = true := Pattern.test_iff.mpr (Or.inl rfl)
    rw [isInScope_eq_any] at hout
    simpa [Rule.hits, hinclude] using hout
  · rintro ht rules ⟨r, hr, hen, hk, rfl⟩
    have hhits : rules.any (·.hits .excluding u) = true :=
      List.any_eq_true.mpr ⟨r, hr, (r.hits_iff .excluding u).mpr ⟨hen, hk, ht⟩⟩
    rw [isInScope_eq_any, hhits]
    rfl

/-- **Which URLs `*://*/*` catches**: of those with a protocol that patterns can name, exactly the ones without a line
feed in the path, and exactly these are out of scope under all rules with a rule that excludes by it. A line feed in the
path is one that is written inside the text, in which `://` stands. -/
theorem catchAll_catches_iff {u : Text} {parts : Parts} (h : Parts.ofText u = .ok parts)
    (hp : parts.protocol ∈ allowedProtocols) :
    (Pattern.catchAll.test u = true ↔ '\n' ∉ parts.path) ∧
      ((∀ rules, Excludes rules Pattern.catchAll → isInScope rules u = false) ↔ '\n' ∉ parts.path) ∧
      ('\n' ∈ parts.path → Parts.mark <:+: Text.trim Url.isMargin u ∧ '\n' ∈ Text.trim Url.isMargin u) := by
  have htest : Pattern.catchAll.test u = true ↔ '\n' ∉ parts.path := by
    obtain ⟨t, ht⟩ := Parts.path_eq_cons h hp
    rw [Pattern.test_catchAll_iff h, ht]
    constructor
    · rintro ⟨-, r, hr, hn⟩
      cases hr
      simpa using hn
    · exact fun hn => ⟨hp, t, rfl, fun hm => hn (List.mem_cons_of_mem _ hm)⟩
  refine ⟨htest, ?_, Parts.lineFeed_of_mem_path h⟩
  rw [isInScope_of_excludes_iff, htest]

/-- Tabs and carriage returns in the path, and line feeds behind it, do not get a URL through. -/
theorem catchAll_catches_blanks :
    let u := "ftp://me@files.example.com:21/pub\tx\ry?a\nb".toList
    let parts : Parts := ⟨"ftp".toList, "files.example.com:21".toList, "/pub\tx\ry".toList⟩
    Parts.ofText u = .ok parts ∧ parts.protocol ∈ allowedProtocols ∧ Pattern.catchAll.test u = true ∧
      ∀ rules, Excludes rules Pattern.catchAll → isInScope rules u = false := by
  intro u parts
  have h : Parts.ofText u = .ok parts := by decide +kernel
  have hp : parts.protocol ∈ allowedProtocols := by decide +kernel
  have hn : '\n' ∉ parts.path := by decide +kernel
  obtain ⟨htest, hscope, -⟩ := catchAll_catches_iff h hp
  exact ⟨h, hp, htest.mpr hn, hscope.mpr hn⟩

/-- A line feed in the path gets a URL through, although the URL that is read has none. -/
theorem catchAll_misses :
    let u := "http://a.com/a\nb".toList
    Parts.ofText u = .ok ⟨"http".toList, "a.com".toList, "/a\nb".toList⟩ ∧ "http".toList ∈ allowedProtocols ∧
      Url.parse u = Url.parse "http://a.com/ab".toList ∧ Pattern.catchAll.test u = false ∧
      isInScope [⟨.including, .ofText matchAllUrls, true⟩, ⟨.excluding, Pattern.catchAll, true⟩] u = true := by
  intro u
  refine ⟨?_, ?_, ?_, ?_, ?_⟩
  all_goals decide +kernel

end WebScope
