import WebScope.Proofs.Pattern.Meaning
import WebScope.Proofs.Scope.RuleByRule
import WebScope.Proofs.Scope.TomlRoundTrip

/-!
# Lists of protocols

A pattern can list protocols, joined by `+`. Each is an alternative of its own, and `*` stands for all protocols that can
be named.

- What a pattern text covers, it covers by one of its protocols (`covers_iff_exists`, `covers_any_iff`); so **a pattern
  matches what the patterns with one of its protocols match** (`test_eq_any_of_reads`).
- A rule hits what the rules with one of its protocols hit (`Rule.hits_eq_any`).

Main statement: `+` is union, for patterns and for the rules of a scope (`union_of_protocols`).
-/

namespace WebScope

open Segments (Lists HostForm PathForm Reads)

/-! ## Patterns that list protocols -/

namespace Pattern

variable {ps : List Text} {host path : Text}

/-- What is covered is covered by one of the protocols. -/
theorem covers_iff_exists {parts : Parts} : Covers ps host path parts ↔ ∃ p ∈ ps, Covers [p] host path parts := by
  constructor
  · rintro ⟨hallowed, hlisted | hlisted, hremote, hpath⟩
    · exact ⟨_, hlisted, hallowed, .inl (List.mem_singleton_self _), hremote, hpath⟩
    · exact ⟨_, hlisted, hallowed, .inr (List.mem_singleton_self _), hremote, hpath⟩
  · rintro ⟨p, hp, hallowed, hlisted, hremote, hpath⟩
    refine ⟨hallowed, hlisted.imp ?_ ?_, hremote, hpath⟩
    · exact fun h => List.mem_singleton.mp h ▸ hp
    · exact fun h => List.mem_singleton.mp h ▸ hp

/-- `*` stands for the protocols that can be named. -/
theorem covers_any_iff {parts : Parts} :
    Covers [matchAll] host path parts ↔ Covers allowedProtocols host path parts := by
  constructor
  · rintro ⟨hallowed, -, hremote, hpath⟩
    exact ⟨hallowed, .inl hallowed, hremote, hpath⟩
  · rintro ⟨hallowed, -, hremote, hpath⟩
    exact ⟨hallowed, .inr (List.mem_singleton_self _), hremote, hpath⟩

/-- **A pattern matches what the patterns with one of its protocols match.** -/
theorem test_eq_any_of_reads {raw : Text} (h : Reads raw ps host path) (url : Text) :
    (ofText raw).test url = ps.any fun p => (ofText (Segments.toText ⟨p, host, path⟩)).test url := by
  have hone : ∀ p ∈ ps, Reads (Segments.toText ⟨p, host, path⟩) [p] host path := fun p hp =>
    Segments.reads_toText (Segments.lists_singleton (h.named p hp)) h.hostForm h.pathForm
  rw [Bool.eq_iff_iff, List.any_eq_true, test_iff_of_reads h]
  constructor
  · rintro ⟨hfits, parts, hparts, hcovers⟩
    obtain ⟨p, hp, hcovers⟩ := covers_iff_exists.mp hcovers
    exact ⟨p, hp, (test_iff_of_reads (hone p hp) url).mpr ⟨hfits, parts, hparts, hcovers⟩⟩
  · rintro ⟨p, hp, htest⟩
    obtain ⟨hfits, parts, hparts, hcovers⟩ := (test_iff_of_reads (hone p hp) url).mp htest
    exact ⟨hfits, parts, hparts, covers_iff_exists.mpr ⟨p, hp, hcovers⟩⟩

end Pattern

/-! ## Rules that list protocols -/

/-- **A rule for each protocol**, with one host and one path; kind and switch are those of the rule. -/
def Rule.perProtocol (r : Rule) (protocols : List Text) (host path : Text) : List Rule :=
  protocols.map fun p => { r with pattern := .ofText (Segments.toText ⟨p, host, path⟩) }

/-- A rule hits what the rules for its protocols hit, in whatever order and however often these are listed. -/
theorem Rule.hits_eq_any {r : Rule} (hbuilt : r.IsBuilt) {ps qs : List Text} {host path : Text}
    (hreads : Reads r.pattern.raw ps host path) (hqs : ∀ p, p ∈ qs ↔ p ∈ ps) (kind : RuleKind) (url : Text) :
    r.hits kind url = (r.perProtocol qs host path).any (·.hits kind url) := by
  have htest : r.pattern.test url = true ↔
      ∃ p ∈ qs, (Pattern.ofText (Segments.toText ⟨p, host, path⟩)).test url = true := by
    rw [← Rule.ofText_raw_pattern hbuilt, Pattern.test_eq_any_of_reads hreads, List.any_eq_true]
    simp only [hqs]
  rw [Bool.eq_iff_iff, perProtocol, List.any_map, List.any_eq_true, hits_iff, htest]
  simp only [Function.comp_apply, hits_iff]
  constructor
  · rintro ⟨henabled, hkind, p, hp, h⟩
    exact ⟨p, hp, henabled, hkind, h⟩
  · rintro ⟨p, hp, henabled, hkind, h⟩
    exact ⟨henabled, hkind, p, hp, h⟩

/-- **`+` is union.** With one host and one path: a pattern with the protocols of two lists matches what a pattern with
either list matches; `*` matches what all four protocols together match; and a rule can be replaced, at any place among
others, by a rule for each of its protocols. -/
theorem union_of_protocols {host path : Text} (hhost : HostForm host) (hpath : PathForm path) :
    (∀ {ps qs : List Text} {s t : Text}, Lists ps s → Lists qs t → ∀ url,
        (Pattern.ofText (Segments.toText ⟨s ++ protocolDelimiter :: t, host, path⟩)).test url =
          ((Pattern.ofText (Segments.toText ⟨s, host, path⟩)).test url ||
            (Pattern.ofText (Segments.toText ⟨t, host, path⟩)).test url)) ∧
      (∀ url, (Pattern.ofText (Segments.toText ⟨matchAll, host, path⟩)).test url =
        (Pattern.ofText (Segments.toText ⟨"http+https+file+ftp".toList, host, path⟩)).test url) ∧
      ∀ (before after : List Rule) {r : Rule} {ps qs : List Text}, r.IsBuilt → Reads r.pattern.raw ps host path →
        (∀ p, p ∈ qs ↔ p ∈ ps) → ∀ url,
          isInScope (before ++ r :: after) url = isInScope (before ++ r.perProtocol qs host path ++ after) url := by
  refine ⟨fun hs ht url => ?_, fun url => ?_, fun before after r ps qs hbuilt hreads hqs url => ?_⟩
  · rw [Pattern.test_eq_any_of_reads (Segments.reads_toText (hs.append ht) hhost hpath),
      Pattern.test_eq_any_of_reads (Segments.reads_toText hs hhost hpath),
      Pattern.test_eq_any_of_reads (Segments.reads_toText ht hhost hpath), List.any_append]
  · have hany : Lists [matchAll] matchAll := Segments.lists_singleton (.inr rfl)
    have hfour : Lists allowedProtocols "http+https+file+ftp".toList := ⟨by decide, fun _ hp => .inl hp, by decide⟩
    rw [Bool.eq_iff_iff, Pattern.test_iff_of_reads (Segments.reads_toText hany hhost hpath),
      Pattern.test_iff_of_reads (Segments.reads_toText hfour hhost hpath)]
    simp only [Pattern.covers_any_iff]
  · have hhits : ∀ kind, r.hits kind url = (r.perProtocol qs host path).any (·.hits kind url) := fun kind =>
      Rule.hits_eq_any hbuilt hreads hqs kind url
    simp only [isInScope_eq_any, List.any_append, List.any_cons, hhits, Bool.or_assoc]

/-- A rule that lists `http` twice, and `*`. -/
def Rule.repetitive : Rule := ⟨.excluding, .ofText "http+*+http://*.a.com:80/x*".toList, true⟩

/-- Its list can be cut before `ftp`, if that stands behind it; and between two other rules, two rules do for it. -/
theorem union_of_repetitive :
    HostForm "*.a.com:80".toList ∧ PathForm "/x*".toList ∧
      Lists ["http".toList, matchAll, "http".toList] "http+*+http".toList ∧ Lists ["ftp".toList] "ftp".toList ∧
      ((Pattern.ofText "http+*+http+ftp://*.a.com:80/x*".toList).test "file://b.a.com:80/x".toList =
        ((Pattern.ofText "http+*+http://*.a.com:80/x*".toList).test "file://b.a.com:80/x".toList ||
          (Pattern.ofText "ftp://*.a.com:80/x*".toList).test "file://b.a.com:80/x".toList)) ∧
      Rule.repetitive.IsBuilt ∧
      Reads Rule.repetitive.pattern.raw ["http".toList, matchAll, "http".toList] "*.a.com:80".toList "/x*".toList ∧
      (∀ p, p ∈ [matchAll, "http".toList] ↔ p ∈ ["http".toList, matchAll, "http".toList]) ∧
      isInScope ([⟨.including, {}, true⟩] ++ Rule.repetitive :: [⟨.including, {}, false⟩]) "ftp://b.a.com:80/x".toList =
        isInScope ([⟨.including, {}, true⟩] ++
          Rule.repetitive.perProtocol [matchAll, "http".toList] "*.a.com:80".toList "/x*".toList ++
            [⟨.including, {}, false⟩]) "ftp://b.a.com:80/x".toList := by
  have hhost : HostForm "*.a.com:80".toList := .below ⟨by decide, by decide, by decide⟩
  have hpath : PathForm "/x*".toList := ⟨"x*".toList, by decide, by decide⟩
  have hs : Lists ["http".toList, matchAll, "http".toList] "http+*+http".toList :=
    ⟨by decide, by decide, by decide⟩
  have ht : Lists ["ftp".toList] "ftp".toList := Segments.lists_singleton (.inl (by decide))
  have hbuilt : Rule.repetitive.IsBuilt := ⟨⟨.text _, []⟩, rfl⟩
  have hreads := Segments.reads_toText hs hhost hpath
  have hsame : ∀ p, p ∈ [matchAll, "http".toList] ↔ p ∈ ["http".toList, matchAll, "http".toList] := by
    simp [or_comm]
  obtain ⟨hunion, -, hreplace⟩ := union_of_protocols hhost hpath
  exact ⟨hhost, hpath, hs, ht, hunion hs ht _, hbuilt, hreads, hsame, hreplace _ _ hbuilt hreads hsame _⟩

end WebScope
