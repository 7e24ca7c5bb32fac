import WebScope.Proofs.Pattern.Meaning
import WebScope.Proofs.Url.PathShape
import WebScope.Proofs.Url.Remote

/-!
# Schemes and protocols

A URL is read with the scheme before the first colon of its text; its parts have the protocol before the first `://`. The
two are looked for on their own, and can be different texts: the scheme is brought to small letters and loses the tabs and
line breaks in it, and the first mark can stand far behind the scheme.

- Before a mark with no colon before it stands the scheme (`Parts.scheme_eq_of_mark`).
- So **a protocol that patterns can name is the scheme** (`Parts.scheme_eq_protocol`), because it has no colon, no capital
  letter and nothing that is dropped (`Segments.lower_filter_of_allowed`).

Main statement: no pattern takes one scheme for another (`no_scheme_confusion`).
-/

namespace WebScope

/-- The protocols that patterns can name are read as they are written. -/
theorem Segments.lower_filter_of_allowed {p : Text} (h : p ∈ allowedProtocols) :
    Text.lower (p.filter (!Url.isDropped ·)) = p := by
  simp only [allowedProtocols, List.mem_cons, List.not_mem_nil, or_false] at h
  rcases h with rfl | rfl | rfl | rfl <;> decide

namespace Parts

variable {input : Text}

/-- **Before a mark with no colon before it stands the scheme**, in any letters and with characters that are dropped. -/
theorem scheme_eq_of_mark {written rest : Text} {url : Url}
    (hs : Text.trim Url.isMargin input = written ++ mark ++ rest) (hc : ':' ∉ written) (hu : Url.parse input = .ok url) :
    url.scheme = Text.lower (written.filter (!Url.isDropped ·)) := by
  obtain ⟨behind, hscheme⟩ := Url.scheme_of_parse hu
  rw [significant_of_mark hs] at hscheme
  obtain ⟨c, name, he, hletter, hname, hlower⟩ := Url.scheme?_eq_some_iff.mp hscheme
  have hnot : ':' ∉ written.filter (!Url.isDropped ·) := fun hm => hc (List.mem_filter.mp hm).1
  obtain ⟨hsame, -⟩ := Text.append_cons_inj hnot (Url.not_mem_scheme hletter hname) he
  rw [hlower, hsame]

/-- **A protocol that patterns can name is the scheme.** -/
theorem scheme_eq_protocol {parts : Parts} (h : ofText input = .ok parts) (hp : parts.protocol ∈ allowedProtocols) :
    ∃ url, Url.parse input = .ok url ∧ url.scheme = parts.protocol := by
  obtain ⟨url, hu, rfl⟩ := ofText_eq_ok_iff.mp h
  refine ⟨url, hu, ?_⟩
  cases hw : written? (Text.trim Url.isMargin input) with
  | none => rfl
  | some p =>
    rw [hw] at hp
    have hcolon : ':' ∉ p.protocol := (Segments.not_mem_of_named (.inl hp)).1
    obtain ⟨authority, path, query, hs, -, -⟩ := eq_of_written? hw
    rw [List.append_assoc, List.append_assoc] at hs
    rw [scheme_eq_of_mark hs hcolon hu]
    exact Segments.lower_filter_of_allowed hp

/-- **The first mark of a text stands right behind its scheme**, and the scheme is written as it is read. -/
def MarksScheme (input : Text) (url : Url) : Prop :=
  ∃ rest, Text.cutMark? mark (Text.trim Url.isMargin input) = some (url.scheme, rest)

/-- If the protocol of a text with a mark can be named, its first mark stands right behind its scheme. -/
theorem marksScheme_of_allowed {parts : Parts} {url : Url} (hm : mark <:+: Text.trim Url.isMargin input)
    (h : ofText input = .ok parts) (hp : parts.protocol ∈ allowedProtocols) (hu : Url.parse input = .ok url) :
    MarksScheme input url := by
  obtain ⟨url', hu', hscheme⟩ := scheme_eq_protocol h hp
  obtain rfl := Except.ok.inj (hu.symm.trans hu')
  obtain ⟨url', -, hparts⟩ := ofText_eq_ok_iff.mp h
  have hcut : Text.cutMark? mark (Text.trim Url.isMargin input) ≠ none := by
    rw [ne_eq, Text.cutMark?_eq_none_iff, not_not]
    exact hm
  obtain ⟨⟨written, rest⟩, hcut⟩ := Option.ne_none_iff_exists'.mp hcut
  have hprotocol : parts.protocol = written := by
    rw [hparts, written?, hcut]
    rfl
  refine ⟨rest, ?_⟩
  rw [hscheme, hprotocol, hcut]

end Parts

namespace Pattern

/-- A pattern that matches a text, and not every text, names the protocol of its parts. -/
theorem names_of_test {p : Pattern} {u : Text} (ha : p.isMatchAll = false) (ht : p.test u = true) :
    ∃ parts, Parts.ofText u = .ok parts ∧ parts.protocol ∈ allowedProtocols ∧
      (parts.protocol ∈ p.protocols ∨ matchAll ∈ p.protocols) := by
  rcases test_iff.mp ht with hall | ⟨parts, hparts, hadmits⟩
  · rw [ha] at hall
    cases hall
  · simp only [admits, ha, Bool.false_or, Bool.and_eq_true] at hadmits
    obtain ⟨r, hr, hallowed, hnamed⟩ := admitsProtocol_iff.mp hadmits.1.1
    refine ⟨parts, hparts, hallowed, ?_⟩
    rw [protocols, hr]
    exact hnamed

end Pattern

/-- **No pattern takes one scheme for another.** Of every text, a protocol that patterns can name is the scheme that the
URL is read with. So what a pattern matches, if it does not match everything, is a URL with a scheme that the pattern
names or that its `*` stands for; and if the first mark does not stand right behind the scheme, no such pattern matches. -/
theorem no_scheme_confusion (u : Text) :
    (∀ parts, Parts.ofText u = .ok parts → parts.protocol ∈ allowedProtocols →
        ∃ url, Url.parse u = .ok url ∧ url.scheme = parts.protocol) ∧
      ∀ p : Pattern, p.isMatchAll = false →
        (p.test u = true → ∃ url, Url.parse u = .ok url ∧ url.scheme ∈ allowedProtocols ∧
          (url.scheme ∈ p.protocols ∨ matchAll ∈ p.protocols)) ∧
        (Parts.mark <:+: Text.trim Url.isMargin u → (∀ url, Url.parse u = .ok url → ¬Parts.MarksScheme u url) →
          p.test u = false) := by
  refine ⟨fun parts => Parts.scheme_eq_protocol, fun p ha => ⟨fun ht => ?_, fun hm hnot => ?_⟩⟩
  · obtain ⟨parts, hparts, hallowed, hnamed⟩ := Pattern.names_of_test ha ht
    obtain ⟨url, hu, hscheme⟩ := Parts.scheme_eq_protocol hparts hallowed
    rw [← hscheme] at hallowed hnamed
    exact ⟨url, hu, hallowed, hnamed⟩
  · rw [← Bool.not_eq_true]
    intro ht
    obtain ⟨parts, hparts, hallowed, -⟩ := Pattern.names_of_test ha ht
    obtain ⟨url, hu, -⟩ := Parts.scheme_eq_protocol hparts hallowed
    exact hnot url hu (Parts.marksScheme_of_allowed hm hparts hallowed hu)

/-- A mark in the query takes a URL with one slash out of the reach of all patterns that list its scheme; with a mark of
its own the URL is matched by its scheme, whatever the query says. -/
theorem no_scheme_confusion_of_query_mark :
    let hidden := "http:/a.com/?next=ftp://b.com/".toList
    let plain := " ftp://me@a.com:21/?next=http://b.com/".toList
    (∀ p : Pattern, p.isMatchAll = false → p.test hidden = false) ∧
      (Pattern.ofText "http+ftp://a.com:21/*".toList).test plain = true ∧
      ∃ url, Url.parse plain = .ok url ∧ url.scheme ∈ allowedProtocols ∧
        (url.scheme ∈ (Pattern.ofText "http+ftp://a.com:21/*".toList).protocols ∨
          matchAll ∈ (Pattern.ofText "http+ftp://a.com:21/*".toList).protocols) := by
  intro hidden plain
  have hu : Url.parse hidden = .ok ⟨"http".toList, some (.domain "a.com".toList), none, "/".toList⟩ := by decide +kernel
  have hcut : Text.cutMark? Parts.mark (Text.trim Url.isMargin hidden) =
      some ("http:/a.com/?next=ftp".toList, "b.com/".toList) := by decide +kernel
  have hmark : Parts.mark <:+: Text.trim Url.isMargin hidden := by decide +kernel
  have hnot : ∀ url, Url.parse hidden = .ok url → ¬Parts.MarksScheme hidden url := by
    rintro url hok ⟨rest, hw⟩
    obtain rfl := Except.ok.inj (hu.symm.trans hok)
    have hwritten : "http:/a.com/?next=ftp".toList = "http".toList :=
      congrArg Prod.fst (Option.some.inj (hcut.symm.trans hw))
    exact absurd hwritten (by decide)
  have htest : (Pattern.ofText "http+ftp://a.com:21/*".toList).test plain = true := by decide +kernel
  exact ⟨fun p ha => ((no_scheme_confusion hidden).2 p ha).2 hmark hnot, htest,
    ((no_scheme_confusion plain).2 _ (by decide +kernel)).1 htest⟩

end WebScope
