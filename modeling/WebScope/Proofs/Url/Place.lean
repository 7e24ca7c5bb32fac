import WebScope.Proofs.Text.Cutting
import WebScope.Url.Parts

/-!
# Where a URL is served

In the schemes of the web, the host and the port of a URL hang on one stretch of its text only: what stands between the
slashes behind the scheme and the next character that ends an authority, behind the last `@` (`Authority.placeText`).

- A scheme is what stands before the first colon (`scheme?_eq_some_iff`), and a URL has the scheme of its text and a
  path of the kind of that scheme (`shape_of_parse`).
- What follows an authority stays behind it (`ofHostAndPort_append`), so host and port do not depend on it
  (`map_fst_ofHostAndPort`, `map_fst_ofText`).
- **The place of a URL is read from its place text** (`map_place_parse`).
-/

namespace WebScope

namespace Authority

/-- The host and the port that a text without user information names, in a scheme with domain names. -/
def place? (default? : Option Nat) (s : Text) : Except Url.ParseError Authority :=
  (ofHostAndPort true default? s []).map Prod.fst

/-- Whether the text behind an authority starts as it has to. -/
def EndsPlace (tail : Text) : Prop := ∀ c, tail.head? = some c → isEnd true c = true

/-- What ends an authority ends the digits of a port, too, and is no digit. -/
theorem endsPort_of_isEnd {c : Char} (h : isEnd true c = true) : endsPort c = true ∧ c.isDigit = false := by
  simp only [isEnd, Bool.true_and, Bool.or_eq_true, beq_iff_eq] at h
  rcases h with ((rfl | rfl) | rfl) | rfl <;> decide

/-- **What follows an authority stays behind its port.** -/
theorem port?_append (default? : Option Nat) {tail : Text} (ht : EndsPlace tail) (s : Text) :
    port? default? (s ++ tail) = (port? default? s).map fun (n, rest) => (n, rest ++ tail) := by
  have hdigit : ∀ c, tail.head? = some c → c.isDigit = false := fun c hc => (endsPort_of_isEnd (ht c hc)).2
  have htake : (s ++ tail).takeWhile Char.isDigit = s.takeWhile Char.isDigit :=
    Text.takeWhile_append_of_head hdigit s
  have hdrop : (s ++ tail).dropWhile Char.isDigit = s.dropWhile Char.isDigit ++ tail :=
    Text.dropWhile_append_of_head hdigit s
  have hhead : (s.dropWhile Char.isDigit ++ tail).head?.any (!endsPort ·) =
      (s.dropWhile Char.isDigit).head?.any (!endsPort ·) := by
    cases s.dropWhile Char.isDigit with
    | cons c r => rfl
    | nil =>
      cases tail with
      | nil => rfl
      | cons c tail => simp [(endsPort_of_isEnd (ht c rfl)).1]
  simp only [port?, htake, hdrop, hhead]
  cases Text.number? 10 (s.takeWhile Char.isDigit) with
  | none => rfl
  | some n =>
    by_cases h : maxPort < n ∨ (s.dropWhile Char.isDigit).head?.any (!endsPort ·) = true
    · simp only [h, if_true]; rfl
    · simp only [h, if_false]; rfl

/-- **What follows an authority stays behind its host and its port.** -/
theorem ofHostAndPort_append (special : Bool) (default? : Option Nat) {t : Text} (ht : EndsPlace t) (s tail : Text) :
    ofHostAndPort special default? s (tail ++ t) =
      (ofHostAndPort special default? s tail).map fun (authority, behind) => (authority, behind ++ t) := by
  simp only [ofHostAndPort, bind, Except.bind]
  cases host? special (hostAndRest false s).1 with
  | error e => rfl
  | ok host =>
    simp only
    split
    · rename_i digits _
      split
      · rfl
      · rw [← List.append_assoc, port?_append default? ht (digits ++ tail)]
        cases port? default? (digits ++ tail) <;> rfl
    · rw [← List.append_assoc]
      rfl

/-- Host and port do not depend on what follows the authority. -/
theorem map_fst_ofHostAndPort (default? : Option Nat) {tail : Text} (ht : EndsPlace tail) (s : Text) :
    (ofHostAndPort true default? s tail).map Prod.fst = place? default? s := by
  have h := ofHostAndPort_append true default? ht s []
  rw [List.nil_append] at h
  rw [h, place?]
  cases ofHostAndPort true default? s [] <;> rfl

/-- No place is empty. -/
theorem place?_nil (default? : Option Nat) : place? default? [] = .error .emptyHost := rfl

/-- A place has a host. -/
theorem isSome_host_of_ofHostAndPort {default? : Option Nat} {s tail behind : Text} {authority : Authority}
    (h : ofHostAndPort true default? s tail = .ok (authority, behind)) : authority.host.isNone = false := by
  have hhost : ∀ name host, host? true name = .ok host → host.isNone = false := by
    intro name host hh
    simp only [host?, if_true] at hh
    split at hh
    · cases hh
    · cases hs : Host.ofSpecial name with
      | error e => rw [hs] at hh; cases hh
      | ok v => rw [hs] at hh; cases hh; rfl
  simp only [ofHostAndPort, bind, Except.bind] at h
  cases hn : host? true (hostAndRest false s).1 with
  | error e => rw [hn] at h; cases h
  | ok host =>
    have hsome := hhost _ _ hn
    rw [hn] at h
    simp only [hsome, Bool.false_eq_true, if_false] at h
    split at h
    · split at h
      · cases h
      · cases h; exact hsome
    · cases h; exact hsome

/-- **An authority names the place behind its user information**, up to the first character that ends it. -/
theorem map_fst_ofText (default? : Option Nat) (s : Text) :
    (ofText true default? s).map Prod.fst =
      place? default? (Parts.remoteOf (s.takeWhile (!isEnd true ·))) := by
  have ht : EndsPlace (s.dropWhile (!isEnd true ·)) := fun c hc => by simpa using Text.head?_dropWhile hc
  simp only [ofText, Parts.remoteOf]
  generalize s.dropWhile (!isEnd true ·) = tail at ht
  generalize userAndRest (s.takeWhile (!isEnd true ·)) = userPlace
  obtain ⟨user, place⟩ := userPlace
  rw [← map_fst_ofHostAndPort default? ht]
  by_cases hempty : user = some [] ∧ place = [] ∧ tail ≠ []
  · rw [if_pos hempty, hempty.2.1]
    rfl
  · simp only [hempty, if_false, bind, Except.bind]
    cases hp : ofHostAndPort true default? place tail with
    | error e => rfl
    | ok v =>
      simp only [isSome_host_of_ofHostAndPort hp, Bool.false_eq_true, false_and, if_false]
      rfl

end Authority

namespace Url

/-! ## Schemes -/

/-- **A scheme is what stands before the first colon**: a letter, then letters, digits, `+`, `-` and `.`. -/
theorem scheme?_eq_some_iff {s scheme rest : Text} :
    scheme? s = some (scheme, rest) ↔ ∃ c name, s = c :: name ++ ':' :: rest ∧ c.isAlpha = true ∧
      (∀ x ∈ name, isSchemeChar x = true) ∧ scheme = Text.lower (c :: name) := by
  constructor
  · intro h
    rw [scheme?] at h
    split at h
    · rename_i c name rest' hname hrest
      split at h
      · rename_i hc
        simp only [Option.some.injEq, Prod.mk.injEq] at h
        obtain ⟨rfl, rfl⟩ := h
        refine ⟨c, name, ?_, hc, fun x hx => ?_, rfl⟩
        · rw [← hname, ← hrest, List.takeWhile_append_dropWhile]
        · exact List.mem_takeWhile_imp (hname ▸ List.mem_cons_of_mem _ hx : x ∈ s.takeWhile isSchemeChar)
      · cases h
    · cases h
  · rintro ⟨c, name, rfl, hc, hname, rfl⟩
    have hall : ∀ x ∈ c :: name, isSchemeChar x = true := by
      intro x hx
      rcases List.mem_cons.mp hx with rfl | hx
      · simp [isSchemeChar, Char.isAlphanum, hc]
      · exact hname x hx
    have htake : (c :: name ++ ':' :: rest).takeWhile isSchemeChar = c :: name :=
      Text.takeWhile_append_cons hall (by decide) rest
    have hdrop : (c :: name ++ ':' :: rest).dropWhile isSchemeChar = ':' :: rest :=
      Text.dropWhile_append_cons hall (by decide) rest
    rw [scheme?, htake, hdrop]
    simp [hc]

/-- No scheme holds a colon. -/
theorem not_mem_scheme {c : Char} {name : Text} (hc : c.isAlpha = true) (hname : ∀ x ∈ name, isSchemeChar x = true) :
    ':' ∉ c :: name := by
  rw [List.mem_cons, not_or]
  refine ⟨?_, fun h => absurd (hname _ h) (by decide)⟩
  rintro rfl
  exact absurd hc (by decide)

/-- A scheme is cut off at its colon, whatever follows. -/
theorem scheme?_append_colon {a r scheme rest : Text} (ha : ':' ∉ a)
    (h : scheme? (a ++ ':' :: r) = some (scheme, rest)) :
    rest = r ∧ ∀ r', scheme? (a ++ ':' :: r') = some (scheme, r') := by
  obtain ⟨c, name, he, hc, hname, rfl⟩ := scheme?_eq_some_iff.mp h
  obtain ⟨rfl, rfl⟩ := Text.append_cons_inj ha (not_mem_scheme hc hname) he
  exact ⟨rfl, fun r' => scheme?_eq_some_iff.mpr ⟨c, name, rfl, hc, hname, rfl⟩⟩

/-- The schemes of the web are in the list. -/
theorem mem_schemeKinds {scheme : Text} {port : Nat} (h : schemeKind scheme = .web port) :
    (scheme, .web port) ∈ schemeKinds := by
  unfold schemeKind at h
  cases hl : schemeKinds.lookup scheme with
  | none => rw [hl] at h; cases h
  | some kind =>
    rw [hl] at h
    cases h
    obtain ⟨before, behind, hk, -⟩ := List.lookup_eq_some_iff.mp hl
    rw [hk]
    exact List.mem_append_right before List.mem_cons_self

/-! ## Shapes -/

/-- **The paths of the URLs of a kind.** -/
inductive HasPath : SchemeKind → Text → Prop
  | file (s : Text) : HasPath .file (Path.ofFile s)
  | web (port : Nat) (s : Text) : HasPath (.web port) (Path.behindAuthority true s)
  | authority (s : Text) : HasPath .other (Path.behindAuthority false s)
  | rooted (s : Text) : HasPath .other (Path.resolve false false s)
  | plain (s : Text) : HasPath .other (Path.plain s)

section Shape

variable {scheme s : Text} {url : Url}

theorem shape_of_ofAuthority {special : Bool} {default? : Option Nat}
    (h : ofAuthority scheme special default? s = .ok url) :
    url.scheme = scheme ∧ ∃ r, url.path = Path.behindAuthority special r := by
  rw [ofAuthority] at h
  cases ha : Authority.ofText special default? s with
  | error e => rw [ha] at h; cases h
  | ok v => rw [ha] at h; cases h; exact ⟨rfl, _, rfl⟩

theorem shape_of_ofFileHost (h : ofFileHost scheme s = .ok url) :
    url.scheme = scheme ∧ ∃ r, url.path = Path.ofFile r := by
  unfold ofFileHost at h
  simp only at h
  split at h
  · cases h; exact ⟨rfl, _, rfl⟩
  · split at h
    · cases h; exact ⟨rfl, _, rfl⟩
    · cases hh : Host.ofSpecial (s.takeWhile (!Authority.isEnd true ·)) with
      | error e => rw [hh] at h; cases h
      | ok v => rw [hh] at h; cases h; exact ⟨rfl, _, rfl⟩

/-- **Every way to read a URL** keeps its scheme and gives a path of its kind. -/
theorem shape_of_ofScheme (h : ofScheme scheme s = .ok url) :
    url.scheme = scheme ∧ HasPath (schemeKind scheme) url.path := by
  unfold ofScheme at h
  split at h
  · rename_i hk
    rw [hk]
    have hfile : url.scheme = scheme ∧ ∃ r, url.path = Path.ofFile r := by
      unfold ofFile at h
      split at h
      · split at h
        · exact shape_of_ofFileHost h
        · cases h; exact ⟨rfl, _, rfl⟩
      · cases h; exact ⟨rfl, _, rfl⟩
    obtain ⟨hs, r, hr⟩ := hfile
    exact ⟨hs, hr ▸ .file r⟩
  · rename_i port hk
    obtain ⟨hs, r, hr⟩ := shape_of_ofAuthority h
    rw [hk]
    exact ⟨hs, hr ▸ .web port r⟩
  · rename_i hk
    rw [hk]
    unfold ofOther at h
    split at h
    · obtain ⟨hs, r, hr⟩ := shape_of_ofAuthority h
      exact ⟨hs, hr ▸ .authority r⟩
    · cases h; exact ⟨rfl, .rooted _⟩
    · cases h; exact ⟨rfl, .plain _⟩

end Shape

/-- A URL has the scheme of its text, and a path of the kind of that scheme. -/
theorem shape_of_parse {input : Text} {url : Url} (h : parse input = .ok url) :
    (∃ rest, scheme? (significant input) = some (url.scheme, rest)) ∧ HasPath (schemeKind url.scheme) url.path := by
  rw [parse] at h
  split at h
  · cases h
  · rename_i scheme rest hs
    obtain ⟨rfl, hpath⟩ := shape_of_ofScheme h
    exact ⟨⟨rest, hs⟩, hpath⟩

theorem scheme_of_parse {input : Text} {url : Url} (h : parse input = .ok url) :
    ∃ rest, scheme? (significant input) = some (url.scheme, rest) := (shape_of_parse h).1

/-! ## Places -/

/-- Where a URL is served. -/
def place (url : Url) : Authority := ⟨url.host, url.port⟩

/-- The text behind the colon of a scheme of the web from which host and port are read. -/
def placeText (s : Text) : Text :=
  Parts.remoteOf ((s.dropWhile (Path.isSeparator true)).takeWhile (!Authority.isEnd true ·))

/-- **The place of a URL of the web is read from its place text.** -/
theorem map_place_parse {input scheme rest : Text} {port : Nat}
    (hs : scheme? (significant input) = some (scheme, rest)) (hk : schemeKind scheme = .web port) :
    (parse input).map place = Authority.place? (some port) (placeText rest) := by
  rw [parse, hs]
  simp only [ofScheme, hk, ofAuthority, placeText]
  rw [← Authority.map_fst_ofText]
  cases Authority.ofText true (some port) (rest.dropWhile (Path.isSeparator true)) <;> rfl

/-- What follows a slash behind a colon does not matter for the place. -/
theorem placeText_append (z t : Text) : placeText (z ++ ':' :: '/' :: t) = placeText (z ++ [':']) := by
  have hcolon : ∀ t : Text, (z ++ ':' :: t).dropWhile (Path.isSeparator true) =
      z.dropWhile (Path.isSeparator true) ++ ':' :: t := fun t =>
    Text.dropWhile_append_of_head (fun c hc => by cases hc; decide) z
  have hslash : ∀ c, ('/' :: t).head? = some c → (!Authority.isEnd true c) = false := by
    rintro c hc
    cases hc
    decide
  rw [placeText, placeText, hcolon, hcolon, List.append_cons, Text.takeWhile_append_of_head hslash]

end Url
end WebScope
