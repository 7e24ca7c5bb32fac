import WebScope.Proofs.Url.Place

/-!
# The query of a URL

A URL ends before its query and its fragment: whatever stands there, the URL is the same, and so are its parts as long
as they are cut out of the text before it. But the mark `://` is looked for in the whole text. A URL that is written
without one (`http:a.com`) has its parts taken from what was read, until a query brings a mark along; then everything
up to that mark becomes the protocol.

- No stage of reading looks behind the query: paths (`Path.resolve_append`), authorities (`Authority.ofText_append`),
  and **the URL itself** (`Url.parse_append_query`).
- The parts are the same if the text has a mark or the query has none (`Parts.ofText_append_query`); otherwise they have
  the query in their protocol (`Parts.mem_protocol_of_not_queryApart`).
-/

namespace WebScope

/-! ## The beginning of a query -/

/-- A query, or a fragment, or nothing: what can follow a path. -/
def IsQuery (t : Text) : Prop := ∀ c, t.head? = some c → Parts.startsQuery c = true

theorem Parts.startsQuery_iff {c : Char} : Parts.startsQuery c = true ↔ c = '?' ∨ c = '#' := by
  simp [Parts.startsQuery]

theorem isQuery_cons {c : Char} {t : Text} : IsQuery (c :: t) ↔ Parts.startsQuery c = true := by
  simp [IsQuery]

section Query

variable {t : Text} (ht : IsQuery t)

include ht

/-- What holds of the two characters that start a query holds of its start. -/
theorem IsQuery.head {p : Char → Prop} (hq : p '?') (hf : p '#') : ∀ c, t.head? = some c → p c := by
  intro c hc
  rcases Parts.startsQuery_iff.mp (ht c hc) with rfl | rfl
  · exact hq
  · exact hf

theorem IsQuery.endsPlace : Authority.EndsPlace t := ht.head (by decide) (by decide)

/-! ## Paths -/

namespace Path

theorem beforeQuery_append (s : Text) : beforeQuery (s ++ t) = beforeQuery s :=
  Text.takeWhile_append_of_head (ht.head (by decide) (by decide)) s

theorem behindRoot_append (special : Bool) (s : Text) : behindRoot special (s ++ t) = behindRoot special s ++ t := by
  cases s with
  | nil =>
    cases t with
    | nil => rfl
    | cons c t =>
      have hc : isSeparator special c = false :=
        ht.head (p := fun c => isSeparator special c = false) (by simp [isSeparator]) (by simp [isSeparator]) c rfl
      show (if isSeparator special c then t else c :: t) = c :: t
      rw [hc]
      rfl
  | cons c s =>
    show (if isSeparator special c then s ++ t else c :: (s ++ t)) = (if isSeparator special c then s else c :: s) ++ t
    split <;> rfl

/-- **A path is resolved up to its query.** -/
theorem resolve_append (special isFile : Bool) (s : Text) : resolve special isFile (s ++ t) = resolve special isFile s := by
  rw [resolve, beforeQuery_append ht, resolve]

theorem behindAuthority_append (special : Bool) (s : Text) :
    behindAuthority special (s ++ t) = behindAuthority special s := by
  rw [behindAuthority, beforeQuery_append ht, behindRoot_append ht, resolve_append ht, behindAuthority]

theorem rooted_append (s : Text) : rooted (s ++ t) = rooted s := by
  rw [rooted, behindRoot_append ht, resolve_append ht, rooted]

theorem ofFile_append (s : Text) : ofFile (s ++ t) = ofFile s := by
  rw [ofFile, rooted_append ht, ofFile]

theorem hasDrive_append (s : Text) : hasDrive (s ++ t) = hasDrive s := by
  rw [hasDrive, rooted_append ht, hasDrive]

theorem plain_append (s : Text) : plain (s ++ t) = plain s := by
  rw [plain, beforeQuery_append ht, plain]

end Path

/-! ## Authorities -/

namespace Authority

/-- No authority reaches into the query. -/
theorem takeWhile_not_isEnd_append (special : Bool) (s : Text) :
    (s ++ t).takeWhile (!isEnd special ·) = s.takeWhile (!isEnd special ·) ∧
      (s ++ t).dropWhile (!isEnd special ·) = s.dropWhile (!isEnd special ·) ++ t := by
  have hend : ∀ c, t.head? = some c → (!isEnd special c) = false :=
    ht.head (p := fun c => (!isEnd special c) = false) (by simp [isEnd]) (by simp [isEnd])
  exact ⟨Text.takeWhile_append_of_head hend s, Text.dropWhile_append_of_head hend s⟩

/-- **An authority is the same before a query**, if it is one there: with nothing but an `@` it needs a host as soon as
something follows. -/
theorem ofText_append {special : Bool} {default? : Option Nat} {s behind : Text} {authority : Authority}
    {r : Authority × Text} (h : ofText special default? s = .ok (authority, behind))
    (hr : ofText special default? (s ++ t) = .ok r) : r = (authority, behind ++ t) := by
  obtain ⟨htake, hdrop⟩ := takeWhile_not_isEnd_append ht special s
  simp only [ofText, htake, hdrop, bind, Except.bind, ofHostAndPort_append special default? ht.endsPlace] at h hr
  split at h
  · cases h
  · split at hr
    · cases hr
    · cases hp : ofHostAndPort special default? (userAndRest (s.takeWhile (!isEnd special ·))).2
          (s.dropWhile (!isEnd special ·)) with
      | error e => rw [hp] at h; cases h
      | ok v =>
        rw [hp] at h hr
        simp only [Except.map] at h hr
        split at h
        · cases h
        · rename_i hhost
          rw [if_neg hhost] at hr
          cases h
          cases hr
          rfl

end Authority

/-! ## URLs -/

namespace Url

omit ht in
/-- A scheme ends before the query. -/
theorem scheme?_append {s scheme rest : Text} (h : scheme? s = some (scheme, rest)) (t : Text) :
    scheme? (s ++ t) = some (scheme, rest ++ t) := by
  obtain ⟨c, name, rfl, hc, hname, rfl⟩ := scheme?_eq_some_iff.mp h
  exact scheme?_eq_some_iff.mpr ⟨c, name, by simp, hc, hname, rfl⟩

theorem ofFileHost_append (scheme s : Text) : ofFileHost scheme (s ++ t) = ofFileHost scheme s := by
  obtain ⟨htake, hdrop⟩ := Authority.takeWhile_not_isEnd_append ht true s
  simp only [ofFileHost, htake, hdrop, Path.ofFile_append ht, Path.hasDrive_append ht]

omit ht in
/-- Without two slashes all of a `file` URL is its path. -/
theorem ofFile_eq_of_not_slashes {scheme s : Text}
    (h : ∀ c d r, s = c :: d :: r → (Path.isSeparator true c && Path.isSeparator true d) = false) :
    ofFile scheme s = .ok ⟨scheme, none, none, Path.ofFile s⟩ := by
  match s with
  | [] => rfl
  | [_] => rfl
  | c :: d :: r =>
    rw [ofFile, h c d r rfl]
    rfl

theorem ofFile_append (scheme : Text) : ∀ s : Text, ofFile scheme (s ++ t) = ofFile scheme s := by
  have hsep : ∀ c, t.head? = some c → Path.isSeparator true c = false := ht.head (by decide) (by decide)
  intro s
  match s with
  | [] =>
    rw [ofFile_eq_of_not_slashes (s := [] ++ t), Path.ofFile_append ht]
    · rfl
    · intro c d r he
      have hc : t = c :: d :: r := he
      rw [hsep c (by rw [hc]; rfl), Bool.false_and]
  | [a] =>
    rw [ofFile_eq_of_not_slashes (s := [a] ++ t), Path.ofFile_append ht]
    · rfl
    · intro c d r he
      have hd : t = d :: r := (List.cons.inj he).2
      rw [hsep d (by rw [hd]; rfl), Bool.and_false]
  | a :: b :: s =>
    have hpath := Path.ofFile_append ht (a :: b :: s)
    simp only [List.cons_append] at hpath
    simp only [List.cons_append, ofFile, ofFileHost_append ht, hpath]

theorem ofAuthority_append {scheme s : Text} {special : Bool} {default? : Option Nat} {url url' : Url}
    (h : ofAuthority scheme special default? s = .ok url) (h' : ofAuthority scheme special default? (s ++ t) = .ok url') :
    url' = url := by
  rw [ofAuthority] at h h'
  cases ha : Authority.ofText special default? s with
  | error e => rw [ha] at h; cases h
  | ok v =>
    cases ha' : Authority.ofText special default? (s ++ t) with
    | error e => rw [ha'] at h'; cases h'
    | ok v' =>
      obtain ⟨authority, behind⟩ := v
      have hv := Authority.ofText_append ht ha ha'
      subst hv
      rw [ha] at h
      rw [ha'] at h'
      cases h
      cases h'
      simp only [Path.behindAuthority_append ht]

/-- In schemes without rules of their own an authority starts behind two slashes, and no query starts with one. -/
theorem ofOther_append {scheme s : Text} {url url' : Url} (h : ofOther scheme s = .ok url)
    (h' : ofOther scheme (s ++ t) = .ok url') : url' = url := by
  have hslash : ∀ r, t ≠ '/' :: r := by
    rintro r rfl
    exact absurd (isQuery_cons.mp ht) (by decide)
  unfold ofOther at h
  split at h
  · exact ofAuthority_append ht h h'
  · rename_i r hr
    have hnext : ∀ r', r ++ t ≠ '/' :: r' := by
      intro r' he
      cases r with
      | nil => exact hslash r' he
      | cons c r => exact hr r (by rw [(List.cons.inj he).1])
    rw [List.cons_append, ofOther] at h'
    · cases h
      cases h'
      rw [Path.resolve_append ht]
    · exact fun r' he => hnext r' he
  · rename_i hone htwo
    have hnext : ∀ r', s ++ t ≠ '/' :: r' := by
      intro r' he
      cases s with
      | nil => exact hslash r' he
      | cons c s => exact htwo s (by rw [(List.cons.inj he).1])
    rw [ofOther] at h'
    · cases h
      cases h'
      rw [Path.plain_append ht]
    · exact fun r' he => hnext _ he
    · exact fun r' he => hnext _ he

/-- **No way to read a URL looks behind the query.** -/
theorem ofScheme_append {scheme s : Text} {url url' : Url} (h : ofScheme scheme s = .ok url)
    (h' : ofScheme scheme (s ++ t) = .ok url') : url' = url := by
  have hsep : ∀ c, t.head? = some c → Path.isSeparator true c = false := ht.head (by decide) (by decide)
  cases hk : schemeKind scheme with
  | file =>
    simp only [ofScheme, hk, ofFile_append ht] at h h'
    exact (Except.ok.inj (h.symm.trans h')).symm
  | web port =>
    simp only [ofScheme, hk, Text.dropWhile_append_of_head hsep] at h h'
    exact ofAuthority_append ht h h'
  | other =>
    simp only [ofScheme, hk] at h h'
    exact ofOther_append ht h h'

end Url

/-! ## Parts -/

namespace Parts

/-- **Parts that are written before a query** are the same with it. -/
theorem written?_append_of_some {s : Text} {p : Parts} (h : written? s = some p) : written? (s ++ t) = some p := by
  simp only [written?, Option.map_eq_some_iff, Prod.exists] at h
  obtain ⟨protocol, rest, hcut, rfl⟩ := h
  obtain ⟨htake, hdrop⟩ := Authority.takeWhile_not_isEnd_append ht false rest
  have hquery : ∀ c, t.head? = some c → (!startsQuery c) = false := fun c hc => by rw [ht c hc]; rfl
  rw [written?, Text.cutMark?_append_of_some hcut]
  simp only [Option.map_some, htake, hdrop, Text.takeWhile_append_of_head hquery]

end Parts

end Query

/-! ## A text with a query behind it -/

namespace Url

variable {u q : Text} {c : Char}

/-- **A URL that is written without margins.** -/
structure IsWritten (u : Text) : Prop where
  parses : ∃ url, parse u = .ok url
  head : ∀ c, u.head? = some c → isMargin c = false
  last : ∀ c, u.getLast? = some c → isMargin c = false

theorem not_isMargin_of_startsQuery (hc : Parts.startsQuery c = true) : isMargin c = false := by
  rcases Parts.startsQuery_iff.mp hc with rfl | rfl <;> decide

theorem IsWritten.trim (hu : IsWritten u) : Text.trim isMargin u = u := Text.trim_eq_self hu.head hu.last

/-- The margins of a text with a query are those of the query. -/
theorem IsWritten.trim_append (hu : IsWritten u) (hc : Parts.startsQuery c = true) (q : Text) :
    Text.trim isMargin (u ++ c :: q) = u ++ c :: Text.trimEnd isMargin q :=
  Text.trim_append_cons hu.head (not_isMargin_of_startsQuery hc) q

/-- **The query does not change the URL**, if there is one with it. -/
theorem parse_append_query (hu : IsWritten u) (hc : Parts.startsQuery c = true) {url url' : Url}
    (h : parse u = .ok url) (h' : parse (u ++ c :: q) = .ok url') : url' = url := by
  have hkept : (!isDropped c) = true := by
    rcases Parts.startsQuery_iff.mp hc with rfl | rfl <;> decide
  have hsig : significant (u ++ c :: q) =
      significant u ++ c :: (Text.trimEnd isMargin q).filter (!isDropped ·) := by
    rw [significant, significant, hu.trim_append hc, hu.trim, List.filter_append]
    exact congrArg _ (List.filter_cons_of_pos hkept)
  rw [parse] at h h'
  cases hs : scheme? (significant u) with
  | none => rw [hs] at h; cases h
  | some v =>
    rw [hs] at h
    rw [hsig, scheme?_append hs] at h'
    exact ofScheme_append (isQuery_cons.mpr hc) h h'

end Url

namespace Parts

variable {u q : Text} {c : Char}

/-- **The query does not take part in the parts**: the text has a mark before it, or it brings none along. -/
def QueryApart (u q : Text) : Prop := mark <:+: u ∨ ¬mark <:+: q

instance (u q : Text) : Decidable (QueryApart u q) := inferInstanceAs (Decidable (_ ∨ ¬_))

/-- No mark is trimmed off with the margin behind it. -/
theorem mark_infix_trimEnd_iff (q : Text) : mark <:+: Text.trimEnd Url.isMargin q ↔ mark <:+: q := by
  have hmark : mark.all (!Url.isMargin ·) = true := by decide
  exact Text.infix_trimEnd_iff (by decide) (by simpa using hmark) q

theorem written?_eq_none_iff {s : Text} : written? s = none ↔ ¬mark <:+: s := by
  rw [written?, Option.map_eq_none_iff, Text.cutMark?_eq_none_iff]

/-- Without a mark before the query the parts are cut behind its start. -/
theorem written?_append_of_none (hc : startsQuery c = true) (h : written? u = none) (q : Text) :
    written? (u ++ c :: q) = (written? q).map fun p => { p with protocol := u ++ c :: p.protocol } := by
  have hmark : c ∉ mark := by rcases startsQuery_iff.mp hc with rfl | rfl <;> decide
  rw [written?, Option.map_eq_none_iff] at h
  rw [written?, Text.cutMark?_append_cons_of_none hmark q h, written?, Option.map_map, Option.map_map]
  rfl

section Read

variable (hu : Url.IsWritten u) (hc : startsQuery c = true) {url : Url} (hq : Url.parse (u ++ c :: q) = .ok url)

include hu hc hq

/-- **A query that does not take part leaves the parts as they are.** -/
theorem ofText_append_query (ha : QueryApart u q) : ofText (u ++ c :: q) = ofText u := by
  obtain ⟨url', h⟩ := hu.parses
  obtain rfl := Url.parse_append_query hu hc h hq
  simp only [ofText, h, hq, hu.trim, hu.trim_append hc, Except.map]
  cases hw : written? u with
  | some p => rw [written?_append_of_some (isQuery_cons.mpr hc) hw]
  | none =>
    have hmark : ¬mark <:+: Text.trimEnd Url.isMargin q := by
      rw [mark_infix_trimEnd_iff]
      exact ha.resolve_left (written?_eq_none_iff.mp hw)
    rw [written?_append_of_none hc hw, written?_eq_none_iff.mpr hmark]
    rfl

/-- A query that takes part gets into the protocol. -/
theorem mem_protocol_of_not_queryApart (ha : ¬QueryApart u q) :
    ∃ parts, ofText (u ++ c :: q) = .ok parts ∧ c ∈ parts.protocol := by
  simp only [QueryApart, not_or, not_not] at ha
  obtain ⟨hnone, hmark⟩ := ha
  rw [← mark_infix_trimEnd_iff, ← not_not (a := mark <:+: _), ← written?_eq_none_iff] at hmark
  obtain ⟨p, hp⟩ := Option.ne_none_iff_exists'.mp hmark
  simp only [ofText, hq, hu.trim_append hc, Except.map, written?_append_of_none hc (written?_eq_none_iff.mpr hnone), hp]
  exact ⟨_, rfl, by simp⟩

end Read

end Parts
end WebScope
