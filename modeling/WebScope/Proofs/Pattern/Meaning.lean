import WebScope.Pattern.Matching
import WebScope.Proofs.Pattern.Grammar
import WebScope.Proofs.Pattern.GlobLanguage

/-!
# The meaning of a pattern

What a pattern text says of a URL text, from end to end and without the compiler in between (`Pattern.Means`).

- Each stage of a test says what its part of the grammar means: protocol lists (`admitsProtocol_iff`), hosts
  (`HostToken.admits_iff`), paths (`Glob.isMatch_of_compile`).
- A text compiles if and only if it is of the grammar and its path compiles (`Record.compile_eq_ok_iff`); so the test of a
  text of the grammar asks whether its path compiles and whether it covers the URL (`test_iff_of_reads`).
- **The test of the pattern of a text is its meaning** (`test_ofText_iff`), provided the path of the text is not too
  large to be compiled.
-/

namespace WebScope

/-! ## Hosts -/

/-- **The remotes that a host covers**: `*` covers all, every host covers itself, and `*.` before a suffix covers the
suffix and what ends with it at a dot. -/
def HostToken.Covers (host remote : Text) : Prop :=
  host = ['*'] ∨ remote = host ∨ ∃ s, host = '*' :: '.' :: s ∧ (remote = s ∨ ∃ front, remote = front ++ '.' :: s)

/-- A text that ends with a suffix behind a dot. -/
theorem HostToken.before?_dot_iff {s remote : Text} :
    ((Text.before? s remote).any fun front => front.getLast? == some '.') = true ↔
      ∃ front, remote = front ++ '.' :: s := by
  simp only [Option.any_eq_true, Text.before?_eq_some_iff, beq_iff_eq, List.getLast?_eq_some_iff]
  constructor
  · rintro ⟨_, rfl, front, rfl⟩
    exact ⟨front, by simp⟩
  · rintro ⟨front, rfl⟩
    exact ⟨front ++ ['.'], by simp, front, rfl⟩

/-- A host admits the remotes that it covers. -/
theorem HostToken.admits_iff {host remote : Text} : HostToken.admits host remote = true ↔ Covers host remote := by
  have hsuffix : isSuffixOf host remote = true ↔
      ∃ s, host = '*' :: '.' :: s ∧ (remote = s ∨ ∃ front, remote = front ++ '.' :: s) := by
    unfold isSuffixOf
    cases h : Text.after? "*.".toList host with
    | none =>
      have hnone : ∀ s, host ≠ '*' :: '.' :: s := by
        rintro s rfl
        exact absurd ((Text.after?_append ['*', '.'] s).symm.trans h) nofun
      simp [hnone]
    | some s =>
      have hs := Text.eq_of_after? h
      simp only [Bool.or_eq_true, beq_iff_eq, before?_dot_iff]
      constructor
      · exact fun hr => ⟨s, hs, hr⟩
      · rintro ⟨s', hs', hr⟩
        have he : s = s' := List.append_cancel_left (hs.symm.trans hs' : "*.".toList ++ s = "*.".toList ++ s')
        exact he ▸ hr
  simp only [admits, Bool.or_eq_true, hsuffix, isAny, isExactly, beq_iff_eq, Covers, or_assoc]
  rw [eq_comm (a := remote)]
  rfl

/-! ## Compiling -/

/-- A glob whose program is within the limit. -/
def Glob.Fits (g : Text) : Prop := Glob.compile g ≠ .error .tooLarge

theorem Glob.fits_iff {g : Text} : Fits g ↔ Regex.size (g.map pieceOf) ≤ Regex.sizeLimit := by
  unfold Fits
  rw [compile_eq]
  by_cases h : Regex.sizeLimit < Regex.size (g.map pieceOf)
  · simp [h]
  · simp [h, Nat.le_of_not_lt h]

/-- A glob that fits compiles. -/
theorem Glob.exists_compile {g : Text} (h : Fits g) : ∃ r, Glob.compile g = .ok r :=
  ⟨_, by rw [compile_eq, if_neg (Nat.not_lt.mpr (fits_iff.mp h))]⟩

/-- **A text compiles** if and only if it is of the grammar and its path compiles. -/
theorem Record.compile_eq_ok_iff {raw : Text} {r : Record} :
    Record.compile raw = .ok r ↔ ∃ ps host path, Segments.Reads raw ps host path ∧
      r.protocols = ps.eraseDups ∧ r.host = host ∧ Glob.compile path = .ok r.path := by
  constructor
  · intro h
    obtain ⟨s, hs, hr⟩ := exists_segments_of_compile h
    rw [ofSegments] at hr
    split at hr
    · rename_i path hp
      cases hr
      exact ⟨_, _, _, Segments.reads_iff.mpr ⟨s, hs, rfl, rfl, rfl⟩, rfl, rfl, hp⟩
    · cases hr
  · rintro ⟨ps, host, path, hreads, hps, rfl, hp⟩
    obtain ⟨s, hs, rfl, hh, rfl⟩ := Segments.reads_iff.mp hreads
    rw [compile, hs]
    simp only [ofSegments, hp, ← hps, hh]

/-- What matches everything is no text of the grammar. -/
theorem Segments.ne_of_ofText? {raw : Text} {s : Segments} (h : ofText? raw = some s) :
    raw ≠ [] ∧ raw ≠ matchAllUrls := by
  constructor
  · rintro rfl
    cases h
  · rintro rfl
    have hnone : ofText? matchAllUrls = none := by decide +kernel
    cases hnone.symm.trans h

namespace Pattern

/-! ## The pattern of a text -/

/-- The pattern of a text matches everything if the text is empty or says so. -/
theorem isMatchAll_ofText_iff {raw : Text} : (ofText raw).isMatchAll = true ↔ raw = [] ∨ raw = matchAllUrls := by
  rw [isMatchAll, beq_iff_eq]
  by_cases h : raw = []
  · subst h; simp [raw_ofText_nil]
  · rw [raw_ofText h]; simp [h]

theorem isMatchAll_ofText_eq_false {raw : Text} (hne : raw ≠ []) (hall : raw ≠ matchAllUrls) :
    (ofText raw).isMatchAll = false := by
  rw [← Bool.not_eq_true, isMatchAll_ofText_iff]
  exact not_or.mpr ⟨hne, hall⟩

/-- The pattern of any other text has the record that the text compiles to. -/
theorem compiled_ofText_eq_some_iff {raw : Text} (hne : raw ≠ []) (hall : raw ≠ matchAllUrls) {r : Record} :
    (ofText raw).compiled = some r ↔ Record.compile raw = .ok r := by
  rw [compiled_ofText, raw_ofText hne, compiledForm, if_neg hall]
  cases Record.compile raw <;> simp [Except.toOption]

/-! ## Tests -/

/-- A pattern matches what it admits the parts of. -/
theorem test_iff {p : Pattern} {url : Text} :
    p.test url = true ↔ p.isMatchAll = true ∨ ∃ parts, Parts.ofText url = .ok parts ∧ p.admits parts = true := by
  cases h : Parts.ofText url with
  | ok parts =>
    rw [test_of_ok h]
    constructor
    · exact fun ha => Or.inr ⟨parts, rfl, ha⟩
    · rintro (ha | ⟨_, he, ha⟩)
      · simp [admits, ha]
      · cases he; exact ha
  | error e => simp [test_of_error h]

/-- The protocols that a compiled pattern admits. -/
theorem admitsProtocol_iff {p : Pattern} {protocol : Text} :
    p.admitsProtocol protocol = true ↔ ∃ r, p.compiled = some r ∧ protocol ∈ allowedProtocols ∧
      (protocol ∈ r.protocols ∨ ['*'] ∈ r.protocols) := by
  simp only [admitsProtocol, Option.any_eq_true, Bool.and_eq_true, List.contains_iff_mem, List.any_eq_true,
    Bool.or_eq_true, beq_iff_eq]
  refine exists_congr fun r => and_congr_right fun _ => and_congr_right fun _ => ?_
  constructor
  · rintro ⟨q, hq, rfl | rfl⟩
    · exact Or.inr hq
    · exact Or.inl hq
  · rintro (h | h)
    · exact ⟨_, h, Or.inr rfl⟩
    · exact ⟨_, h, Or.inl rfl⟩

/-- **What protocols, host and path say of the parts of a URL.** -/
structure Covers (ps : List Text) (host path : Text) (parts : Parts) : Prop where
  allowed : parts.protocol ∈ allowedProtocols
  listed : parts.protocol ∈ ps ∨ ['*'] ∈ ps
  remote : HostToken.Covers host parts.remote
  inLanguage : Glob.Matches path parts.path

/-- A compiled pattern admits the parts that its protocols, host and path cover. -/
theorem admits_iff_covers {p : Pattern} (ha : p.isMatchAll = false) {r : Record} (hr : p.compiled = some r)
    {ps : List Text} {path : Text} (hps : r.protocols = ps.eraseDups) (hpath : Glob.compile path = .ok r.path)
    (parts : Parts) : p.admits parts = true ↔ Covers ps r.host path parts := by
  have hremote : p.admitsRemote parts.remote = true ↔ HostToken.Covers r.host parts.remote := by
    simp [admitsRemote, hr, HostToken.admits_iff]
  have hin : p.admitsPath parts.path = true ↔ Glob.Matches path parts.path := by
    simp [admitsPath, hr, Glob.isMatch_of_compile hpath]
  simp only [admits, ha, Bool.false_or, Bool.and_eq_true, admitsProtocol_iff, hremote, hin, hr, Option.some.injEq,
    exists_eq_left', hps, List.mem_eraseDups]
  constructor
  · rintro ⟨⟨⟨hallowed, hlisted⟩, hr⟩, hp⟩
    exact ⟨hallowed, hlisted, hr, hp⟩
  · rintro ⟨hallowed, hlisted, hr, hp⟩
    exact ⟨⟨⟨hallowed, hlisted⟩, hr⟩, hp⟩

/-- **What a pattern text says of a URL text**: it says nothing against any text if it is empty or `<all_urls>`; else it
is of the grammar, the other text is a URL, and protocols, host and path cover the parts of that URL. -/
def Means (raw url : Text) : Prop :=
  raw = [] ∨ raw = matchAllUrls ∨ ∃ ps host path parts, Segments.Reads raw ps host path ∧
    Parts.ofText url = .ok parts ∧ Covers ps host path parts

/-- The test of the pattern of a text, when the text may be too large to be compiled. -/
theorem test_ofText_iff_of_compile (raw url : Text) :
    (ofText raw).test url = true ↔ raw = [] ∨ raw = matchAllUrls ∨ ∃ ps host path parts,
      Segments.Reads raw ps host path ∧ (∃ r, Glob.compile path = .ok r) ∧ Parts.ofText url = .ok parts ∧
        Covers ps host path parts := by
  rw [test_iff, isMatchAll_ofText_iff, or_assoc]
  by_cases hne : raw = []
  · simp [hne]
  by_cases hall : raw = matchAllUrls
  · simp [hall]
  simp only [hne, hall, false_or]
  have ha := isMatchAll_ofText_eq_false hne hall
  constructor
  · rintro ⟨parts, hparts, hadmits⟩
    have hsome : ∃ r, (ofText raw).compiled = some r := by
      rw [← Option.ne_none_iff_exists']
      intro hnone
      rw [admits_of_compiled_eq_none hnone, ha] at hadmits
      cases hadmits
    obtain ⟨r, hr⟩ := hsome
    obtain ⟨ps, host, path, hreads, hps, rfl, hpath⟩ :=
      Record.compile_eq_ok_iff.mp ((compiled_ofText_eq_some_iff hne hall).mp hr)
    exact ⟨ps, r.host, path, parts, hreads, ⟨_, hpath⟩, hparts, (admits_iff_covers ha hr hps hpath parts).mp hadmits⟩
  · rintro ⟨ps, host, path, parts, hreads, ⟨rx, hpath⟩, hparts, hcovers⟩
    have hcompile : Record.compile raw = .ok ⟨ps.eraseDups, host, rx⟩ :=
      Record.compile_eq_ok_iff.mpr ⟨ps, host, path, hreads, rfl, rfl, hpath⟩
    have hr := (compiled_ofText_eq_some_iff hne hall).mpr hcompile
    exact ⟨parts, hparts, (admits_iff_covers ha hr rfl hpath parts).mpr hcovers⟩

/-- **The test of a text of the grammar**, which may be too large to be compiled. -/
theorem test_iff_of_reads {raw : Text} {ps : List Text} {host path : Text} (h : Segments.Reads raw ps host path)
    (url : Text) :
    (ofText raw).test url = true ↔ (∃ r, Glob.compile path = .ok r) ∧
      ∃ parts, Parts.ofText url = .ok parts ∧ Covers ps host path parts := by
  obtain ⟨s, hs, rfl, rfl, rfl⟩ := Segments.reads_iff.mp h
  obtain ⟨hne, hall⟩ := Segments.ne_of_ofText? hs
  rw [test_ofText_iff_of_compile]
  simp only [hne, hall, false_or]
  constructor
  · rintro ⟨_, _, _, parts, hreads, hfits, hparts, hcovers⟩
    obtain ⟨s', hs', rfl, rfl, rfl⟩ := Segments.reads_iff.mp hreads
    obtain rfl := Option.some.inj (hs.symm.trans hs')
    exact ⟨hfits, parts, hparts, hcovers⟩
  · rintro ⟨hfits, parts, hparts, hcovers⟩
    exact ⟨_, _, _, parts, h, hfits, hparts, hcovers⟩

/-- **The test of the pattern of a text is its meaning**, for all texts whose path is not too large to be compiled. -/
theorem test_ofText_iff (raw url : Text) (hfit : ∀ ps host path, Segments.Reads raw ps host path → Glob.Fits path) :
    (ofText raw).test url = true ↔ Means raw url := by
  rw [test_ofText_iff_of_compile, Means]
  refine or_congr_right (or_congr_right ?_)
  constructor
  · rintro ⟨ps, host, path, parts, hreads, -, h⟩
    exact ⟨ps, host, path, parts, hreads, h⟩
  · rintro ⟨ps, host, path, parts, hreads, h⟩
    exact ⟨ps, host, path, parts, hreads, Glob.exists_compile (hfit ps host path hreads), h⟩

/-- A pattern with two protocols, a suffix for its host and a glob for its path: what it says of a URL below the suffix
is read off the test. -/
theorem means_of_suffix_host :
    (∀ ps host path, Segments.Reads "https+http://*.google.com/foo*bar".toList ps host path → Glob.Fits path) ∧
      Means "https+http://*.google.com/foo*bar".toList "https://mail.google.com/foo123bar".toList := by
  have hfit : ∀ ps host path,
      Segments.Reads "https+http://*.google.com/foo*bar".toList ps host path → Glob.Fits path := by
    intro ps host path h
    obtain ⟨s, hs, -, -, rfl⟩ := Segments.reads_iff.mp h
    have hsegments : Segments.ofText? "https+http://*.google.com/foo*bar".toList =
        some ⟨"https+http".toList, "*.google.com".toList, "/foo*bar".toList⟩ := by decide +kernel
    obtain rfl := Option.some.inj (hs.symm.trans hsegments)
    rw [Glob.Fits, Glob.compile_eq, if_neg (by decide +kernel)]
    exact nofun
  exact ⟨hfit, (test_ofText_iff _ _ hfit).mp (by decide +kernel)⟩

end Pattern
end WebScope
