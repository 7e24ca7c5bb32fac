import WebScope.Proofs.Url.Place

/-!
# The remote and the host

The parts of a URL are cut out of its text, and its host and port are read by `Url.parse`. Both look for the authority
on their own, and they disagree on two spellings: `Url.parse` ends the authority at a backslash, the cutting does not;
and `Url.parse` skips any number of slashes before the authority, the cutting exactly two.

- `Parts.NamesPlace`: the parts, written as a URL again, are served where the URL is.
- The place of a URL and that of its parts are two texts cut out of one written authority (`Parts.placeText_filter`,
  `Parts.placeText_remoteOf`), and `Parts.Agrees` says when they name the same.
- **The parts name the place of a URL on the spellings of `Parts.Aligned` and on no other** (`Parts.namesPlace_iff`).
-/

namespace WebScope
namespace Parts

/-! ## Behind the user information -/

theorem remoteOf_of_not_mem {s : Text} (h : '@' ∉ s) : remoteOf s = s := by
  rw [remoteOf, Authority.userAndRest, Text.cutLast?_eq_none_iff.mpr h]

theorem remoteOf_append_cons (a : Text) {b : Text} (h : '@' ∉ b) : remoteOf (a ++ '@' :: b) = b := by
  rw [remoteOf, Authority.userAndRest, Text.cutLast?_eq_some_iff.mpr ⟨rfl, h⟩]

/-- A text has no user information, or it ends at the last `@`. -/
theorem remoteOf_cases (s : Text) :
    '@' ∉ s ∧ remoteOf s = s ∨ ∃ a b, s = a ++ '@' :: b ∧ '@' ∉ b ∧ remoteOf s = b := by
  cases h : Text.cutLast? '@' s with
  | none =>
    have hs := Text.cutLast?_eq_none_iff.mp h
    exact Or.inl ⟨hs, remoteOf_of_not_mem hs⟩
  | some ab =>
    obtain ⟨hs, hb⟩ := Text.cutLast?_eq_some_iff.mp h
    exact Or.inr ⟨ab.1, ab.2, hs, hb, by rw [hs, remoteOf_append_cons _ hb]⟩

/-- The remote is the authority, or what follows its last `@`. -/
theorem remoteOf_eq_iff {authority remote : Text} : remoteOf authority = remote ↔
    '@' ∉ authority ∧ remote = authority ∨ ∃ user, authority = user ++ '@' :: remote ∧ '@' ∉ remote := by
  constructor
  · rintro rfl
    rcases remoteOf_cases authority with ⟨hnot, h⟩ | ⟨user, b, ha, hb, h⟩
    · exact Or.inl ⟨hnot, h⟩
    · exact Or.inr ⟨user, by rw [h, ← ha], by rwa [h]⟩
  · rintro (⟨hnot, rfl⟩ | ⟨user, rfl, hnot⟩)
    · exact remoteOf_of_not_mem hnot
    · exact remoteOf_append_cons user hnot

theorem not_mem_remoteOf (s : Text) : '@' ∉ remoteOf s := by
  rcases remoteOf_cases s with ⟨hs, h⟩ | ⟨a, b, -, hb, h⟩
  · rw [h]; exact hs
  · rw [h]; exact hb

theorem mem_of_mem_remoteOf {s : Text} {c : Char} (hc : c ∈ remoteOf s) : c ∈ s := by
  rcases remoteOf_cases s with ⟨-, h⟩ | ⟨a, b, hs, -, h⟩
  · rw [h] at hc; exact hc
  · rw [h] at hc
    rw [hs]
    exact List.mem_append_right a (List.mem_cons_of_mem _ hc)

/-- User information is cut off before or after characters are dropped. -/
theorem filter_remoteOf {p : Char → Bool} (hp : p '@' = true) (s : Text) :
    (remoteOf s).filter p = remoteOf (s.filter p) := by
  have hnot : ∀ {t : Text}, '@' ∉ t → '@' ∉ t.filter p := fun ht hm => ht (List.mem_filter.mp hm).1
  rcases remoteOf_cases s with ⟨hs, h⟩ | ⟨a, b, hs, hb, h⟩
  · rw [h, remoteOf_of_not_mem (hnot hs)]
  · rw [h, hs, List.filter_append, List.filter_cons_of_pos hp, remoteOf_append_cons _ (hnot hb)]

/-- A text behind without an `@` belongs to the remote. -/
theorem remoteOf_append (s : Text) {t : Text} (ht : '@' ∉ t) : remoteOf (s ++ t) = remoteOf s ++ t := by
  rcases remoteOf_cases s with ⟨hs, h⟩ | ⟨a, b, hs, hb, h⟩
  · rw [h, remoteOf_of_not_mem]
    exact List.not_mem_append hs ht
  · rw [h, hs, List.append_assoc, List.cons_append, remoteOf_append_cons _ (List.not_mem_append hb ht)]

/-- Backslashes at the start are dropped before or after user information is cut off. -/
theorem dropWhile_remoteOf (s : Text) :
    (remoteOf s).dropWhile (· == '\\') = (remoteOf (s.dropWhile (· == '\\'))).dropWhile (· == '\\') := by
  have hs : s.takeWhile (· == '\\') ++ s.dropWhile (· == '\\') = s := List.takeWhile_append_dropWhile
  have hb : ∀ c ∈ s.takeWhile (· == '\\'), (c == '\\') = true := fun c hc =>
    List.mem_takeWhile_imp (p := (· == '\\')) hc
  generalize s.takeWhile (· == '\\') = b, s.dropWhile (· == '\\') = x at hs hb ⊢
  subst hs
  rcases remoteOf_cases x with ⟨hx, h⟩ | ⟨u, v, hx, hv, h⟩
  · rw [h, remoteOf_of_not_mem, List.dropWhile_append_of_pos hb]
    refine List.not_mem_append (fun hm => ?_) hx
    exact absurd (hb _ hm) (by decide)
  · rw [h, hx, ← List.append_assoc, remoteOf_append_cons _ hv]

/-! ## The written authority -/

/-- **The authority as it is written** behind the mark: what stands before path, query and fragment, without the
characters that are dropped everywhere and without backslashes at its start. -/
def writtenAuthority (rest : Text) : Text :=
  ((rest.takeWhile (!Authority.isEnd false ·)).filter (!Url.isDropped ·)).dropWhile (· == '\\')

/-- The place that the URL has: user information is looked for before the first backslash. -/
def placeByUrl (authority : Text) : Text := remoteOf (authority.takeWhile (· != '\\'))

/-- The place that a remote has when it is written behind slashes: what stands between its backslashes. -/
def placeOf (remote : Text) : Text := (remote.dropWhile (· == '\\')).takeWhile (· != '\\')

/-- No backslash stands before an `@`. -/
def NoHiddenUser (authority : Text) : Prop := ∀ a b, authority = a ++ '\\' :: b → '@' ∉ b

/-- User information is hidden exactly if an `@` stands behind the first backslash. -/
theorem noHiddenUser_iff {authority : Text} : NoHiddenUser authority ↔ '@' ∉ authority.dropWhile (· != '\\') := by
  constructor
  · intro h hm
    cases hd : authority.dropWhile (· != '\\') with
    | nil => rw [hd] at hm; cases hm
    | cons c b =>
      have hc : c = '\\' := by
        have hhead : (authority.dropWhile (· != '\\')).head? = some c := by rw [hd]; rfl
        simpa using Text.head?_dropWhile (p := (· != '\\')) hhead
      subst hc
      rw [hd] at hm
      have hb : '@' ∈ b := by simpa using hm
      refine h (authority.takeWhile (· != '\\')) b ?_ hb
      rw [← hd, List.takeWhile_append_dropWhile]
  · rintro h a b rfl hb
    have hdrop : (a ++ '\\' :: b).dropWhile (· != '\\') = a.dropWhile (· != '\\') ++ '\\' :: b :=
      Text.dropWhile_append_of_head (fun c hc => by cases hc; rfl) a
    rw [hdrop] at h
    exact h (List.mem_append_right _ (List.mem_cons_of_mem _ hb))

instance (authority : Text) : Decidable (NoHiddenUser authority) := decidable_of_iff _ noHiddenUser_iff.symm

/-- In a written authority only backslashes separate. -/
theorem separates_of_not_isEnd {c : Char} (h : Authority.isEnd false c = false) :
    Path.isSeparator true c = (c == '\\') ∧ (!Authority.isEnd true c) = (c != '\\') := by
  simp only [Authority.isEnd, Bool.false_and, Bool.or_false, Bool.or_eq_false_iff] at h
  obtain ⟨⟨h1, h2⟩, h3⟩ := h
  simp [Path.isSeparator, Authority.isEnd, h1, h2, h3, bne]

section Separators

variable {s : Text} (hs : ∀ c ∈ s, Authority.isEnd false c = false)

include hs

theorem dropWhile_isSeparator : s.dropWhile (Path.isSeparator true) = s.dropWhile (· == '\\') :=
  Text.dropWhile_congr fun c hc => (separates_of_not_isEnd (hs c hc)).1

theorem takeWhile_not_isEnd : s.takeWhile (!Authority.isEnd true ·) = s.takeWhile (· != '\\') :=
  Text.takeWhile_congr fun c hc => (separates_of_not_isEnd (hs c hc)).2

end Separators

/-- What stands before the end of an authority does not end it, whatever is dropped of it. -/
theorem not_isEnd_of_mem (rest : Text) : ∀ c ∈ (rest.takeWhile (!Authority.isEnd false ·)).filter (!Url.isDropped ·),
    Authority.isEnd false c = false := by
  intro c hc
  simpa using List.mem_takeWhile_imp (List.mem_filter.mp hc).1

/-- An end of an authority is never dropped. -/
theorem isEnd_of_head?_filter (rest : Text) : ∀ c,
    ((rest.dropWhile (!Authority.isEnd false ·)).filter (!Url.isDropped ·)).head? = some c →
      Authority.isEnd false c = true := by
  intro c hc
  cases h : rest.dropWhile (!Authority.isEnd false ·) with
  | nil => rw [h] at hc; cases hc
  | cons x tail =>
    have hx : Authority.isEnd false x = true := by
      have hhead : (rest.dropWhile (!Authority.isEnd false ·)).head? = some x := by rw [h]; rfl
      simpa using Text.head?_dropWhile hhead
    have hkept : (!Url.isDropped x) = true := by
      simp only [Authority.isEnd, Bool.false_and, Bool.or_false, Bool.or_eq_true, beq_iff_eq] at hx
      rcases hx with (rfl | rfl) | rfl <;> decide
    have hfilter : (x :: tail).filter (!Url.isDropped ·) = x :: tail.filter (!Url.isDropped ·) :=
      List.filter_cons_of_pos hkept
    rw [h, hfilter] at hc
    cases hc
    exact hx

/-- **A URL has its place up to the first backslash of the written authority**, if that is not empty. -/
theorem placeText_filter {rest : Text} (hx : writtenAuthority rest ≠ []) :
    Url.placeText ('/' :: '/' :: rest.filter (!Url.isDropped ·)) = placeByUrl (writtenAuthority rest) := by
  have hrest : rest.filter (!Url.isDropped ·) =
      (rest.takeWhile (!Authority.isEnd false ·)).filter (!Url.isDropped ·) ++
        (rest.dropWhile (!Authority.isEnd false ·)).filter (!Url.isDropped ·) := by
    rw [← List.filter_append, List.takeWhile_append_dropWhile]
  have ha := not_isEnd_of_mem rest
  have hend := isEnd_of_head?_filter rest
  unfold writtenAuthority at hx ⊢
  rw [hrest]
  generalize (rest.takeWhile (!Authority.isEnd false ·)).filter (!Url.isDropped ·) = a at ha hx ⊢
  generalize (rest.dropWhile (!Authority.isEnd false ·)).filter (!Url.isDropped ·) = tail at hend ⊢
  have htail : ∀ c, tail.head? = some c → (!Authority.isEnd true c) = false := by
    intro c hc
    have h := hend c hc
    simp only [Authority.isEnd, Bool.false_and, Bool.or_false] at h
    simp [Authority.isEnd, h]
  have hdrop : ('/' :: '/' :: (a ++ tail)).dropWhile (Path.isSeparator true) = a.dropWhile (· == '\\') ++ tail := by
    show (a ++ tail).dropWhile (Path.isSeparator true) = _
    rw [List.dropWhile_append, dropWhile_isSeparator ha, if_neg (by simpa using hx)]
  rw [Url.placeText, hdrop, Text.takeWhile_append_of_head htail, takeWhile_not_isEnd, placeByUrl]
  exact fun c hc => ha c (List.dropWhile_subset _ hc)

/-- **The remote has its place behind the last `@` of the written authority.** -/
theorem placeText_remoteOf (rest : Text) :
    Url.placeText ('/' :: '/' :: ((remoteOf (rest.takeWhile (!Authority.isEnd false ·))).filter (!Url.isDropped ·) ++
      ['/'])) = placeOf (remoteOf (writtenAuthority rest)) := by
  have ha := not_isEnd_of_mem rest
  rw [filter_remoteOf (by decide), writtenAuthority, placeOf, ← dropWhile_remoteOf]
  generalize (rest.takeWhile (!Authority.isEnd false ·)).filter (!Url.isDropped ·) = a at ha
  have hr : ∀ c ∈ remoteOf a, Authority.isEnd false c = false := fun c hc => ha c (mem_of_mem_remoteOf hc)
  have hplace : ((remoteOf a ++ ['/']).dropWhile (Path.isSeparator true)).takeWhile (!Authority.isEnd true ·) =
      ((remoteOf a).dropWhile (· == '\\')).takeWhile (· != '\\') := by
    rw [List.dropWhile_append, dropWhile_isSeparator hr]
    split
    · rename_i h
      rw [List.isEmpty_iff.mp h]
      rfl
    · rw [Text.takeWhile_append_of_head (by simp [Authority.isEnd]), takeWhile_not_isEnd]
      exact fun c hc => hr c (List.dropWhile_subset _ hc)
  show remoteOf (((remoteOf a ++ ['/']).dropWhile (Path.isSeparator true)).takeWhile (!Authority.isEnd true ·)) = _
  rw [hplace, remoteOf_of_not_mem]
  exact fun h => not_mem_remoteOf a (List.dropWhile_subset _ (List.takeWhile_subset _ h))

/-- Without a hidden user both places are the same text. -/
theorem placeOf_remoteOf {authority : Text} (hc : NoHiddenUser authority) (hp : placeByUrl authority ≠ []) :
    placeOf (remoteOf authority) = placeByUrl authority := by
  have hx : authority.takeWhile (· != '\\') ++ authority.dropWhile (· != '\\') = authority :=
    List.takeWhile_append_dropWhile
  have hy : ∀ c ∈ authority.takeWhile (· != '\\'), (c != '\\') = true := fun c h =>
    List.mem_takeWhile_imp (p := (· != '\\')) h
  have htail : ∀ c, (authority.dropWhile (· != '\\')).head? = some c → (c != '\\') = false := by
    intro c h
    exact Text.head?_dropWhile (p := (· != '\\')) h
  have hat : '@' ∉ authority.dropWhile (· != '\\') := noHiddenUser_iff.mp hc
  unfold placeByUrl at hp ⊢
  generalize authority.takeWhile (· != '\\') = y at hx hy hp ⊢
  generalize authority.dropWhile (· != '\\') = tail at hx htail hat
  subst hx
  have hr : ∀ c ∈ remoteOf y, (c != '\\') = true := fun c h => hy c (mem_of_mem_remoteOf h)
  have hdrop : (remoteOf y ++ tail).dropWhile (· == '\\') = remoteOf y ++ tail := by
    refine Text.dropWhile_eq_self fun c h => ?_
    obtain ⟨d, r, hdr⟩ := List.exists_cons_of_ne_nil hp
    rw [hdr] at h hr
    cases h
    simpa using hr c List.mem_cons_self
  rw [placeOf, remoteOf_append y hat, hdrop, Text.takeWhile_append_of_head htail]
  exact List.takeWhile_eq_self_iff.mpr hr

/-- User information is hidden when a backslash stands before the last `@`. -/
theorem exists_of_not_noHiddenUser {authority : Text} (h : ¬NoHiddenUser authority) :
    ∃ a user remote, authority = a ++ '\\' :: (user ++ '@' :: remote) ∧ '@' ∉ remote := by
  simp only [NoHiddenUser, not_forall, not_not] at h
  obtain ⟨a, b, rfl, hb⟩ := h
  rcases remoteOf_cases b with ⟨hnot, -⟩ | ⟨user, remote, rfl, hr, -⟩
  · exact absurd hb hnot
  · exact ⟨a, user, remote, rfl, hr⟩

/-- Hidden user information is cut off. -/
theorem remoteOf_hidden (a user : Text) {remote : Text} (hr : '@' ∉ remote) :
    remoteOf (a ++ '\\' :: (user ++ '@' :: remote)) = remote := by
  rw [← List.cons_append, ← List.append_assoc, remoteOf_append_cons _ hr]

/-- **The written authorities whose remote is read as the place that the URL has.** -/
inductive Agrees (defaultPort : Nat) (place : Authority) (authority : Text) : Prop
  /-- No backslash hides user information. -/
  | plain (hne : authority ≠ []) (hc : NoHiddenUser authority)
  /-- A backslash hides user information, and what follows names the place once more. -/
  | repeated {a user remote : Text} (hx : authority = a ++ '\\' :: (user ++ '@' :: remote)) (hr : '@' ∉ remote)
      (hp : Authority.place? (some defaultPort) (placeOf remote) = .ok place)

/-- The remote is read as the place that the URL has on these authorities and on no other. -/
theorem place?_remoteOf_iff {authority : Text} {port : Nat} {place : Authority}
    (hurl : authority ≠ [] → Authority.place? (some port) (placeByUrl authority) = .ok place) :
    Authority.place? (some port) (placeOf (remoteOf authority)) = .ok place ↔ Agrees port place authority := by
  constructor
  · intro h
    by_cases hc : NoHiddenUser authority
    · refine .plain ?_ hc
      rintro rfl
      cases h
    · obtain ⟨a, user, remote, hx, hr⟩ := exists_of_not_noHiddenUser hc
      rw [hx, remoteOf_hidden a user hr] at h
      exact .repeated hx hr h
  · intro h
    cases h with
    | plain hne hc =>
      have hnonempty : placeByUrl authority ≠ [] := by
        intro h
        have hplace := hurl hne
        rw [h, Authority.place?_nil] at hplace
        cases hplace
      rw [placeOf_remoteOf hc hnonempty, hurl hne]
    | repeated hx hr hp => rw [hx, remoteOf_hidden _ _ hr, hp]

/-! ## The parts written as a URL -/

/-- The parts written as a URL again, with the root for its path. -/
def origin (p : Parts) : Text := p.protocol ++ mark ++ p.remote ++ ['/']

/-- **The parts name the place of a URL**: written as a URL again, they have its host and its port. -/
def NamesPlace (p : Parts) (url : Url) : Prop :=
  ∃ url', Url.parse p.origin = .ok url' ∧ url'.host = url.host ∧ url'.port = url.port

theorem namesPlace_iff_map {p : Parts} {url : Url} :
    p.NamesPlace url ↔ (Url.parse p.origin).map Url.place = .ok url.place := by
  unfold NamesPlace
  cases h : Url.parse p.origin with
  | error e =>
    constructor
    · rintro ⟨url', hu, -⟩
      cases hu
    · intro h
      cases h
  | ok url' =>
    constructor
    · rintro ⟨url'', hu, hhost, hport⟩
      cases hu
      show Except.ok (Url.place url') = Except.ok (Url.place url)
      rw [Url.place, Url.place, hhost, hport]
    · intro h
      have hplace : url'.place = url.place := Except.ok.inj h
      exact ⟨url', rfl, congrArg Authority.host hplace, congrArg Authority.port hplace⟩

/-- Nothing is trimmed off the parts written as a URL. -/
theorem significant_origin {p : Parts} (hp : ∀ c, p.protocol.head? = some c → Url.isMargin c = false) :
    Url.significant p.origin = p.protocol.filter (!Url.isDropped ·) ++
      ':' :: '/' :: '/' :: (p.remote.filter (!Url.isDropped ·) ++ ['/']) := by
  have hhead : ∀ c, p.origin.head? = some c → Url.isMargin c = false := by
    intro c hc
    unfold origin at hc
    cases h : p.protocol with
    | nil => rw [h] at hc; cases hc; decide
    | cons d protocol => rw [h] at hc; cases hc; exact hp c (by rw [h]; rfl)
  have hlast : ∀ c, p.origin.getLast? = some c → Url.isMargin c = false := by
    intro c hc
    rw [origin, List.getLast?_concat] at hc
    cases hc
    decide
  rw [Url.significant, Text.trim_eq_self hhead hlast, origin, List.filter_append, List.filter_append,
    List.filter_append, List.append_assoc, List.append_assoc]
  rfl

/-- Parts without a remote name no place. -/
theorem not_namesPlace_ofUrl {url : Url} {port : Nat} (hk : Url.schemeKind url.scheme = .web port) :
    ¬(ofUrl url).NamesPlace url := by
  have hparse : Url.parse (ofUrl url).origin = .error .emptyHost := by
    have hm := Url.mem_schemeKinds hk
    simp only [Url.schemeKinds, List.mem_cons, Prod.mk.injEq, Url.SchemeKind.web.injEq, reduceCtorEq, and_false,
      List.not_mem_nil, or_false] at hm
    unfold origin ofUrl
    rcases hm with ⟨h, -⟩ | ⟨h, -⟩ | ⟨h, -⟩ | ⟨h, -⟩ | ⟨h, -⟩ <;> rw [h] <;> rfl
  rintro ⟨url', hu, -⟩
  rw [hparse] at hu
  cases hu

section FromText

variable {input protocol rest : Text} {url : Url} {port : Nat}

/-- The protocol of parts starts where the text does. -/
theorem isMargin_of_head?_protocol {tail : Text} (hs : Text.trim Url.isMargin input = protocol ++ tail) :
    ∀ c, protocol.head? = some c → Url.isMargin c = false := by
  intro c hc
  refine Text.head?_trim (s := input) ?_
  rw [hs, List.head?_append, hc]
  rfl

/-- What stands around the mark stays apart when characters are dropped. -/
theorem significant_of_mark (hs : Text.trim Url.isMargin input = protocol ++ mark ++ rest) :
    Url.significant input =
      protocol.filter (!Url.isDropped ·) ++ ':' :: '/' :: '/' :: rest.filter (!Url.isDropped ·) := by
  rw [Url.significant, hs, List.filter_append, List.filter_append, List.append_assoc]
  rfl

/-- The place of a URL whose protocol has no colon is read behind the mark. -/
theorem map_place_origin {remote path : Text} (hk : Url.schemeKind url.scheme = .web port)
    (hu : Url.parse input = .ok url) (hs : Text.trim Url.isMargin input = protocol ++ mark ++ rest)
    (hc : ':' ∉ protocol) :
    Authority.place? (some port) (Url.placeText ('/' :: '/' :: rest.filter (!Url.isDropped ·))) = .ok url.place ∧
      (Url.parse (origin ⟨protocol, remote, path⟩)).map Url.place = Authority.place? (some port)
        (Url.placeText ('/' :: '/' :: (remote.filter (!Url.isDropped ·) ++ ['/']))) := by
  obtain ⟨behind, hscheme⟩ := Url.scheme_of_parse hu
  have hnot : ':' ∉ protocol.filter (!Url.isDropped ·) := fun hm => hc (List.mem_filter.mp hm).1
  have hsig := significant_of_mark hs
  rw [hsig] at hscheme
  obtain ⟨hbehind, hany⟩ := Url.scheme?_append_colon hnot hscheme
  constructor
  · rw [← Url.map_place_parse (by rw [hsig]; exact hany _) hk, hu]
    rfl
  · refine Url.map_place_parse ?_ hk
    rw [significant_origin (isMargin_of_head?_protocol (by rw [hs, List.append_assoc]))]
    exact hany _

/-- A URL whose scheme ends before the mark has the same place whatever stands behind the mark. -/
theorem map_place_origin_of_mem {remote path : Text} (hk : Url.schemeKind url.scheme = .web port)
    (hu : Url.parse input = .ok url) (hs : Text.trim Url.isMargin input = protocol ++ mark ++ rest)
    (hc : ':' ∈ protocol) : (Url.parse (origin ⟨protocol, remote, path⟩)).map Url.place = .ok url.place := by
  obtain ⟨behind, hscheme⟩ := Url.scheme_of_parse hu
  have hmem : ':' ∈ protocol.filter (!Url.isDropped ·) := List.mem_filter.mpr ⟨hc, by decide⟩
  obtain ⟨a, z, haz, ha⟩ := List.eq_append_cons_of_mem hmem
  have hsig : Url.significant input = a ++ ':' :: (z ++ ':' :: '/' :: '/' :: rest.filter (!Url.isDropped ·)) := by
    rw [significant_of_mark hs, haz, List.append_assoc]
    rfl
  have horigin : Url.significant (origin ⟨protocol, remote, path⟩) =
      a ++ ':' :: (z ++ ':' :: '/' :: '/' :: (remote.filter (!Url.isDropped ·) ++ ['/'])) := by
    rw [significant_origin (isMargin_of_head?_protocol (by rw [hs, List.append_assoc])), haz, List.append_assoc]
    rfl
  rw [hsig] at hscheme
  obtain ⟨hbehind, hany⟩ := Url.scheme?_append_colon ha hscheme
  calc (Url.parse (origin ⟨protocol, remote, path⟩)).map Url.place
      = Authority.place? (some port) (Url.placeText (z ++ [':'])) := by
        rw [Url.map_place_parse (by rw [horigin]; exact hany _) hk, Url.placeText_append]
    _ = (Url.parse input).map Url.place := by
        rw [Url.map_place_parse (by rw [hsig]; exact hany _) hk, Url.placeText_append]
    _ = .ok url.place := by
        rw [hu]
        rfl

end FromText

/-- **The spellings whose parts name the place of the URL**, for a text without margins. -/
inductive Aligned (defaultPort : Nat) (url : Url) (s : Text) : Prop
  /-- The scheme ends at a colon before the mark, so what stands behind the mark does not count. -/
  | later {protocol rest : Text} (hm : Text.cutMark? mark s = some (protocol, rest)) (hc : ':' ∈ protocol)
  /-- The authority behind the mark is read in the same way. -/
  | behind {protocol rest : Text} (hm : Text.cutMark? mark s = some (protocol, rest))
      (ha : Agrees defaultPort url.place (writtenAuthority rest))

/-- **The parts of a URL of the web name its place exactly on the aligned spellings.** -/
theorem namesPlace_iff {input : Text} {url : Url} {parts : Parts} {port : Nat}
    (hk : Url.schemeKind url.scheme = .web port) (hu : Url.parse input = .ok url) (hp : ofText input = .ok parts) :
    parts.NamesPlace url ↔ Aligned port url (Text.trim Url.isMargin input) := by
  have hparts : parts = (written? (Text.trim Url.isMargin input)).getD (ofUrl url) := by
    rw [ofText, hu] at hp
    exact (Except.ok.inj hp).symm
  rw [hparts, written?]
  cases hm : Text.cutMark? mark (Text.trim Url.isMargin input) with
  | none =>
    refine iff_of_false (not_namesPlace_ofUrl hk) ?_
    intro h
    cases h with
    | later h => rw [hm] at h; cases h
    | behind h => rw [hm] at h; cases h
  | some cut =>
    obtain ⟨protocol, rest⟩ := cut
    have hs := Text.eq_of_cutMark? hm
    rw [namesPlace_iff_map]
    by_cases hc : ':' ∈ protocol
    · exact iff_of_true (map_place_origin_of_mem hk hu hs hc) (.later hm hc)
    · obtain ⟨hplace, horigin⟩ := map_place_origin hk hu hs hc
      have hurl : writtenAuthority rest ≠ [] →
          Authority.place? (some port) (placeByUrl (writtenAuthority rest)) = .ok url.place := fun hne => by
        rw [← placeText_filter hne, hplace]
      show (Url.parse (origin ⟨protocol, _, _⟩)).map Url.place = _ ↔ _
      rw [horigin, placeText_remoteOf, place?_remoteOf_iff hurl]
      constructor
      · exact fun ha => .behind hm ha
      · intro h
        cases h with
        | later h hc' => rw [hm] at h; cases h; exact absurd hc' hc
        | behind h ha => rw [hm] at h; cases h; exact ha

/-- A backslash behind the `@` hides nothing. -/
theorem namesPlace_of_backslash_behind_user :
    let input := "http://me@a.com\\b/c".toList
    let url : Url := ⟨"http".toList, some (.domain "a.com".toList), none, "/b/c".toList⟩
    let parts : Parts := ⟨"http".toList, "a.com\\b".toList, "/c".toList⟩
    Url.schemeKind url.scheme = .web 80 ∧ Url.parse input = .ok url ∧ ofText input = .ok parts ∧
      parts.NamesPlace url := by
  intro input url parts
  have hk : Url.schemeKind url.scheme = .web 80 := by decide
  have hu : Url.parse input = .ok url := by decide +kernel
  have hp : ofText input = .ok parts := by decide +kernel
  have hm : Text.cutMark? mark (Text.trim Url.isMargin input) = some ("http".toList, "me@a.com\\b/c".toList) := by
    decide +kernel
  exact ⟨hk, hu, hp, (namesPlace_iff hk hu hp).mpr (.behind hm (.plain (by decide +kernel) (by decide +kernel)))⟩

/-- A backslash before the `@` gives the parts a host that is not that of the URL. -/
theorem not_namesPlace_of_hidden_user :
    let input := "http://evil.com\\@good.com/".toList
    let url : Url := ⟨"http".toList, some (.domain "evil.com".toList), none, "/@good.com/".toList⟩
    let parts : Parts := ⟨"http".toList, "good.com".toList, "/".toList⟩
    Url.parse input = .ok url ∧ ofText input = .ok parts ∧ ¬parts.NamesPlace url := by
  intro input url parts
  refine ⟨by decide +kernel, by decide +kernel, ?_⟩
  rw [namesPlace_iff_map]
  decide +kernel

end Parts
end WebScope
