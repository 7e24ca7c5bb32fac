import WebScope.Pattern.Record
import WebScope.Proofs.Text.Cutting

/-!
# The grammar of patterns

`Segments.ofText?` cuts a text and checks the pieces. Here the grammar of patterns is stated without cutting: a text
reads `protocols://host/path` if it is put together from a protocol list, a host and a path (`Segments.Reads`).

- The protocol lists, hosts and paths that pass the checks are those of the grammar (`isProtocolList_iff`,
  `isHost_iff`, `isPath_iff`).
- **The splitter accepts exactly the grammar**, and finds the segments that the text was put together from
  (`ofText?_eq_some_iff`); a text that is accepted has one protocol list only (`reads_iff`).
-/

namespace WebScope
namespace Segments

/-! ## The segments of the grammar -/

/-- **A protocol list**: protocols that patterns can name, or `*`, at least one, joined by `+`. -/
structure Lists (ps : List Text) (protocols : Text) : Prop where
  ne_nil : ps ≠ []
  named : ∀ p ∈ ps, p ∈ allowedProtocols ∨ p = matchAll
  joined : protocols = [protocolDelimiter].intercalate ps

/-- A host name: some characters, none of them `*` or `/`. -/
def IsHostName (s : Text) : Prop := s ≠ [] ∧ '*' ∉ s ∧ '/' ∉ s

/-- **The hosts of patterns.** -/
inductive HostForm : Text → Prop
  | empty : HostForm []
  | any : HostForm ['*']
  | below {s : Text} : IsHostName s → HostForm ('*' :: '.' :: s)
  | name {s : Text} : IsHostName s → HostForm s

/-- **The paths of patterns**: a slash, then any characters but line feeds. -/
def PathForm (s : Text) : Prop := ∃ t, s = '/' :: t ∧ '\n' ∉ t

/-- **The grammar of patterns**: the text `raw` reads as the protocols `ps`, a host and a path. -/
structure Reads (raw : Text) (ps : List Text) (host path : Text) : Prop where
  ne_nil : ps ≠ []
  named : ∀ p ∈ ps, p ∈ allowedProtocols ∨ p = matchAll
  hostForm : HostForm host
  pathForm : PathForm path
  text : raw = [protocolDelimiter].intercalate ps ++ hostMark ++ host ++ path

/-! ## The checks -/

/-- What can be named in a protocol list has neither a colon nor a `+`. -/
theorem not_mem_of_named {p : Text} (h : p ∈ allowedProtocols ∨ p = matchAll) : ':' ∉ p ∧ protocolDelimiter ∉ p := by
  rcases h with h | rfl
  · simp only [allowedProtocols, List.mem_cons, List.not_mem_nil, or_false] at h
    rcases h with rfl | rfl | rfl | rfl <;> decide
  · decide

/-- The alternatives of a text are its parts between the `+`. -/
theorem alternatives_eq_splitOn (s : Text) : alternatives s = s.splitOn protocolDelimiter := by
  rw [alternatives, Text.fields_eq_splitOnP, List.splitOn_eq_splitOnP]

/-- The alternatives of a protocol list are the protocols that it was joined from. -/
theorem Lists.alternatives_eq {ps : List Text} {s : Text} (h : Lists ps s) : alternatives s = ps := by
  rw [alternatives_eq_splitOn, h.joined]
  exact List.splitOn_intercalate _ (fun p hp => (not_mem_of_named (h.named p hp)).2) h.ne_nil

/-- One protocol is a protocol list. -/
theorem lists_singleton {p : Text} (h : p ∈ allowedProtocols ∨ p = matchAll) : Lists [p] p where
  ne_nil := by simp
  named := by simpa using h
  joined := by simp

/-- Two protocol lists with a `+` between them are a protocol list. -/
theorem Lists.append {ps qs : List Text} {s t : Text} (hs : Lists ps s) (ht : Lists qs t) :
    Lists (ps ++ qs) (s ++ protocolDelimiter :: t) where
  ne_nil := by simp [hs.ne_nil]
  named := by
    intro p hp
    rcases List.mem_append.mp hp with h | h
    · exact hs.named p h
    · exact ht.named p h
  joined := by
    have hparts : (s ++ protocolDelimiter :: t).splitOn protocolDelimiter = ps ++ qs := by
      rw [List.splitOn_append_cons_self, ← alternatives_eq_splitOn, ← alternatives_eq_splitOn, hs.alternatives_eq,
        ht.alternatives_eq]
    rw [← hparts, List.intercalate_splitOn]

/-- A protocol list is a text whose alternatives can be named. -/
theorem isProtocolList_iff {s : Text} : isProtocolList s = true ↔ Lists (alternatives s) s := by
  have hcheck : isProtocolList s = true ↔ ∀ p ∈ alternatives s, p ∈ allowedProtocols ∨ p = matchAll := by
    simp [isProtocolList, or_comm]
  rw [hcheck]
  constructor
  · intro h
    refine ⟨Text.fields_ne_nil _ _, h, ?_⟩
    rw [alternatives_eq_splitOn, List.intercalate_splitOn]
  · exact fun h => h.named

/-- No protocol list holds a colon. -/
theorem Lists.not_mem {ps : List Text} {s : Text} (h : Lists ps s) : ':' ∉ s := by
  obtain ⟨-, hnamed, rfl⟩ := h
  induction ps with
  | nil => simp
  | cons p ps ih =>
    have hp := (not_mem_of_named (hnamed p List.mem_cons_self)).1
    have hps := ih fun q hq => hnamed q (List.mem_cons_of_mem _ hq)
    cases ps with
    | nil => simpa using hp
    | cons q ps =>
      rw [List.intercalate_cons_cons]
      simp only [List.mem_append, not_or]
      exact ⟨⟨hp, by decide⟩, hps⟩

theorem isName_iff {s : Text} : isName s = true ↔ IsHostName s := by
  simp only [isName, IsHostName, Bool.and_eq_true, bne_iff_ne, ne_eq, List.all_eq_true]
  refine and_congr_right fun _ => ?_
  constructor
  · intro h
    exact ⟨fun hm => (h _ hm).1 rfl, fun hm => (h _ hm).2 rfl⟩
  · rintro ⟨hs, hd⟩ c hc
    exact ⟨fun he => hs (he ▸ hc), fun he => hd (he ▸ hc)⟩

/-- The hosts that are accepted are those of the grammar. -/
theorem isHost_iff {s : Text} : isHost s = true ↔ HostForm s := by
  simp only [isHost, Bool.or_eq_true, beq_iff_eq, Option.any_eq_true, isName_iff, Text.after?_eq_some_iff]
  constructor
  · rintro (((rfl | rfl) | h) | ⟨r, rfl, h⟩)
    · exact .empty
    · exact .any
    · exact .name h
    · exact .below h
  · intro h
    cases h with
    | empty => exact Or.inl (Or.inl (Or.inl rfl))
    | any => exact Or.inl (Or.inl (Or.inr rfl))
    | below h => exact Or.inr ⟨_, rfl, h⟩
    | name h => exact Or.inl (Or.inr h)

/-- No host of a pattern holds a slash. -/
theorem HostForm.not_mem {s : Text} (h : HostForm s) : '/' ∉ s := by
  cases h with
  | empty => decide
  | any => decide
  | below h => simpa using h.2.2
  | name h => exact h.2.2

/-- The paths that are accepted are those of the grammar. -/
theorem isPath_iff {s : Text} : isPath s = true ↔ PathForm s := by
  simp only [isPath, PathForm, Bool.and_eq_true, beq_iff_eq, List.all_eq_true, bne_iff_ne]
  constructor
  · rintro ⟨hs, hn⟩
    obtain ⟨t, rfl⟩ := List.head?_eq_some_iff.mp hs
    exact ⟨t, rfl, fun h => hn _ (List.mem_cons_of_mem _ h) rfl⟩
  · rintro ⟨t, rfl, hn⟩
    refine ⟨rfl, fun c hc he => ?_⟩
    rcases List.mem_cons.mp hc with rfl | hc
    · exact absurd he (by decide)
    · exact hn (he ▸ hc)

/-! ## The splitter -/

/-- The segments that a text is put together from are found again. -/
theorem ofText?_toText {s : Segments} {ps : List Text} (hp : Lists ps s.protocols) (hh : HostForm s.host)
    (hpath : PathForm s.path) : ofText? s.toText = some s := by
  obtain ⟨t, ht, -⟩ := id hpath
  have hcut : Text.cutMark? hostMark s.toText = some (s.protocols, s.host ++ s.path) := by
    have h := Text.cutMark?_append "//".toList (a := s.protocols) (s.host ++ s.path) hp.not_mem
    rw [toText, List.append_assoc]
    exact h
  have hhost : ∀ c ∈ s.host, (c != '/') = true := by
    intro c hc
    rw [bne_iff_ne]
    rintro rfl
    exact hh.not_mem hc
  have htake : (s.host ++ s.path).takeWhile (· != '/') = s.host := by
    rw [ht]; exact Text.takeWhile_append_cons hhost (by decide) t
  have hdrop : (s.host ++ s.path).dropWhile (· != '/') = s.path := by
    rw [ht]; exact Text.dropWhile_append_cons hhost (by decide) t
  have hlist : isProtocolList s.protocols = true := by
    rw [isProtocolList_iff, hp.alternatives_eq]; exact hp
  simp only [ofText?, hcut, Option.bind_eq_bind, Option.bind_some, htake, hdrop]
  rw [if_pos]
  simp only [Bool.and_eq_true]
  exact ⟨⟨hlist, isHost_iff.mpr hh⟩, isPath_iff.mpr hpath⟩

/-- The segments that are found pass the checks. -/
theorem checked_of_ofText? {raw : Text} {s : Segments} (h : ofText? raw = some s) :
    Lists (alternatives s.protocols) s.protocols ∧ HostForm s.host ∧ PathForm s.path := by
  simp only [ofText?, Option.bind_eq_bind, Option.bind_eq_some_iff, Prod.exists] at h
  obtain ⟨p, r, -, h⟩ := h
  split at h
  · rename_i hc
    simp only [Bool.and_eq_true] at hc
    simp only [Option.some.injEq] at h
    subst h
    exact ⟨isProtocolList_iff.mp hc.1.1, isHost_iff.mp hc.1.2, isPath_iff.mp hc.2⟩
  · cases h

/-- **The splitter accepts exactly the grammar**: it finds the segments from which a text is put together. -/
theorem ofText?_eq_some_iff {raw : Text} {s : Segments} :
    ofText? raw = some s ↔ raw = s.toText ∧ (∃ ps, Lists ps s.protocols) ∧ HostForm s.host ∧ PathForm s.path := by
  constructor
  · intro h
    obtain ⟨hp, hh, hpath⟩ := checked_of_ofText? h
    exact ⟨eq_of_ofText? h, ⟨_, hp⟩, hh, hpath⟩
  · rintro ⟨rfl, ⟨ps, hp⟩, hh, hpath⟩
    exact ofText?_toText hp hh hpath

/-- A text of the grammar has the protocols, the host and the path that the splitter finds. -/
theorem reads_iff {raw : Text} {ps : List Text} {host path : Text} :
    Reads raw ps host path ↔
      ∃ s, ofText? raw = some s ∧ alternatives s.protocols = ps ∧ s.host = host ∧ s.path = path := by
  constructor
  · rintro ⟨hne, hnamed, hh, hpath, rfl⟩
    have hp : Lists ps ([protocolDelimiter].intercalate ps) := ⟨hne, hnamed, rfl⟩
    have hs := ofText?_toText (s := ⟨_, host, path⟩) hp hh hpath
    exact ⟨_, hs, hp.alternatives_eq, rfl, rfl⟩
  · rintro ⟨s, hs, rfl, rfl, rfl⟩
    obtain ⟨hp, hh, hpath⟩ := checked_of_ofText? hs
    refine ⟨hp.ne_nil, hp.named, hh, hpath, ?_⟩
    rw [← hp.joined]
    exact eq_of_ofText? hs

/-- The text that is made up of a protocol list, a host and a path is of the grammar. -/
theorem reads_toText {ps : List Text} {s host path : Text} (hs : Lists ps s) (hhost : HostForm host)
    (hpath : PathForm path) : Reads (toText ⟨s, host, path⟩) ps host path where
  ne_nil := hs.ne_nil
  named := hs.named
  hostForm := hhost
  pathForm := hpath
  text := by rw [toText, ← hs.joined]

end Segments
end WebScope
