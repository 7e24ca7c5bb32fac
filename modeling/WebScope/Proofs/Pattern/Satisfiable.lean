import WebScope.Proofs.Pattern.Meaning
import WebScope.Proofs.Url.Attained

/-!
# Patterns that match something

Whether there is a text that a pattern matches. The stages of a test look at one part each, so they can be met one by one:
a protocol by any that is listed, a host by a name that it covers, a path by a text of its glob. What is left to ask is
whether some URL has these parts (`Parts.exists_ofText_iff`).

- Every glob has a text (`Glob.matches_sample`), and each of its texts holds what stands for itself in the glob
  (`Glob.Matches.mem`); likewise the remotes that a host covers (`HostToken.covers_sample`, `HostToken.Covers.mem`).
- So a host and a path can be met if they hold nothing that parts lack (`Pattern.exists_covers_iff`).

Main statement: **a pattern matches something** exactly if it is valid and can be met (`Pattern.exists_test_iff`).
-/

namespace WebScope

/-! ## Globs -/

namespace Glob

/-- A text of a glob: `?` is an `x`, and a star is itself. -/
def sample (g : Text) : Text := g.map fun c => if c = '?' then 'x' else c

theorem sample_cons {c : Char} (hc : c ≠ '?') (g : Text) : sample (c :: g) = c :: sample g := by simp [sample, hc]

/-- **Every glob has a text.** -/
theorem matches_sample : ∀ g : Text, Matches g (sample g)
  | [] => .nil
  | c :: g => by
    have ih := matches_sample g
    by_cases hq : c = '?'
    · subst hq
      exact .one (by decide) ih
    · rw [sample_cons hq]
      by_cases hs : c = '*'
      · subst hs
        have hstar : ∀ c ∈ ['*'], c ≠ '\n' := by simp
        exact .run hstar ih
      · exact .char hq hs ih

/-- The sample holds nothing that the glob does not hold, but for `x`, and no `?`. -/
theorem mem_of_mem_sample {g : Text} {c : Char} (h : c ∈ sample g) : c ≠ '?' ∧ (c = 'x' ∨ c ∈ g) := by
  obtain ⟨d, hd, rfl⟩ := List.mem_map.mp h
  split
  · exact ⟨by decide, .inl rfl⟩
  · rename_i hq
    exact ⟨hq, .inr hd⟩

/-- **What stands for itself in a glob is in all its texts.** -/
theorem Matches.mem {g s : Text} (h : Matches g s) {c : Char} (hq : c ≠ '?') (hs : c ≠ '*') : c ∈ g → c ∈ s := by
  induction h with
  | nil => exact id
  | one _ _ ih => exact fun hc => List.mem_cons_of_mem _ (ih ((List.mem_cons.mp hc).resolve_left hq))
  | run _ _ ih => exact fun hc => List.mem_append_right _ (ih ((List.mem_cons.mp hc).resolve_left hs))
  | char _ _ _ ih =>
    intro hc
    rcases List.mem_cons.mp hc with rfl | hc
    · exact List.mem_cons_self
    · exact List.mem_cons_of_mem _ (ih hc)

end Glob

/-! ## Hosts -/

namespace HostToken

/-- A remote that a host covers: the name that it is or that it stands before. -/
def sample : Text → Text
  | ['*'] => []
  | '*' :: '.' :: s => s
  | s => s

/-- **Every host covers a remote.** -/
theorem covers_sample (host : Text) : Covers host (sample host) := by
  unfold sample
  split
  · exact .inl rfl
  · exact .inr (.inr ⟨_, rfl, .inl rfl⟩)
  · exact .inr (.inl rfl)

theorem mem_of_mem_sample {host : Text} {c : Char} (h : c ∈ sample host) : c ∈ host := by
  unfold sample at h
  split at h
  · cases h
  · exact List.mem_cons_of_mem _ (List.mem_cons_of_mem _ h)
  · exact h

/-- **What a host holds besides the star and its dot is in all the remotes that it covers.** -/
theorem Covers.mem {host remote : Text} (h : Covers host remote) {c : Char} (hstar : c ≠ '*') (hdot : c ≠ '.')
    (hc : c ∈ host) : c ∈ remote := by
  rcases h with rfl | rfl | ⟨s, rfl, hr⟩
  · exact absurd (List.mem_singleton.mp hc) hstar
  · exact hc
  · have hs : c ∈ s := (List.mem_cons.mp ((List.mem_cons.mp hc).resolve_left hstar)).resolve_left hdot
    rcases hr with rfl | ⟨front, rfl⟩
    · exact hs
    · exact List.mem_append_right _ (List.mem_cons_of_mem _ hs)

end HostToken

/-! ## Patterns -/

/-- **Segments that the parts of some URL can meet**: the host holds nothing that starts a query or ends user
information, and the path nothing that starts a fragment. -/
def Segments.IsMeetable (s : Segments) : Prop := ('?' ∉ s.host ∧ '#' ∉ s.host ∧ '@' ∉ s.host) ∧ '#' ∉ s.path

instance : DecidablePred Segments.IsMeetable := fun s => inferInstanceAs
  (Decidable (('?' ∉ s.host ∧ '#' ∉ s.host ∧ '@' ∉ s.host) ∧ '#' ∉ s.path))

namespace Pattern

/-- **Whether the parts of some URL can meet a text**: its segments can be met, if it has any. -/
def IsMeetable (raw : Text) : Prop := ∀ s, Segments.ofText? raw = some s → s.IsMeetable

open Segments (Reads)

section Reads

variable {raw : Text} {s : Segments} {ps : List Text} (h : Reads raw ps s.host s.path)

include h

/-- A protocol list has a protocol that can be named. -/
theorem exists_listed : ∃ p ∈ allowedProtocols, p ∈ ps ∨ ['*'] ∈ ps := by
  obtain ⟨p, hp⟩ := List.exists_mem_of_ne_nil ps h.ne_nil
  rcases h.named p hp with hallowed | rfl
  · exact ⟨p, hallowed, .inl hp⟩
  · exact ⟨"http".toList, by decide, .inr hp⟩

/-- **The parts of some URL are covered** exactly if host and path hold nothing that parts lack. -/
theorem exists_covers_iff :
    (∃ u parts, Parts.ofText u = .ok parts ∧ Covers ps s.host s.path parts) ↔ s.IsMeetable := by
  constructor
  · rintro ⟨u, parts, hparts, hcovers⟩
    obtain ⟨⟨-, hquery, hfragment, hat⟩, -, -, hpath⟩ := Parts.isCut_of_ofText hparts hcovers.allowed
    refine ⟨⟨fun hm => hquery ?_, fun hm => hfragment ?_, fun hm => hat ?_⟩, fun hm => hpath ?_⟩
    · exact hcovers.remote.mem (by decide) (by decide) hm
    · exact hcovers.remote.mem (by decide) (by decide) hm
    · exact hcovers.remote.mem (by decide) (by decide) hm
    · exact hcovers.inLanguage.mem (by decide) (by decide) hm
  · rintro ⟨⟨hquery, hfragment, hat⟩, hpath⟩
    obtain ⟨p, hallowed, hlisted⟩ := exists_listed h
    obtain ⟨t, ht, -⟩ := h.pathForm
    have hcut : Parts.IsCut ⟨p, HostToken.sample s.host, Glob.sample s.path⟩ := by
      refine ⟨⟨?_, ?_, ?_, ?_⟩, ⟨Glob.sample t, ?_⟩, ?_, ?_⟩
      · exact fun hm => h.hostForm.not_mem (HostToken.mem_of_mem_sample hm)
      · exact fun hm => hquery (HostToken.mem_of_mem_sample hm)
      · exact fun hm => hfragment (HostToken.mem_of_mem_sample hm)
      · exact fun hm => hat (HostToken.mem_of_mem_sample hm)
      · rw [ht]
        exact Glob.sample_cons (by decide) t
      · exact fun hm => (Glob.mem_of_mem_sample hm).1 rfl
      · exact fun hm => hpath ((Glob.mem_of_mem_sample hm).2.resolve_left (by decide))
    obtain ⟨u, hu⟩ := (Parts.exists_ofText_iff hallowed).mpr hcut
    exact ⟨u, _, hu, hallowed, hlisted, HostToken.covers_sample s.host, Glob.matches_sample s.path⟩

end Reads

/-- The pattern of a text is valid if it matches everything, or if the text compiles. -/
theorem isValid_ofText_iff {raw : Text} :
    (ofText raw).isValid = true ↔ (raw = [] ∨ raw = matchAllUrls) ∨ ∃ r, Record.compile raw = .ok r := by
  by_cases hall : raw = [] ∨ raw = matchAllUrls
  · simp [isValid, isMatchAll_ofText_iff.mpr hall, hall]
  · obtain ⟨hne, hne'⟩ := not_or.mp hall
    rw [isValid, isMatchAll_ofText_eq_false hne hne', Bool.false_or, Option.isSome_iff_exists, or_iff_right hall]
    exact exists_congr fun r => compiled_ofText_eq_some_iff hne hne'

/-- A text that is not of the grammar is valid only as the pattern that matches everything. -/
theorem isMatchAll_of_isValid {raw : Text} (hnone : Segments.ofText? raw = none) (h : (ofText raw).isValid = true) :
    (ofText raw).isMatchAll = true := by
  rcases isValid_ofText_iff.mp h with hall | ⟨r, hr⟩
  · exact isMatchAll_ofText_iff.mpr hall
  · obtain ⟨s, hs, -⟩ := Record.exists_segments_of_compile hr
    cases hnone.symm.trans hs

/-- A text of the grammar is valid exactly if its path compiles. -/
theorem isValid_iff_of_ofText? {raw : Text} {s : Segments} (hs : Segments.ofText? raw = some s) :
    (ofText raw).isValid = true ↔ ∃ r, Glob.compile s.path = .ok r := by
  rw [isValid_ofText_iff, or_iff_right (not_or.mpr (Segments.ne_of_ofText? hs))]
  simp only [Record.compile, hs, Record.ofSegments]
  cases Glob.compile s.path <;> simp

/-- **A pattern matches something** exactly if it is valid and can be met. -/
theorem exists_test_iff (raw : Text) :
    (∃ u, (ofText raw).test u = true) ↔ (ofText raw).isValid = true ∧ IsMeetable raw := by
  unfold IsMeetable
  cases hs : Segments.ofText? raw with
  | none =>
    constructor
    · rintro ⟨u, hu⟩
      refine ⟨?_, nofun⟩
      rw [← Bool.not_eq_false]
      intro hinvalid
      cases (test_eq_false hinvalid u).symm.trans hu
    · exact fun ⟨hvalid, _⟩ => ⟨[], test_iff.mpr (.inl (isMatchAll_of_isValid hs hvalid))⟩
  | some s =>
    have h := Segments.reads_iff.mpr ⟨s, hs, rfl, rfl, rfl⟩
    simp only [isValid_iff_of_ofText? hs, test_iff_of_reads h, exists_and_left, exists_covers_iff h, Option.some.injEq,
      forall_eq']

/-- So a pattern matches nothing if it is not valid or cannot be met. -/
theorem test_eq_false_iff (raw : Text) :
    (∀ u, (ofText raw).test u = false) ↔ (ofText raw).isValid = false ∨ ¬IsMeetable raw := by
  rw [← Bool.not_eq_true, ← not_and_or, ← exists_test_iff]
  simp

end Pattern
end WebScope
